/-!
# Mailboxes

A `Mailbox` keeps what was told since its owner last looked.  It holds a limited number of
entries; the oldest ones are lost when there are more, and their number is kept.
-/

namespace TaskDesk

/-- The entries that are kept, and how many were lost. -/
structure Mailbox (α : Type) where
  capacity : Nat
  entries : List α
  lost : Nat

namespace Mailbox

variable {α : Type}

/-- A mailbox without entries. -/
def empty (capacity : Nat) : Mailbox α := ⟨capacity, [], 0⟩

/-- The mailbox with new entries at the end. -/
def tell (m : Mailbox α) (news : List α) : Mailbox α :=
  let all := m.entries ++ news
  let excess := all.length - m.capacity
  { m with entries := all.drop excess, lost := m.lost + excess }

/-- The mailbox after its owner has looked. -/
def read (m : Mailbox α) : Mailbox α := empty m.capacity

theorem entries_tell (m : Mailbox α) (news : List α)
    (h : m.entries.length + news.length ≤ m.capacity) :
  (m.tell news).entries = m.entries ++ news
  := by
  have h' : m.entries.length + news.length - m.capacity = 0 := by omega
  simp [tell, h']

end Mailbox

/-- How many events about folders a listener can fall behind. -/
def folderEventCapacity : Nat := 64

/-- How many events of a wizard a listener can fall behind. -/
def wizardEventCapacity : Nat := 16

end TaskDesk
