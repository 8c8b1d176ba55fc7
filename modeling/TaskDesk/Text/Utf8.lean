/-!
# Text in UTF-8

`decodeLossy` reads bytes as text.  Bytes that are no text are read as the replacement
character: one for the longest run that begins a character but does not complete it, and one
for any other byte.
-/

namespace TaskDesk.Text.Utf8

/-- What the first byte of a character of several bytes says: its bits of the number, how many
bytes follow, and the range of the next one. -/
structure Lead where
  bits : Nat
  count : Nat
  low : Nat
  high : Nat
deriving DecidableEq, Repr

/-- What a byte says as the first one of a character of several bytes. -/
def lead? (b : Nat) : Option Lead :=
  if 0xC2 ≤ b ∧ b ≤ 0xDF then some ⟨b - 0xC0, 1, 0x80, 0xBF⟩
  else if b = 0xE0 then some ⟨0, 2, 0xA0, 0xBF⟩
  else if b = 0xED then some ⟨0xD, 2, 0x80, 0x9F⟩
  else if 0xE1 ≤ b ∧ b ≤ 0xEF then some ⟨b - 0xE0, 2, 0x80, 0xBF⟩
  else if b = 0xF0 then some ⟨0, 3, 0x90, 0xBF⟩
  else if b = 0xF4 then some ⟨4, 3, 0x80, 0x8F⟩
  else if 0xF1 ≤ b ∧ b ≤ 0xF3 then some ⟨b - 0xF0, 3, 0x80, 0xBF⟩
  else none

/-- The character that stands for bytes that are no text. -/
def replacement : Char := '\ufffd'

/-- The character whose bytes go on as a lead says, and the bytes after it. -/
def complete : Nat → Nat → Nat → Nat → List UInt8 → Char × List UInt8
  | bits, 0, _, _, bytes => (Char.ofNat bits, bytes)
  | bits, count + 1, low, high, b :: bytes =>
    if low ≤ b.toNat ∧ b.toNat ≤ high then
      complete (64 * bits + (b.toNat - 0x80)) count 0x80 0xBF bytes
    else (replacement, b :: bytes)
  | _, _ + 1, _, _, [] => (replacement, [])

theorem length_complete_le (bits count low high : Nat) (bytes : List UInt8) :
  (complete bits count low high bytes).2.length ≤ bytes.length
  := by
  fun_induction complete bits count low high bytes with
  | case1 => simp
  | case2 _ _ _ _ b bytes _ ih => simp; omega
  | case3 => simp
  | case4 => simp

/-- The text that bytes stand for. -/
def decodeLossy : List UInt8 → List Char
  | [] => []
  | b :: bytes =>
    if b.toNat < 0x80 then Char.ofNat b.toNat :: decodeLossy bytes
    else
      match lead? b.toNat with
      | none => replacement :: decodeLossy bytes
      | some l =>
        (complete l.bits l.count l.low l.high bytes).1
          :: decodeLossy (complete l.bits l.count l.low l.high bytes).2
termination_by bytes => bytes.length
decreasing_by
  · simp
  · simp
  · have := length_complete_le l.bits l.count l.low l.high bytes
    simp
    omega

end TaskDesk.Text.Utf8
