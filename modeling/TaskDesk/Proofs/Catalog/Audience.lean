import TaskDesk.Catalog.Registry
import Mathlib.Tactic.Common

/-!
# Readers of the current catalog

An `Audience` is a registry with the snapshots that it handed out and with its subscribers, which
look when they like.  Calls put catalogs in place in some order, or fail.  Whatever the order, the
catalog in use is the one that was put in place last, the two channels of the registry agree,
snapshots stay what they were, and a subscriber has something new to see exactly if a call succeeded
since it looked: `observed_of_start`.
-/

namespace TaskDesk

namespace Registry

variable {r : Registry} {a : Action} {c : Catalog} {e : CatalogError}

theorem apply_ok (r : Registry) (h : a.catalog = .ok c) :
  r.apply a = (r.install c, .ok c)
  := by
  rw [apply, h]

theorem apply_error (r : Registry) (h : a.catalog = .error e) :
  r.apply a = (r, .error e)
  := by
  rw [apply, h]

/-- The catalogs that actions put in place, the first one first. -/
def installed (actions : List Action) : List Catalog :=
  actions.filterMap fun a => a.catalog.toOption

theorem installed_ok (h : a.catalog = .ok c) (rest : List Action) :
  installed (a :: rest) = c :: installed rest
  := List.filterMap_cons_some (by rw [h]; rfl)

theorem installed_error (h : a.catalog = .error e) (rest : List Action) :
  installed (a :: rest) = installed rest
  := List.filterMap_cons_none (by rw [h]; rfl)

/-- Both channels of a registry after actions are known from the catalogs put in place. -/
theorem run_eq (r : Registry) (actions : List Action) :
  r.run actions
    = ⟨⟨(installed actions).getLast?.getD r.catalog,
          r.catalogs.replaced + (installed actions).length⟩,
        ⟨r.isLoaded || !(installed actions).isEmpty,
          r.loads.replaced + (installed actions).length⟩⟩
  := by
  induction actions generalizing r with
  | nil => simp [run, installed, catalog, isLoaded]
  | cons a rest ih =>
    have hrun : r.run (a :: rest) = (r.apply a).1.run rest := rfl
    rw [hrun, ih]
    cases h : a.catalog with
    | error e => rw [apply_error r h, installed_error h]
    | ok c =>
      rw [apply_ok r h, installed_ok h]
      simp [install, Channel.replace, catalog, isLoaded, List.getLast?_cons, Nat.add_assoc,
        Nat.add_comm]

end Registry

open Registry

/-- A registry with the snapshots that it handed out and with its subscribers, each in order. -/
structure Audience where
  registry : Registry
  held : List Catalog
  subscribers : List Subscriber

namespace Audience

/-- What can happen to a registry: it is called to put a catalog in place, somebody takes a snapshot
or subscribes, or a subscriber looks. -/
inductive Event where
  | call (a : Registry.Action)
  | take
  | subscribe
  | look (k : Nat)

/-- A registry before any catalog is loaded and before anybody knows it. -/
def start : Audience := ⟨Registry.empty, [], []⟩

/-- The audience after an event.  A call that succeeds hands out a snapshot. -/
def after (s : Audience) : Event → Audience
  | .call a =>
    { s with
      registry := (s.registry.apply a).1
      held := s.held ++ (s.registry.apply a).2.toOption.toList }
  | .take => { s with held := s.held ++ [s.registry.catalog] }
  | .subscribe => { s with subscribers := s.subscribers ++ [s.registry.subscribe] }
  | .look k => { s with subscribers := s.subscribers.modify k fun x => (s.registry.look x).2 }

/-- The audience after events, the first one first. -/
def run (s : Audience) (events : List Event) : Audience :=
  events.foldl after s

/-- The action of a call. -/
def Event.action? : Event → Option Registry.Action
  | .call a => some a
  | _ => none

/-- The catalogs that calls put in place, the first one first. -/
def catalogs (events : List Event) : List Catalog :=
  installed (events.filterMap Event.action?)

/-- The catalog of the last call that succeeded; there is none before. -/
def latest (events : List Event) : Catalog :=
  (catalogs events).getLast?.getD Catalog.empty

/-- Whether a subscriber has seen everything right after an event. -/
def Event.Informs (s : Audience) (k : Nat) : Event → Prop
  | .subscribe => k = s.subscribers.length
  | .look j => j = k ∧ k < s.subscribers.length
  | _ => False

variable {s : Audience} {e : Event} {done rest events : List Event} {k : Nat}

theorem run_append (s : Audience) (done rest : List Event) :
  s.run (done ++ rest) = (s.run done).run rest
  := List.foldl_append

theorem registry_run (s : Audience) (events : List Event) :
  (s.run events).registry = s.registry.run (events.filterMap Event.action?)
  := by
  induction events generalizing s with
  | nil => rfl
  | cons e rest ih =>
    have hrun : s.run (e :: rest) = (s.after e).run rest := rfl
    rw [hrun, ih]
    cases e <;> rfl

theorem catalog_run (events : List Event) :
  (start.run events).registry.catalog = latest events
  := by
  rw [registry_run, run_eq]
  rfl

theorem isLoaded_run (events : List Event) :
  (start.run events).registry.isLoaded = true ↔ catalogs events ≠ []
  := by
  rw [registry_run, run_eq]
  simp [isLoaded, start, Registry.empty, Channel.new, catalogs]

/-! ### Snapshots -/

theorem held_after (s : Audience) (e : Event) :
  s.held <+: (s.after e).held
  := by
  cases e with
  | call | take => exact List.prefix_append _ _
  | subscribe | look => exact List.prefix_rfl

/-- Snapshots stay where they are and what they are. -/
theorem held_run (s : Audience) (events : List Event) :
  s.held <+: (s.run events).held
  := by
  induction events generalizing s with
  | nil => exact List.prefix_rfl
  | cons e rest ih => exact (held_after s e).trans (ih (s.after e))

/-- A snapshot that an event hands out is there after all that follows. -/
theorem getElem?_held {c : Catalog} (h : ((s.run done).after e).held = (s.run done).held ++ [c])
    (rest : List Event) :
  (s.run (done ++ e :: rest)).held[(s.run done).held.length]? = some c
  := by
  obtain ⟨later, hlater⟩ := held_run ((s.run done).after e) rest
  have hrun : s.run (done ++ e :: rest) = ((s.run done).after e).run rest :=
    run_append s done (e :: rest)
  rw [hrun, ← hlater, h]
  simp

/-! ### Subscribers -/

theorem length_subscribers_after (s : Audience) (e : Event) :
  s.subscribers.length ≤ (s.after e).subscribers.length
  := by
  cases e <;> simp [after]

/-- A subscriber that does not look stays as it is. -/
theorem getElem?_subscribers_after (hk : k < s.subscribers.length) (he : e ≠ .look k) :
  (s.after e).subscribers[k]? = s.subscribers[k]?
  := by
  cases e with
  | call | take => rfl
  | subscribe => exact List.getElem?_append_left hk
  | look j =>
    have hj : j ≠ k := by
      rintro rfl
      exact he rfl
    exact List.getElem?_modify_ne _ s.subscribers hj

theorem getElem?_subscribers_run (hk : k < s.subscribers.length) (h : .look k ∉ events) :
  (s.run events).subscribers[k]? = s.subscribers[k]?
  := by
  induction events generalizing s with
  | nil => rfl
  | cons e rest ih =>
    obtain ⟨he, hrest⟩ := List.ne_and_not_mem_of_not_mem_cons h
    have hrun : s.run (e :: rest) = (s.after e).run rest := rfl
    rw [hrun, ih (Nat.lt_of_lt_of_le hk (length_subscribers_after s e)) hrest]
    exact getElem?_subscribers_after hk he.symm

/-- What a subscriber is after an event that informs it. -/
theorem getElem?_of_informs (h : e.Informs s k) :
  (s.after e).subscribers[k]? = some (s.after e).registry.subscribe
  := by
  cases e with
  | call | take => cases h
  | subscribe =>
    obtain rfl := h
    simp [after]
  | look j =>
    obtain ⟨rfl, hj⟩ := h
    simp [after, hj, look, Channel.look, Registry.subscribe, Channel.subscribe]

/-- A subscriber that has seen everything has something new to see exactly if some call puts a
catalog in place. -/
theorem changed_run (s : Audience) (events : List Event) :
  (s.run events).registry.changed s.registry.subscribe = true ↔ catalogs events ≠ []
  := by
  rw [registry_run, run_eq]
  simp [changed, Channel.changed, Registry.subscribe, Channel.subscribe, catalogs]

/-- What a subscriber knows that was informed by an event and has not looked since. -/
theorem subscriber_run (hinforms : e.Informs (s.run done) k) (hrest : .look k ∉ rest) :
  let t := s.run (done ++ e :: rest)
  ∃ x, t.subscribers[k]? = some x ∧ (t.registry.changed x = true ↔ catalogs rest ≠ [])
    ∧ (t.registry.look x).1 = t.registry.catalog
  := by
  intro t
  have ht : t = ((s.run done).after e).run rest := run_append s done (e :: rest)
  have hinformed := getElem?_of_informs hinforms
  obtain ⟨hk, -⟩ := List.getElem?_eq_some_iff.mp hinformed
  refine ⟨((s.run done).after e).registry.subscribe, ?_, ?_, rfl⟩
  · rw [ht, getElem?_subscribers_run hk hrest, hinformed]
  · rw [ht]
    apply changed_run

/-! ### Calls that fail -/

theorem after_of_error {a : Registry.Action} {e : CatalogError} (h : a.catalog = .error e) :
  s.after (.call a) = s
  := by
  rw [after, apply_error _ h]
  simp [Except.toOption]

/-- Whatever happens to a registry that is new: the catalog in use is that of the last call that
succeeded, and a catalog was loaded exactly if some call succeeded.  A snapshot that was taken, or
was handed out by a call, stays what the catalog was then.  A subscriber that has not looked since
some event has something new to see exactly if a call succeeded since, and if it looks it sees the
catalog in use.  A call that fails changes nothing. -/
theorem observed_of_start (events : List Event) :
  let s := start.run events
  s.registry.catalog = latest events
    ∧ (s.registry.isLoaded = true ↔ catalogs events ≠ [])
    ∧ (∀ done rest, events = done ++ .take :: rest →
        s.held[(start.run done).held.length]? = some (latest done))
    ∧ (∀ done a c rest, events = done ++ .call a :: rest → a.catalog = .ok c →
        s.held[(start.run done).held.length]? = some c)
    ∧ (∀ done e rest k, events = done ++ e :: rest → e.Informs (start.run done) k →
        .look k ∉ rest →
        ∃ x, s.subscribers[k]? = some x ∧ (s.registry.changed x = true ↔ catalogs rest ≠ [])
          ∧ (s.registry.look x).1 = latest events)
    ∧ ∀ a e, a.catalog = .error e → s.after (.call a) = s
  := by
  intro s
  refine ⟨catalog_run events, isLoaded_run events, ?taken, ?handed, ?subscriber, ?failed⟩
  case taken =>
    rintro done rest rfl
    rw [← catalog_run]
    exact getElem?_held rfl rest
  case handed =>
    rintro done a c rest rfl hc
    refine getElem?_held ?_ rest
    rw [after, apply_ok _ hc]
    rfl
  case subscriber =>
    rintro done e rest k rfl hinforms hrest
    rw [← catalog_run]
    exact subscriber_run hinforms hrest
  case failed => exact fun a e => after_of_error

/-- A definition that cannot be built goes by unnoticed, the next one does not, and a snapshot that
was taken before both is as it was. -/
theorem observed_of_start_instance :
  let category (id : String) : CategoryDefinition := .mk id "Tools" "" none [] []
  let done : List Event := [.call (.load ⟨[category "a"]⟩)]
  let between : List Event := [.subscribe, .call (.reload ⟨[category "a", category "a"]⟩),
    .call (.loadFile (.error .notFound))]
  let last : List Event := [.call (.reload ⟨[category "b"]⟩)]
  let s := start.run (done ++ .take :: (between ++ last))
  (start.run (done ++ .take :: between)).subscribers.map
      (start.run (done ++ .take :: between)).registry.changed = [false]
    ∧ s.subscribers.map s.registry.changed = [true]
    ∧ s.registry.catalog.categories.map Category.id = ["b"]
    ∧ (latest done).categories.map Category.id = ["a"]
    ∧ s.held[(start.run done).held.length]? = some (latest done)
  := by
  intro category done between last s
  obtain ⟨-, -, htaken, -⟩ := observed_of_start (done ++ .take :: (between ++ last))
  refine ⟨?quiet, ?told, ?present, ?past, htaken done (between ++ last) rfl⟩
  all_goals decide +kernel

end Audience

end TaskDesk
