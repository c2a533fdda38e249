import Magnetar.Library.Machine

/-!
Contract: keys that fall due.

Owns: a table of deadlines as a function of the key, what can happen to it (a key is tracked, a
key is forgotten, the keys that are due are reported), and the account of a whole history: every
key that was tracked has been reported, forgotten, or is still there.

Does not own: how a tracker finds the keys that are due.
-/

namespace Magnetar.Library

open Machine

/-- The deadline of every tracked key. -/
abbrev Deadlines (κ : Type*) := κ → Option Nat

namespace Deadlines

variable {κ : Type*} [DecidableEq κ]

inductive Event (κ : Type*) where
  | track (key : κ) (due : Nat)
  | forget (key : κ)
  | expire (now : Nat)

variable (key : κ) (deadlines : Deadlines κ)

/-- A key that is tracked keeps its deadline. -/
def step : Event κ → Deadlines κ
  | .track tracked due => fun key =>
    if key = tracked then (deadlines key).or (some due) else deadlines key
  | .forget forgotten => fun key => if key = forgotten then none else deadlines key
  | .expire now => fun key => (deadlines key).filter fun due => decide (now < due)

theorem step_track (tracked : κ) (due : Nat) (key : κ) :
    step deadlines (.track tracked due) key =
      if key = tracked then (deadlines key).or (some due) else deadlines key :=
  rfl

theorem step_forget (forgotten key : κ) :
    step deadlines (.forget forgotten) key = if key = forgotten then none else deadlines key :=
  rfl

theorem step_expire (now : Nat) (key : κ) :
    step deadlines (.expire now) key = (deadlines key).filter fun due => decide (now < due) :=
  rfl

def held (key : κ) : Nat :=
  if (deadlines key).isSome then 1 else 0

def started : Event κ → Nat
  | .track tracked _ => if tracked = key ∧ deadlines key = none then 1 else 0
  | _ => 0

def dropped : Event κ → Nat
  | .forget forgotten => if forgotten = key then held deadlines key else 0
  | _ => 0

def reported : Event κ → Nat
  | .expire now => if (deadlines key).any fun due => decide (due ≤ now) then 1 else 0
  | _ => 0

/-! What an event leaves tracked. -/

theorem track_ne_none {deadlines : Deadlines κ} {tracked key : κ} {due : Nat} :
    step deadlines (.track tracked due) key ≠ none ↔ key = tracked ∨ deadlines key ≠ none := by
  by_cases same : key = tracked <;> simp [step, same]

theorem forget_ne_none {deadlines : Deadlines κ} {forgotten key : κ} :
    step deadlines (.forget forgotten) key ≠ none ↔ key ≠ forgotten ∧ deadlines key ≠ none := by
  by_cases same : key = forgotten <;> simp [step, same]

theorem expire_ne_none {deadlines : Deadlines κ} {now : Nat} {key : κ} :
    step deadlines (.expire now) key ≠ none ↔
      deadlines key ≠ none ∧ reported key deadlines (.expire now) = 0 := by
  cases found : deadlines key <;> simp [step, reported, found]

theorem step_balance (event : Event κ) :
    held deadlines key + started key deadlines event =
      reported key deadlines event + dropped key deadlines event +
        held (step deadlines event) key := by
  cases event with
  | track tracked =>
    by_cases same : tracked = key
    · subst same
      cases found : deadlines tracked <;> simp [held, started, reported, dropped, step, found]
    · simp [held, started, reported, dropped, step, same, Ne.symm same]
  | forget forgotten =>
    by_cases same : forgotten = key
    · simp [held, started, reported, dropped, step, same]
    · simp [held, started, reported, dropped, step, same, Ne.symm same]
  | expire now =>
    cases found : deadlines key with
    | none => simp [held, started, reported, dropped, step, found]
    | some due =>
      by_cases late : due ≤ now
      · have passed : ¬ now < due := by omega
        simp [held, started, reported, dropped, step, found, late, passed]
      · have ahead : now < due := by omega
        simp [held, started, reported, dropped, step, found, late, ahead]

/-- Over a history, what was tracked was reported, was dropped or is still there. -/
theorem balance (events : List (Event κ)) :
    held deadlines key + tally step (started key) deadlines events =
      tally step (reported key) deadlines events + tally step (dropped key) deadlines events +
        held (run step deadlines events) key := by
  induction events generalizing deadlines with
  | nil => simp [tally]
  | cons event _ ih =>
    have first := step_balance key deadlines event
    have later := ih (step deadlines event)
    simp only [tally, run_cons]
    omega

/-- A key stays where it is until it is forgotten or due. -/
theorem run_of_waiting {key : κ} {deadlines : Deadlines κ} {due : Nat} {events : List (Event κ)}
    (tracked : deadlines key = some due) (remembered : ∀ event ∈ events, event ≠ .forget key)
    (early : ∀ event ∈ events, ∀ now, event = .expire now → now < due) :
    run step deadlines events key = some due := by
  induction events generalizing deadlines with
  | nil => exact tracked
  | cons event _ ih =>
    apply ih
    · cases event with
      | track other =>
        by_cases same : key = other
        · simp [step, ← same, tracked]
        · simp [step, same, tracked]
      | forget forgotten =>
        have differs : key ≠ forgotten := by
          rintro rfl
          exact remembered _ List.mem_cons_self rfl
        simp [step, differs, tracked]
      | expire now =>
        have ahead := early _ List.mem_cons_self now rfl
        simp [step, tracked, ahead]
    · exact fun other member => remembered other (List.mem_cons_of_mem _ member)
    · exact fun other member => early other (List.mem_cons_of_mem _ member)

end Deadlines

end Magnetar.Library
