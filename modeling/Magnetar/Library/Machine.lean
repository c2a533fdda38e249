import Mathlib.Data.List.Basic

/-!
Contract: guarded runs of a deterministic step function.

Owns: folding a step function over a list of operations, the side condition that every
operation meets a guard in the state it is taken from, and the invariant rule that turns a
one-step fact into a fact about every state a guarded run reaches.

Does not own: any particular state or operation type.
-/

namespace Magnetar.Library.Machine

variable {σ : Type*} {α : Type*}

/-- The state a list of operations leads to. -/
def run (step : σ → α → σ) (start : σ) (ops : List α) : σ :=
  ops.foldl step start

/-- Every operation of the run meets `guard` in the state it is taken from. -/
def Guarded (step : σ → α → σ) (guard : σ → α → Prop) : σ → List α → Prop
  | _, [] => True
  | state, op :: rest => guard state op ∧ Guarded step guard (step state op) rest

instance Guarded.decidable (step : σ → α → σ) (guard : σ → α → Prop)
    [∀ state op, Decidable (guard state op)] :
    ∀ (start : σ) (ops : List α), Decidable (Guarded step guard start ops)
  | _, [] => .isTrue trivial
  | state, op :: rest =>
    @instDecidableAnd _ _ _ (Guarded.decidable step guard (step state op) rest)

@[simp]
theorem run_nil (step : σ → α → σ) (start : σ) : run step start [] = start :=
  rfl

@[simp]
theorem run_cons (step : σ → α → σ) (start : σ) (op : α) (rest : List α) :
    run step start (op :: rest) = run step (step start op) rest :=
  rfl

theorem run_append (step : σ → α → σ) (start : σ) (first second : List α) :
    run step start (first ++ second) = run step (run step start first) second := by
  simp [run]

variable {step : σ → α → σ} {guard : σ → α → Prop} {start : σ}

/-- A guarded run passes its guard to each of its initial segments. -/
theorem Guarded.append {first second : List α} :
    Guarded step guard start (first ++ second) ↔
      Guarded step guard start first ∧ Guarded step guard (run step start first) second := by
  induction first generalizing start with
  | nil => simp [Guarded]
  | cons _ _ ih =>
    simp [Guarded, ih, and_assoc]

variable {ops : List α}

/-- Two guards along one run are one guard. -/
theorem Guarded.and {guard' : σ → α → Prop}
    (one : Guarded step guard start ops) (two : Guarded step guard' start ops) :
    Guarded step (fun state op => guard state op ∧ guard' state op) start ops := by
  induction ops generalizing start with
  | nil => trivial
  | cons _ _ ih =>
    exact ⟨⟨one.1, two.1⟩, ih one.2 two.2⟩

theorem Guarded.imp {guard' : σ → α → Prop} (weaker : ∀ state op, guard state op → guard' state op)
    (guarded : Guarded step guard start ops) :
    Guarded step guard' start ops := by
  induction ops generalizing start with
  | nil => trivial
  | cons op _ ih =>
    exact ⟨weaker start op guarded.1, ih guarded.2⟩

/-- The invariant rule: what every guarded step preserves, every guarded run preserves. -/
theorem run_invariant (invariant : σ → Prop)
    (preserved : ∀ state op, invariant state → guard state op → invariant (step state op))
    (initial : invariant start) (guarded : Guarded step guard start ops) :
    invariant (run step start ops) := by
  induction ops generalizing start with
  | nil => exact initial
  | cons op _ ih =>
    obtain ⟨meets, remaining⟩ := guarded
    exact ih (preserved start op initial meets) remaining

/-- What `measure` adds up to along the run. -/
def tally (step : σ → α → σ) (measure : σ → α → Nat) : σ → List α → Nat
  | _, [] => 0
  | state, op :: rest => measure state op + tally step measure (step state op) rest

theorem tally_append (measure : σ → α → Nat) (start : σ) (first second : List α) :
    tally step measure start (first ++ second) =
      tally step measure start first + tally step measure (run step start first) second := by
  induction first generalizing start with
  | nil => simp [tally]
  | cons _ _ ih =>
    rw [List.cons_append, tally, tally, run_cons, ih]
    omega

/-- A measure that no step of the run raises adds up to nothing. -/
theorem tally_eq_zero {measure : σ → α → Nat} (silent : ∀ state, ∀ op ∈ ops, measure state op = 0) :
    tally step measure start ops = 0 := by
  induction ops generalizing start with
  | nil => rfl
  | cons op _ ih =>
    rw [tally, silent start op List.mem_cons_self,
      ih fun state other member => silent state other (List.mem_cons_of_mem _ member)]

end Magnetar.Library.Machine
