import Mathlib.Logic.Function.Iterate
import Mathlib.Tactic.Ring

/-!
Contract: the delays of a retry schedule (`backoff.rs`), in nanoseconds.

Owns: the doubling delay, its jitter and the budget after which the schedule stays at its maximum,
and the envelope of every delay.

Does not own: the fault injection that skews a delay, nor the saturation of a `Duration` at
`2 ^ 64` seconds.
-/

namespace Magnetar.Proto

structure Backoff where
  initial : Nat
  max : Nat
  mandatoryStop : Nat
  nextDelay : Nat
  totalElapsed : Nat
  rngState : UInt64
  firstCall : Bool
  deriving DecidableEq, Repr

namespace Backoff

def new (initial max mandatoryStop : Nat) (seed : UInt64) : Backoff :=
  { initial, max, mandatoryStop
    nextDelay := initial
    totalElapsed := 0
    rngState := if seed = 0 then 0x9E3779B97F4A7C15 else seed
    firstCall := true }

def reset (backoff : Backoff) : Backoff :=
  { backoff with nextDelay := backoff.initial, totalElapsed := 0, firstCall := true }

/-- One step of SplitMix64: the jitter in thousandths, and the state after it. -/
def jitterFraction (rngState : UInt64) : UInt64 × UInt64 :=
  let rngState := rngState + 0x9E3779B97F4A7C15
  let z := rngState
  let z := (z ^^^ (z >>> 30)) * 0xBF58476D1CE4E5B9
  let z := (z ^^^ (z >>> 27)) * 0x94D049BB133111EB
  let z := z ^^^ (z >>> 31)
  (z % 201, rngState)

/-- The delay that a call draws, before the budget has its say. -/
def drawn (backoff : Backoff) : Nat :=
  let current := backoff.nextDelay
  let jitter := (jitterFraction backoff.rngState).1
  let jitterNs := min (current % 2 ^ 64 * jitter.toNat) (2 ^ 64 - 1) / 1000
  current - jitterNs

def next (backoff : Backoff) : Nat × Backoff :=
  let current := backoff.drawn
  let rngState := (jitterFraction backoff.rngState).2
  let totalElapsed := backoff.totalElapsed + current
  let doubled := backoff.nextDelay * 2
  let nextDelay := if doubled > backoff.max then backoff.max else doubled
  if totalElapsed > backoff.mandatoryStop then
    (backoff.max, { backoff with
      rngState, firstCall := false, totalElapsed := 0, nextDelay := backoff.max })
  else (current, { backoff with rngState, firstCall := false, totalElapsed, nextDelay })

/-- The schedule after `count` calls. -/
def after (backoff : Backoff) (count : Nat) : Backoff :=
  (fun backoff => backoff.next.2)^[count] backoff

/-- What the first `count` calls draw together. -/
def drawnBy (backoff : Backoff) : (count : Nat) → Nat
  | 0 => 0
  | count + 1 => backoff.drawnBy count + (backoff.after count).drawn

theorem after_succ (backoff : Backoff) (count : Nat) :
    backoff.after (count + 1) = (backoff.after count).next.2 :=
  Function.iterate_succ_apply' ..

inductive Fresh : Backoff → Prop where
  | new (initial max mandatoryStop : Nat) (seed : UInt64) :
    Fresh (new initial max mandatoryStop seed)
  | reset (backoff : Backoff) : Fresh backoff.reset

/-- The jitter takes at most a fifth of a delay. -/
theorem drawn_bounds {backoff : Backoff} (bounded : 200 * backoff.nextDelay < 2 ^ 63) :
    4 * backoff.nextDelay ≤ 5 * backoff.drawn ∧ backoff.drawn ≤ backoff.nextDelay := by
  have jitter : (jitterFraction backoff.rngState).1.toNat ≤ 200 := by
    rw [jitterFraction, UInt64.toNat_mod]
    exact Nat.le_of_lt_succ (Nat.mod_lt _ (by decide))
  have taken := Nat.mul_le_mul_left (backoff.nextDelay % 2 ^ 64) jitter
  unfold drawn
  dsimp only
  omega

/-- While the budget lasts the schedule doubles, and once it is spent it stays at the maximum. -/
theorem after_schedule {backoff : Backoff} (fresh : backoff.Fresh)
    (ordered : backoff.initial ≤ backoff.max) (bounded : 200 * backoff.max < 2 ^ 63) (count : Nat) :
    (backoff.after count).max = backoff.max ∧
      (backoff.after count).mandatoryStop = backoff.mandatoryStop ∧
      (backoff.after count).nextDelay ≤ backoff.max ∧
      if backoff.drawnBy count ≤ backoff.mandatoryStop then
        (backoff.after count).nextDelay = min (backoff.initial * 2 ^ count) backoff.max ∧
          (backoff.after count).totalElapsed = backoff.drawnBy count
      else (backoff.after count).nextDelay = backoff.max := by
  induction count with
  | zero =>
    have start : backoff.nextDelay = backoff.initial ∧ backoff.totalElapsed = 0 := by
      cases fresh <;> exact ⟨rfl, rfl⟩
    simp [after, drawnBy, start, ordered]
  | succ count ih =>
    obtain ⟨max, stop, below, schedule⟩ := ih
    have doubled : backoff.initial * 2 ^ (count + 1) = backoff.initial * 2 ^ count * 2 := by
      rw [Nat.pow_succ, Nat.mul_assoc]
    simp only [after_succ, drawnBy, doubled, next, max, stop]
    split_ifs at schedule ⊢ <;> dsimp only <;> omega

/-- Within the budget a delay is the doubled one less its jitter, the call that exceeds it waits the
maximum, and from then on every delay is the maximum less its jitter. -/
theorem delay_in_envelope {backoff : Backoff} (fresh : backoff.Fresh)
    (ordered : backoff.initial ≤ backoff.max) (bounded : 200 * backoff.max < 2 ^ 63) (count : Nat) :
    let delay := (backoff.after count).next.1
    let base := min (backoff.initial * 2 ^ count) backoff.max
    (backoff.drawnBy (count + 1) ≤ backoff.mandatoryStop → 4 * base ≤ 5 * delay ∧ delay ≤ base) ∧
      (backoff.drawnBy count ≤ backoff.mandatoryStop →
        backoff.mandatoryStop < backoff.drawnBy (count + 1) → delay = backoff.max) ∧
      (backoff.mandatoryStop < backoff.drawnBy count →
        4 * backoff.max ≤ 5 * delay ∧ delay ≤ backoff.max) ∧
      4 * backoff.initial ≤ 5 * delay ∧ delay ≤ backoff.max := by
  obtain ⟨max, stop, below, schedule⟩ := after_schedule fresh ordered bounded count
  have drawn := @drawn_bounds (backoff.after count) (by omega)
  have grown : backoff.initial ≤ backoff.initial * 2 ^ count :=
    Nat.le_mul_of_pos_right _ (Nat.two_pow_pos count)
  simp only [drawnBy, next, max, stop]
  split_ifs at schedule ⊢ <;> omega

theorem delay_in_envelope_spent :
    let backoff := new 100 1000 300 7
    (backoff.drawnBy 2 = 291 ∧ backoff.drawnBy 3 = 633) ∧ (backoff.after 2).next.1 = 1000 ∧
      (backoff.after 3).next.1 ≤ 1000 := by
  have drawn : (new 100 1000 300 7).drawnBy 2 = 291 ∧ (new 100 1000 300 7).drawnBy 3 = 633 := by
    decide +kernel
  have envelope := delay_in_envelope (.new 100 1000 300 7) (by decide) (by decide)
  exact ⟨drawn, (envelope 2).2.1 (by rw [drawn.1]; decide) (by rw [drawn.2]; decide),
    (envelope 3).2.2.2.2⟩

end Backoff

end Magnetar.Proto
