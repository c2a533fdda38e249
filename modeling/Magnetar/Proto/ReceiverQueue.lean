import Mathlib.Order.Basic
import Mathlib.Algebra.Order.Group.Nat

/-!
Contract: the receiver-queue sizing policies of `receiver_queue.rs`.

Owns: the policy interface, the constant policy `Fixed` and the feedback policy `Auto`.

Does not own: what a consumer does with a target.  A policy that panics is modelled by
`none`: `Ord::clamp` asserts its lower bound is at most its upper bound.
-/

namespace Magnetar.Proto.ReceiverQueue

/-- `Fixed(DEFAULT_RECEIVER_QUEUE_SIZE)` is the default policy. -/
def defaultReceiverQueueSize : Nat := 1000

/-- The signals a policy may read.  The consume rate is a float no policy reads. -/
structure FlowStats where
  currentQueueSize : Nat
  queuedMessages : Nat
  availablePermits : Nat
  avgMessageBytes : Nat
  inFlightBytes : Nat
  partitions : Nat
  deriving DecidableEq, Repr

/-- The policy trait object: the first target, and the target of a feedback tick. -/
structure ReceiverQueuePolicy where
  initial : Nat
  adjust : FlowStats → Option Nat

/-- `Ord::clamp`, which panics when the bounds are crossed. -/
def clamp (value low high : Nat) : Option Nat :=
  if low ≤ high then some (min (max value low) high) else none

def fixed (size : Nat) : ReceiverQueuePolicy where
  initial := size
  adjust _ := some size

/-- The feedback policy: a floor in messages and a ceiling in bytes. -/
structure Auto where
  min : Nat
  maxBytes : Nat
  deriving DecidableEq, Repr

namespace Auto

def absoluteMax : Nat := 1000000

def new (min maxBytes : Nat) : Auto :=
  { min := max min 1, maxBytes := maxBytes }

def perPartitionBudget (auto : Auto) (flow : FlowStats) : Nat :=
  max (auto.maxBytes / max flow.partitions 1) 1

def byteBudgetCap (auto : Auto) (flow : FlowStats) : Option Nat :=
  if flow.avgMessageBytes = 0 then some absoluteMax
  else clamp (auto.perPartitionBudget flow / flow.avgMessageBytes) auto.min absoluteMax

/-- `usize::saturating_mul(2)` on the 64-bit targets the client supports. -/
def doubled (current : Nat) : Nat :=
  Min.min (current * 2) (2 ^ 64 - 1)

/-- One feedback tick: shrink when over the byte budget, double when the broker holds no
permits, otherwise stay inside the envelope. -/
def adjust (auto : Auto) (flow : FlowStats) : Option Nat := do
  let current := max (max flow.currentQueueSize auto.min) 1
  let cap ← auto.byteBudgetCap flow
  if flow.inFlightBytes ≥ auto.perPartitionBudget flow then
    some (max (Min.min (max (current / 2) auto.min) cap) auto.min)
  else if flow.availablePermits = 0 then
    clamp (doubled current) auto.min cap
  else
    clamp current auto.min cap

def policy (auto : Auto) : ReceiverQueuePolicy where
  initial := max auto.min 1
  adjust := auto.adjust

theorem clamp_bounds {value low high result : Nat} (clamped : clamp value low high = some result) :
    low ≤ result ∧ result ≤ high := by
  unfold clamp at clamped
  split at clamped
  · cases clamped
    omega
  · cases clamped

theorem byteBudgetCap_le {auto : Auto} {flow : FlowStats} {cap : Nat}
    (capped : auto.byteBudgetCap flow = some cap) : cap ≤ absoluteMax := by
  unfold byteBudgetCap at capped
  split at capped
  · cases capped
    exact le_rfl
  · exact (clamp_bounds capped).2

theorem adjust_bounds {auto : Auto} {flow : FlowStats} {target : Nat}
    (adjusted : auto.adjust flow = some target) :
    auto.min ≤ target ∧ target ≤ max auto.min absoluteMax := by
  obtain ⟨cap, capped, adjusted⟩ := Option.bind_eq_some_iff.mp adjusted
  have ceiling := byteBudgetCap_le capped
  split at adjusted
  · cases adjusted
    omega
  · split at adjusted
    · have bounds := clamp_bounds adjusted
      omega
    · have bounds := clamp_bounds adjusted
      omega

/-- With a floor below the absolute cap the bounds of the clamps never cross. -/
theorem byteBudgetCap_of_floor {auto : Auto} (floor : auto.min ≤ absoluteMax) (flow : FlowStats) :
    ∃ cap, auto.byteBudgetCap flow = some cap ∧ auto.min ≤ cap ∧
      (cap = auto.min ∨ cap * flow.avgMessageBytes ≤ auto.perPartitionBudget flow) := by
  unfold byteBudgetCap
  split
  case isTrue unknown => exact ⟨absoluteMax, rfl, floor, .inr (by simp [unknown])⟩
  case isFalse =>
    refine ⟨_, if_pos floor, by omega, ?_⟩
    have room := Nat.div_mul_le_self (auto.perPartitionBudget flow) flow.avgMessageBytes
    by_cases tight : auto.perPartitionBudget flow / flow.avgMessageBytes ≤ auto.min
    · exact .inl (by omega)
    · exact .inr ((Nat.mul_le_mul_right _ (by omega)).trans room)

/-- The tick returns, between the floor and the cap, within a factor of two of the current size and
within the budget. -/
def InEnvelope (auto : Auto) (flow : FlowStats) : Prop :=
  ∃ cap target, auto.byteBudgetCap flow = some cap ∧ auto.adjust flow = some target ∧
    (target = auto.min ∨ target * flow.avgMessageBytes ≤ auto.perPartitionBudget flow) ∧
    auto.min ≤ target ∧ target ≤ max cap auto.min ∧
    target ≤ 2 * flow.currentQueueSize ∧ flow.currentQueueSize / 2 ≤ target

/-- The floor is at most the absolute cap, unless the tick halves the queue before any message has
been seen, which takes no clamp. -/
def ClampsOrdered (auto : Auto) (flow : FlowStats) : Prop :=
  auto.min ≤ absoluteMax ∨
    flow.avgMessageBytes = 0 ∧ auto.perPartitionBudget flow ≤ flow.inFlightBytes

/-- The cap as a number, where the clamp behind it does not panic. -/
def affordable (auto : Auto) (flow : FlowStats) : Nat :=
  if flow.avgMessageBytes = 0 then absoluteMax
  else Min.min (max (auto.perPartitionBudget flow / flow.avgMessageBytes) auto.min) absoluteMax

/-- The queue is not below the floor by more than the tick makes up for: a starved one goes to twice
the floor, as far as the cap allows, and any other one to the floor. -/
def ReachesFloor (auto : Auto) (flow : FlowStats) : Prop :=
  auto.min ≤ flow.currentQueueSize ∨
    if flow.inFlightBytes < auto.perPartitionBudget flow ∧ flow.availablePermits = 0 then
      auto.affordable flow ≤ 2 * flow.currentQueueSize
    else auto.min ≤ 2 * flow.currentQueueSize

theorem byteBudgetCap_eq_affordable {auto : Auto} {flow : FlowStats} {cap : Nat}
    (capped : auto.byteBudgetCap flow = some cap) : cap = auto.affordable flow := by
  unfold byteBudgetCap clamp at capped
  unfold affordable
  split at capped
  case isTrue unknown => rw [if_pos unknown, Option.some.inj capped]
  case isFalse known =>
    rw [if_neg known]
    split at capped
    · exact (Option.some.inj capped).symm
    · cases capped

/-- A floor above the absolute cap that is not harmless makes the tick panic. -/
theorem adjust_of_crossed {auto : Auto} {flow : FlowStats} (crossed : ¬ auto.ClampsOrdered flow) :
    auto.adjust flow = none := by
  simp only [ClampsOrdered, not_or, not_and, not_le] at crossed
  have above : ¬ auto.min ≤ absoluteMax := by omega
  by_cases unknown : flow.avgMessageBytes = 0
  · have spare : ¬ flow.inFlightBytes ≥ auto.perPartitionBudget flow := by
      have room := crossed.2 unknown
      omega
    simp [adjust, byteBudgetCap, unknown, spare, clamp, above]
  · simp [adjust, byteBudgetCap, unknown, clamp, above]

/-- The three ways of a tick whose floor is at most the absolute cap. -/
theorem inEnvelope_iff_of_floor {auto : Auto} {flow : FlowStats} (positive : 1 ≤ auto.min)
    (floor : auto.min ≤ absoluteMax) :
    auto.InEnvelope flow ↔
      flow.currentQueueSize / 2 ≤ max (auto.affordable flow) auto.min ∧
        auto.ReachesFloor flow := by
  obtain ⟨cap, capped, above, budget⟩ := byteBudgetCap_of_floor floor flow
  have ceiling : cap ≤ 1000000 := byteBudgetCap_le capped
  have same := byteBudgetCap_eq_affordable capped
  obtain ⟨target, adjusted, low, high, bounds⟩ : ∃ target, auto.adjust flow = some target ∧
      auto.min ≤ target ∧ target ≤ cap ∧
      (target ≤ 2 * flow.currentQueueSize ∧ flow.currentQueueSize / 2 ≤ target ↔
        flow.currentQueueSize / 2 ≤ max (auto.affordable flow) auto.min ∧
          auto.ReachesFloor flow) := by
    simp only [adjust, capped, Option.bind_eq_bind, Option.bind_some, clamp, if_pos above,
      doubled, ReachesFloor, ← same]
    by_cases full : flow.inFlightBytes ≥ auto.perPartitionBudget flow
    · refine ⟨_, if_pos full, by omega, by omega, ?_⟩
      rw [if_neg (by omega)]
      omega
    · by_cases starved : flow.availablePermits = 0
      · refine ⟨_, (if_neg full).trans (if_pos starved), by omega, by omega, ?_⟩
        rw [if_pos ⟨by omega, starved⟩]
        omega
      · refine ⟨_, (if_neg full).trans (if_neg starved), by omega, by omega, ?_⟩
        rw [if_neg (by omega)]
        omega
  rw [← bounds]
  constructor
  · rintro ⟨_, other, _, found, _, _, _, inside⟩
    cases adjusted.symm.trans found
    exact inside
  · intro inside
    refine ⟨cap, target, capped, adjusted, ?_, low, high.trans (le_max_left _ _), inside⟩
    rcases budget with tight | room
    · exact .inl (le_antisymm (tight ▸ high) low)
    · exact .inr ((Nat.mul_le_mul_right _ high).trans room)

/-- The tick of a policy stays in the envelope exactly when its clamps are ordered, the byte budget
leaves room for half of the queue, and the queue is not too far below the floor. -/
theorem auto_stays_in_envelope (min maxBytes : Nat) (flow : FlowStats) :
    (new min maxBytes).InEnvelope flow ↔
      (new min maxBytes).ClampsOrdered flow ∧
        flow.currentQueueSize / 2 ≤
          max ((new min maxBytes).affordable flow) (new min maxBytes).min ∧
        (new min maxBytes).ReachesFloor flow := by
  have positive : 1 ≤ (new min maxBytes).min := Nat.le_max_right min 1
  generalize new min maxBytes = auto at positive ⊢
  by_cases ordered : auto.ClampsOrdered flow
  · rw [and_iff_right ordered]
    by_cases floor : auto.min ≤ absoluteMax
    · exact inEnvelope_iff_of_floor positive floor
    · -- Above the absolute cap the tick only returns to the floor.
      obtain ⟨unknown, full⟩ := ordered.resolve_left floor
      have capped : auto.byteBudgetCap flow = some absoluteMax := if_pos unknown
      have cap : auto.affordable flow = absoluteMax := if_pos unknown
      have adjusted : auto.adjust flow = some auto.min := by
        simp only [adjust, capped, Option.bind_eq_bind, Option.bind_some]
        rw [if_pos full, Option.some.injEq]
        omega
      rw [ReachesFloor, if_neg (by omega), cap]
      constructor
      · rintro ⟨_, target, _, found, _, _, _, double, half⟩
        cases adjusted.symm.trans found
        omega
      · intro inside
        exact ⟨absoluteMax, auto.min, capped, adjusted, .inl rfl, le_rfl, le_max_right _ _,
          by omega⟩
  · refine iff_of_false ?_ fun both => ordered both.1
    rintro ⟨_, target, _, found, _⟩
    rw [adjust_of_crossed ordered] at found
    cases found

/-- A floor above the absolute cap makes the tick panic, a cap that has fallen takes more than half
of the queue at once, and a starved queue below the floor more than doubles. -/
theorem auto_leaves_envelope :
    (new 1000001 1000).adjust ⟨1000001, 0, 5, 1, 0, 1⟩ = none ∧
      (new 1 1000).adjust ⟨1000, 0, 5, 100, 0, 1⟩ = some 10 ∧
      (new 100 100000).adjust ⟨50, 0, 0, 1, 0, 1⟩ = some 200 := by
  decide

end Auto

end Magnetar.Proto.ReceiverQueue
