import Mathlib.Algebra.Order.Group.Nat
import Mathlib.Algebra.Order.Sub.Basic

/-!
Contract: credit-based flow control seen from the receiver.

A sender spends one credit per unit.  The receiver mirrors the credits the sender still holds
(`balance`), keeps units it holds locally (`held`) and owes back the credits of units it is done
with (`refunds`).  A refund counter of fixed width saturates at `cap`.

Owns: the moves of one unit, of a burst of units and of a replenishment, and what each does to
the total `balance + refunds + held`.

Does not own: when a receiver replenishes.
-/

namespace Magnetar.Library.CreditWindow

/-- Where a unit goes on arrival: into the receiver's hold, or straight back as a refund. -/
inductive Arrival where
  | held
  | refunded
  deriving DecidableEq, Repr

structure Window where
  balance : Nat
  refunds : Nat
  held : Nat
  deriving DecidableEq, Repr

variable (arrival : Arrival)

variable (arrivals : List Arrival)

namespace Window

def total (window : Window) : Nat :=
  window.balance + window.refunds + window.held

/-- One unit arrives.  A balance of zero stays zero: the sender overdrew. -/
def arrive (cap : Nat) (window : Window) : Arrival → Window
  | .held => { window with balance := window.balance - 1, held := window.held + 1 }
  | .refunded =>
    { window with balance := window.balance - 1, refunds := min (window.refunds + 1) cap }

def arriveAll (cap : Nat) (window : Window) (arrivals : List Arrival) : Window :=
  arrivals.foldl (arrive cap) window

/-- One held unit is consumed and its credit becomes a refund. -/
def release (cap : Nat) (window : Window) : Window :=
  { window with refunds := min (window.refunds + 1) cap, held := window.held - 1 }

def replenish (cap : Nat) (window : Window) : Window :=
  { window with balance := min (window.balance + window.refunds) cap, refunds := 0 }

variable {cap : Nat} {window : Window}

@[simp]
theorem arriveAll_nil : window.arriveAll cap [] = window :=
  rfl

@[simp]
theorem arriveAll_cons (rest : List Arrival) :
    window.arriveAll cap (arrival :: rest) = (window.arrive cap arrival).arriveAll cap rest :=
  rfl

theorem arriveAll_append (first second : List Arrival) :
    window.arriveAll cap (first ++ second) = (window.arriveAll cap first).arriveAll cap second := by
  simp [arriveAll]

@[simp]
theorem arrive_balance : (window.arrive cap arrival).balance = window.balance - 1 := by
  cases arrival <;> rfl

theorem arriveAll_balance :
    (window.arriveAll cap arrivals).balance = window.balance - arrivals.length := by
  induction arrivals generalizing window with
  | nil => rfl
  | cons _ _ ih =>
    rw [arriveAll_cons, ih, arrive_balance, List.length_cons]
    omega

/-- A unit the balance covers only moves credit inside the window. -/
theorem total_arrive (covered : 1 ≤ window.balance)
    (bounded : window.total ≤ cap) : (window.arrive cap arrival).total = window.total := by
  cases arrival <;> simp only [arrive, total] at bounded ⊢ <;> omega

theorem total_arriveAll (covered : arrivals.length ≤ window.balance)
    (bounded : window.total ≤ cap) :
    (window.arriveAll cap arrivals).total = window.total := by
  induction arrivals generalizing window with
  | nil => rfl
  | cons arrival rest ih =>
    rw [List.length_cons] at covered
    have conserved : (window.arrive cap arrival).total = window.total :=
      total_arrive arrival (by omega) bounded
    have remaining : rest.length ≤ (window.arrive cap arrival).balance := by
      rw [arrive_balance]
      omega
    rw [arriveAll_cons, ih remaining (conserved ▸ bounded), conserved]

theorem total_release (holds : 1 ≤ window.held) (bounded : window.total ≤ cap) :
    (window.release cap).total = window.total := by
  simp only [release, total] at bounded ⊢
  omega

theorem total_replenish (bounded : window.total ≤ cap) :
    (window.replenish cap).total = window.total := by
  simp only [replenish, total] at bounded ⊢
  omega

/-! ### Bounds without a capacity -/

theorem total_arrive_le :
    (window.arrive cap arrival).total ≤ window.total + (1 - window.balance) := by
  cases arrival <;> simp only [arrive, total] <;> omega

/-- A burst raises the total by at most what the balance does not cover. -/
theorem total_arriveAll_le :
    (window.arriveAll cap arrivals).total ≤
      window.total + (arrivals.length - window.balance) := by
  induction arrivals generalizing window with
  | nil => simp
  | cons arrival rest ih =>
    have first : (window.arrive cap arrival).total ≤ _ := total_arrive_le arrival
    have remaining : ((window.arrive cap arrival).arriveAll cap rest).total ≤ _ :=
      ih
    rw [arrive_balance] at remaining
    rw [arriveAll_cons, List.length_cons]
    omega

theorem total_release_le (holds : 1 ≤ window.held) : (window.release cap).total ≤ window.total := by
  simp only [release, total]
  omega

theorem total_replenish_le : (window.replenish cap).total ≤ window.total := by
  simp only [replenish, total]
  omega

/-! ### A floor under the total -/

variable {floor : Nat}

section

variable (reachable : floor ≤ cap) (above : floor ≤ window.total)

include reachable above

/-- A floor that the counters can hold is kept by every arrival: a counter that saturates has
reached it by itself. -/
theorem floor_arrive : floor ≤ (window.arrive cap arrival).total := by
  cases arrival <;> simp only [arrive, total] at above ⊢ <;> omega

theorem floor_arriveAll : floor ≤ (window.arriveAll cap arrivals).total := by
  induction arrivals generalizing window with
  | nil => exact above
  | cons arrival _ ih =>
    exact ih (floor_arrive arrival reachable above)

theorem floor_release (holds : 1 ≤ window.held) : floor ≤ (window.release cap).total := by
  simp only [release, total] at above ⊢
  omega

theorem floor_replenish : floor ≤ (window.replenish cap).total := by
  simp only [replenish, total] at above ⊢
  omega

end

end Window

end Magnetar.Library.CreditWindow
