import Mathlib.Data.List.Sort
import Mathlib.Tactic.Ring
import Magnetar.Library.Table
import Magnetar.Library.Threads

/-!
Contract: the client-wide memory budget (`memory_limit.rs`), one atomic step at a time.

Owns: the controller with its counter, its waiter lock and its parked wakers, the steps that
`try_reserve`, `poll_reserve`, `cancel_waiter` and the drop of a reservation are made of, and the
system of any number of callers that take these steps in turn.

Does not own: when a caller asks for memory.  What the waiter lock guards is read and written only
under it, so a critical section is cut only where the counter, which is not guarded, is read or
written.
-/

namespace Magnetar.Proto.MemoryLimit

open Library

/-- A refused request, with the budget as it stood. -/
structure MemoryLimitExceeded where
  current : Nat
  limit : Nat
  requested : Nat
  deriving DecidableEq, Repr

/-- `controlled` is `false` for the empty reservation of an unlimited controller. -/
structure MemoryReservation where
  controlled : Bool := false
  bytes : Nat := 0
  deriving DecidableEq, Repr

/-- The parked callers, by the id each of them got. -/
structure Waiters (W : Type) where
  nextId : Nat := 0
  parked : Table Nat W := ∅

/-- The controller, and beside it what an observer of the whole client knows: the reservations that
are not dropped yet, the wakers woken so far, and how many ids were given out. -/
structure MemoryLimitController (W : Type) where
  limit : Nat
  used : Nat := 0
  locked : Bool := false
  waiters : Waiters W := {}
  live : List MemoryReservation := []
  woken : List W := []
  registrations : Nat := 0

/-- What the last call of a caller returned. -/
inductive Returned where
  | reserved (reservation : MemoryReservation)
  | exceeded (refusal : MemoryLimitExceeded)
  | pending
  deriving DecidableEq, Repr

/-- Where a caller is in its call.  An attempt under the waiter lock carries the waker that
`poll_reserve` was given, one of `try_reserve` carries none. -/
inductive Phase (W : Type) where
  | idle
  | locking (bytes : Nat) (waker : W)
  | loading (bytes : Nat) (waker : Option W)
  | swapping (bytes : Nat) (waker : Option W) (current : Nat)
  | settling (reservation : MemoryReservation)
  | parking (bytes : Nat) (waker : W)
  | cancelling
  | draining
  | waking (wakers : List W)
  deriving DecidableEq, Repr

/-- A request that was left pending: its size, its waker, and how many wakers had been woken when it
was parked. -/
structure Request (W : Type) where
  bytes : Nat
  waker : W
  since : Nat
  deriving DecidableEq, Repr

/-- A caller with its registration slot.  `asked` is the request of its last poll, if that poll left
it pending and the caller has not gone away since. -/
structure Caller (W : Type) where
  phase : Phase W := .idle
  waiter : Option Nat := none
  returned : Option Returned := none
  asked : Option (Request W) := none

inductive Action (W : Type) where
  | tryReserve (bytes : Nat)
  | pollReserve (bytes : Nat) (waker : W)
  | cancelWaiter
  | dropReservation (reservation : MemoryReservation)
  | advance

/-- An action that starts an attempt to reserve. -/
def Action.isAttempt {W : Type} : Action W → Bool
  | .tryReserve _ | .pollReserve _ _ => true
  | _ => false

def Action.isAdvance {W : Type} : Action W → Bool
  | .advance => true
  | _ => false

/-- `AtomicU64::fetch_sub`. -/
def wrappingSub (left right : Nat) : Nat :=
  (left + 2 ^ 64 - right) % 2 ^ 64

/-- `current.checked_add(bytes).filter(|next| *next <= limit)`. -/
def fits (limit current bytes : Nat) : Bool :=
  decide (current + bytes < 2 ^ 64) && decide (current + bytes ≤ limit)

namespace Waiters

variable {W : Type}

/-- A live registration is refreshed, otherwise the caller gets a new id. -/
def park (waiters : Waiters W) (waiter : Option Nat) (waker : W) : Waiters W × Option Nat :=
  match waiter.filter fun id => (waiters.parked.lookup id).isSome with
  | some id => ({ waiters with parked := waiters.parked.insert id waker }, some id)
  | none =>
    ({ nextId := (waiters.nextId + 1) % 2 ^ 64
       parked := waiters.parked.insert waiters.nextId waker },
      some waiters.nextId)

/-- The parked wakers in the order of their ids. -/
def wakers (waiters : Waiters W) : List W :=
  (waiters.parked.entries.insertionSort fun left right => left.1 ≤ right.1).map Sigma.snd

end Waiters

namespace MemoryLimitController

variable {W : Type}

def new (limit : Nat) : MemoryLimitController W :=
  { limit }

variable (controller : MemoryLimitController W)

/-- A reservation begins to exist when the counter has been raised for it. -/
def grant (reservation : MemoryReservation) : MemoryLimitController W :=
  { controller with
    used := controller.used + reservation.bytes
    live := reservation :: controller.live }

def unlock : MemoryLimitController W :=
  { controller with locked := false }

def lock : MemoryLimitController W :=
  { controller with locked := true }

def forget (id : Nat) : MemoryLimitController W :=
  { controller with
    waiters := { controller.waiters with parked := controller.waiters.parked.erase id } }

end MemoryLimitController

variable {W : Type}

namespace Caller

def refused (caller : Caller W) (bytes : Nat) (waker : Option W) (refusal : MemoryLimitExceeded) :
    Caller W :=
  match waker with
  | none => { caller with phase := .idle, returned := some (.exceeded refusal) }
  | some waker => { caller with phase := .parking bytes waker }

def reserved (caller : Caller W) (waker : Option W) (reservation : MemoryReservation) : Caller W :=
  match waker with
  | none => { caller with phase := .idle, returned := some (.reserved reservation) }
  | some _ => { caller with phase := .settling reservation }

/-- A caller at the start of a call. -/
def begin (caller : Caller W) (phase : Phase W) : Caller W :=
  { caller with phase := phase, returned := none }

end Caller

variable (controller : MemoryLimitController W)

/-- The next step of a call that is under way, or `none` while the waiter lock is taken. -/
def advance (caller : Caller W) : Option (MemoryLimitController W × Caller W) :=
  match caller.phase with
  | .idle => none
  | .locking bytes waker =>
    if controller.locked then none
    else if controller.limit = 0 then
      some (controller.lock.grant {}, caller.reserved (some waker) {})
    else some (controller.lock, { caller with phase := .loading bytes (some waker) })
  | .loading bytes waker =>
    if fits controller.limit controller.used bytes then
      some (controller, { caller with phase := .swapping bytes waker controller.used })
    else
      some (controller, caller.refused bytes waker
        { current := controller.used, limit := controller.limit, requested := bytes })
  | .swapping bytes waker current =>
    if controller.used = current then
      let reservation := { controlled := true, bytes }
      some (controller.grant reservation, caller.reserved waker reservation)
    else some (controller, { caller with phase := .loading bytes waker })
  | .settling reservation =>
    let cleared := caller.waiter.elim controller controller.forget
    some (cleared.unlock,
      { caller with
        phase := .idle
        waiter := none
        returned := some (.reserved reservation) })
  | .parking bytes waker =>
    let (waiters, waiter) := controller.waiters.park caller.waiter waker
    let fresh := (caller.waiter.filter fun id =>
      (controller.waiters.parked.lookup id).isSome).isNone
    some ({ controller.unlock with
        waiters
        registrations := controller.registrations + if fresh then 1 else 0 },
      { phase := .idle
        waiter
        returned := some .pending
        asked := some { bytes, waker, since := controller.woken.length } })
  | .cancelling =>
    if controller.locked then none
    else
      some (caller.waiter.elim controller controller.forget,
        { caller with phase := .idle, waiter := none })
  | .draining =>
    if controller.locked then none
    else
      some ({ controller with waiters := { controller.waiters with parked := ∅ } },
        { caller with phase := .waking controller.waiters.wakers })
  | .waking [] => some (controller, { caller with phase := .idle })
  | .waking (waker :: rest) =>
    some ({ controller with woken := controller.woken ++ [waker] },
      { caller with phase := .waking rest })

/-- The first step of a call, which only an idle caller takes.  A caller cancels its own
registration, if it has one.  A drop first lowers the counter; the empty reservation has no
controller to give anything back to. -/
def begin (caller : Caller W) :
    Action W → Option (MemoryLimitController W × Caller W)
  | .tryReserve bytes =>
    if controller.limit = 0 then
      some (controller.grant {}, (caller.begin .idle).reserved none {})
    else some (controller, caller.begin (.loading bytes none))
  | .pollReserve bytes waker =>
    some (controller, { caller.begin (.locking bytes waker) with asked := none })
  | .cancelWaiter => some (controller, { caller.begin .cancelling with asked := none })
  | .dropReservation reservation =>
    if reservation ∈ controller.live then
      let dropped := { controller with live := controller.live.erase reservation }
      if reservation.controlled then
        some ({ dropped with used := wrappingSub controller.used reservation.bytes },
          { caller with phase := .draining })
      else some (dropped, caller)
    else none
  | .advance => none

def act (caller : Caller W) (action : Action W) : Option (MemoryLimitController W × Caller W) :=
  match action, caller.phase with
  | .advance, _ => advance controller caller
  | action, .idle => begin controller caller action
  | _, _ => none

variable {action : Action W}

theorem act_of_idle {controller : MemoryLimitController W} {caller : Caller W}
    (idle : caller.phase = .idle) (begins : action.isAdvance = false) :
    act controller caller action = begin controller caller action := by
  unfold act
  cases action with
  | advance => cases begins
  | _ => rw [idle]

/-! ### What a step can do -/

/-- Every step of a caller, with what it finds and what it leaves. -/
inductive Transition (controller : MemoryLimitController W) (caller : Caller W) :
    MemoryLimitController W → Caller W → Prop where
  | tryUnlimited (idle : caller.phase = .idle) (unlimited : controller.limit = 0) :
      Transition controller caller (controller.grant {}) ((caller.begin .idle).reserved none {})
  | tryReserve (bytes : Nat) (idle : caller.phase = .idle) (limited : controller.limit ≠ 0) :
      Transition controller caller controller (caller.begin (.loading bytes none))
  | pollReserve (bytes : Nat) (waker : W) (idle : caller.phase = .idle) :
      Transition controller caller controller
        { caller.begin (.locking bytes waker) with asked := none }
  | cancelWaiter (idle : caller.phase = .idle) :
      Transition controller caller controller { caller.begin .cancelling with asked := none }
  | dropControlled (reservation : MemoryReservation) (idle : caller.phase = .idle)
      (alive : reservation ∈ controller.live) (controlled : reservation.controlled = true) :
      Transition controller caller
        { controller with
          live := controller.live.erase reservation
          used := wrappingSub controller.used reservation.bytes }
        { caller with phase := .draining }
  | dropEmpty (reservation : MemoryReservation) (idle : caller.phase = .idle)
      (alive : reservation ∈ controller.live) (empty : reservation.controlled = false) :
      Transition controller caller { controller with live := controller.live.erase reservation }
        caller
  | lockUnlimited (bytes : Nat) (waker : W) (at_ : caller.phase = .locking bytes waker)
      (free : controller.locked = false) (unlimited : controller.limit = 0) :
      Transition controller caller (controller.lock.grant {}) (caller.reserved (some waker) {})
  | lock (bytes : Nat) (waker : W) (at_ : caller.phase = .locking bytes waker)
      (free : controller.locked = false) (limited : controller.limit ≠ 0) :
      Transition controller caller controller.lock
        { caller with phase := .loading bytes (some waker) }
  | load (bytes : Nat) (waker : Option W) (at_ : caller.phase = .loading bytes waker)
      (room : fits controller.limit controller.used bytes = true) :
      Transition controller caller controller
        { caller with phase := .swapping bytes waker controller.used }
  | refuse (bytes : Nat) (waker : Option W) (at_ : caller.phase = .loading bytes waker)
      (full : fits controller.limit controller.used bytes = false) :
      Transition controller caller controller
        (caller.refused bytes waker
          { current := controller.used, limit := controller.limit, requested := bytes })
  | swap (bytes : Nat) (waker : Option W)
      (at_ : caller.phase = .swapping bytes waker controller.used) :
      Transition controller caller (controller.grant { controlled := true, bytes })
        (caller.reserved waker { controlled := true, bytes })
  | lose (bytes : Nat) (waker : Option W) (current : Nat)
      (at_ : caller.phase = .swapping bytes waker current) (moved : controller.used ≠ current) :
      Transition controller caller controller { caller with phase := .loading bytes waker }
  | settle (reservation : MemoryReservation) (at_ : caller.phase = .settling reservation) :
      Transition controller caller (caller.waiter.elim controller controller.forget).unlock
        { caller with
          phase := .idle
          waiter := none
          returned := some (.reserved reservation) }
  | refresh (bytes : Nat) (waker : W) (id : Nat) (at_ : caller.phase = .parking bytes waker)
      (held : caller.waiter = some id)
      (parked : (controller.waiters.parked.lookup id).isSome = true) :
      Transition controller caller
        { controller.unlock with
          waiters := { controller.waiters with
            parked := controller.waiters.parked.insert id waker } }
        { phase := .idle
          waiter := some id
          returned := some .pending
          asked := some { bytes, waker, since := controller.woken.length } }
  | register (bytes : Nat) (waker : W) (at_ : caller.phase = .parking bytes waker)
      (unheld : ∀ id, caller.waiter = some id → controller.waiters.parked.lookup id = none) :
      Transition controller caller
        { controller.unlock with
          waiters :=
            { nextId := (controller.waiters.nextId + 1) % 2 ^ 64
              parked := controller.waiters.parked.insert controller.waiters.nextId waker }
          registrations := controller.registrations + 1 }
        { phase := .idle
          waiter := some controller.waiters.nextId
          returned := some .pending
          asked := some { bytes, waker, since := controller.woken.length } }
  | cancel (at_ : caller.phase = .cancelling) (free : controller.locked = false) :
      Transition controller caller (caller.waiter.elim controller controller.forget)
        { caller with phase := .idle, waiter := none }
  | drain (at_ : caller.phase = .draining) (free : controller.locked = false) :
      Transition controller caller
        { controller with waiters := { controller.waiters with parked := ∅ } }
        { caller with phase := .waking controller.waiters.wakers }
  | finish (at_ : caller.phase = .waking []) :
      Transition controller caller controller { caller with phase := .idle }
  | wake (waker : W) (rest : List W) (at_ : caller.phase = .waking (waker :: rest)) :
      Transition controller caller { controller with woken := controller.woken ++ [waker] }
        { caller with phase := .waking rest }

section Inversion

variable {controller after : MemoryLimitController W} {caller next : Caller W}

private theorem parking_transition {bytes : Nat} {waker : W}
    (at_ : caller.phase = .parking bytes waker)
    (steps : advance controller caller = some (after, next)) :
    Transition controller caller after next := by
  unfold advance at steps
  rw [at_] at steps
  dsimp only at steps
  cases found : caller.waiter.filter fun id => (controller.waiters.parked.lookup id).isSome with
  | none =>
    rw [found, Waiters.park, found] at steps
    cases steps
    refine .register bytes waker at_ ?_
    intro id held
    rw [held, Option.filter_eq_none_iff] at found
    simpa using found id rfl
  | some id =>
    rw [found, Waiters.park, found] at steps
    cases steps
    obtain ⟨held, parked⟩ := Option.filter_eq_some_iff.mp found
    exact .refresh bytes waker id at_ held parked

theorem Transition.of_advance (steps : advance controller caller = some (after, next)) :
    Transition controller caller after next := by
  cases at_ : caller.phase with
  | parking => exact parking_transition at_ steps
  | idle =>
    rw [advance, at_] at steps
    cases steps
  | locking bytes waker =>
    rw [advance, at_] at steps
    dsimp only at steps
    split at steps
    · cases steps
    · rename_i free
      rw [Bool.not_eq_true] at free
      split at steps
      · rename_i unlimited
        cases steps
        exact .lockUnlimited bytes waker at_ free unlimited
      · rename_i limited
        cases steps
        exact .lock bytes waker at_ free limited
  | loading bytes waker =>
    rw [advance, at_] at steps
    dsimp only at steps
    split at steps
    · rename_i room
      cases steps
      exact .load bytes waker at_ room
    · rename_i full
      rw [Bool.not_eq_true] at full
      cases steps
      exact .refuse bytes waker at_ full
  | swapping bytes waker current =>
    rw [advance, at_] at steps
    dsimp only at steps
    split at steps
    · rename_i same
      cases steps
      exact .swap bytes waker (same ▸ at_)
    · rename_i moved
      cases steps
      exact .lose bytes waker current at_ moved
  | settling reservation =>
    rw [advance, at_] at steps
    cases steps
    exact .settle reservation at_
  | cancelling | draining =>
    rw [advance, at_] at steps
    dsimp only at steps
    split at steps
    · cases steps
    · rename_i free
      rw [Bool.not_eq_true] at free
      cases steps
      first | exact .cancel at_ free | exact .drain at_ free
  | waking wakers =>
    rw [advance, at_] at steps
    cases wakers with
    | nil =>
      cases steps
      exact .finish at_
    | cons waker rest =>
      cases steps
      exact .wake waker rest at_

theorem Transition.of_begin (idle : caller.phase = .idle)
    (steps : begin controller caller action = some (after, next)) :
    Transition controller caller after next := by
  cases action with
  | advance => cases steps
  | tryReserve bytes =>
    rw [begin] at steps
    split at steps
    · rename_i unlimited
      cases steps
      exact .tryUnlimited idle unlimited
    · rename_i limited
      cases steps
      exact .tryReserve bytes idle limited
  | pollReserve bytes waker =>
    cases steps
    exact .pollReserve bytes waker idle
  | cancelWaiter =>
    cases steps
    exact .cancelWaiter idle
  | dropReservation reservation =>
    rw [begin] at steps
    split at steps
    · rename_i alive
      split at steps
      · rename_i controlled
        cases steps
        exact .dropControlled reservation idle alive controlled
      · rename_i empty
        rw [Bool.not_eq_true] at empty
        cases steps
        exact .dropEmpty reservation idle alive empty
    · cases steps

theorem Transition.of_act (steps : act controller caller action = some (after, next)) :
    Transition controller caller after next := by
  unfold act at steps
  split at steps
  · exact .of_advance steps
  · rename_i idle
    exact .of_begin idle steps
  · cases steps

theorem Transition.limit_eq (steps : Transition controller caller after next) :
    after.limit = controller.limit := by
  cases steps with
  | settle | cancel => cases caller.waiter <;> rfl
  | _ => rfl

end Inversion

abbrev Client (ι W : Type) := Threads.System ι (MemoryLimitController W) (Caller W)

variable {ι : Type} [DecidableEq ι]

def Client.new (limit : Nat) : Client ι W where
  shared := MemoryLimitController.new limit
  threads := fun _ => {}

def Client.run (client : Client ι W) (schedule : List (ι × Action W)) : Client ι W :=
  Machine.run (Threads.step act) client schedule

end Magnetar.Proto.MemoryLimit
