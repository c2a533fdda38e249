import Mathlib.Algebra.BigOperators.Group.List.Basic
import Magnetar.Proto.MemoryLimit

/-!
Contract: the counter of the memory budget is exact under every schedule.

Owns: that the counter is the sum of the live reservations and stays within the limit, and that an
attempt which is refused never moves it.

Does not own: who is woken (`MemoryLimit.Wakeups`).
-/

namespace Magnetar.Proto.MemoryLimit

open Library Library.Machine MemoryLimitController

variable {ι W : Type} [DecidableEq ι]

/-! ### The sum of the live reservations -/

def MemoryLimitController.held (controller : MemoryLimitController W) : Nat :=
  (controller.live.map MemoryReservation.bytes).sum

theorem held_grant (controller : MemoryLimitController W) (reservation : MemoryReservation) :
    (controller.grant reservation).held = controller.held + reservation.bytes := by
  simp [held, grant, Nat.add_comm]

variable {reservation : MemoryReservation}

theorem held_erase {controller : MemoryLimitController W} (alive : reservation ∈ controller.live) :
    reservation.bytes + ((controller.live.erase reservation).map MemoryReservation.bytes).sum =
      controller.held :=
  List.sum_map_erase MemoryReservation.bytes alive

theorem wrappingSub_of_le {left right : Nat} (le : right ≤ left) (bounded : left < 2 ^ 64) :
    wrappingSub left right = left - right := by
  unfold wrappingSub
  omega

/-- The budget as it stands: the counter counts the live reservations, within the limit. -/
structure Counted (controller : MemoryLimitController W) : Prop where
  bounded : controller.limit < 2 ^ 64
  exact_ : controller.used = controller.held
  within : controller.used ≤ controller.limit
  empty : ∀ reservation ∈ controller.live, reservation.controlled = false → reservation.bytes = 0

/-- A caller between its load and its swap has seen that its request fits. -/
def Claims (limit : Nat) (caller : Caller W) : Prop :=
  ∀ bytes waker current, caller.phase = .swapping bytes waker current → current + bytes ≤ limit

namespace Counted

variable {controller : MemoryLimitController W}

section

variable (counted : Counted controller)

include counted

theorem lock : Counted controller.lock :=
  ⟨counted.bounded, counted.exact_, counted.within, counted.empty⟩

theorem grant (room : controller.used + reservation.bytes ≤ controller.limit)
    (empty : reservation.controlled = false → reservation.bytes = 0) :
    Counted (controller.grant reservation) where
  bounded := counted.bounded
  exact_ := by
    rw [held_grant, ← counted.exact_]
    rfl
  within := room
  empty := by
    intro other member
    rcases List.mem_cons.mp member with rfl | member
    · exact empty
    · exact counted.empty other member

theorem dropControlled (alive : reservation ∈ controller.live) :
    Counted { controller with
      live := controller.live.erase reservation
      used := wrappingSub controller.used reservation.bytes } := by
  have total := held_erase alive
  have counts := counted.exact_
  have within := counted.within
  have lowered : wrappingSub controller.used reservation.bytes =
      controller.used - reservation.bytes :=
    wrappingSub_of_le (by omega) (by have := counted.bounded; omega)
  constructor
  · exact counted.bounded
  · show wrappingSub controller.used reservation.bytes =
      ((controller.live.erase reservation).map MemoryReservation.bytes).sum
    omega
  · show wrappingSub controller.used reservation.bytes ≤ controller.limit
    omega
  · intro other member
    exact counted.empty other (List.mem_of_mem_erase member)

theorem dropEmpty (alive : reservation ∈ controller.live) (empty : reservation.controlled = false) :
    Counted { controller with live := controller.live.erase reservation } := by
  have total := held_erase alive
  have nothing := counted.empty reservation alive empty
  have counts := counted.exact_
  constructor
  · exact counted.bounded
  · show controller.used = ((controller.live.erase reservation).map MemoryReservation.bytes).sum
    omega
  · exact counted.within
  · intro other member
    exact counted.empty other (List.mem_of_mem_erase member)

/-- A step keeps the budget counted, whatever the other callers are about to do. -/
theorem step {after : MemoryLimitController W} {caller next : Caller W}
    (claims : Claims controller.limit caller)
    (steps : Transition controller caller after next) : Counted after := by
  cases steps with
  | tryUnlimited => exact counted.grant counted.within fun _ => rfl
  | lockUnlimited => exact counted.lock.grant counted.within fun _ => rfl
  | swap bytes waker at_ => exact counted.grant (claims bytes waker _ at_) nofun
  | dropControlled _ _ alive => exact counted.dropControlled alive
  | dropEmpty _ _ alive empty => exact counted.dropEmpty alive empty
  | settle | cancel => cases caller.waiter <;> exact ⟨counted.1, counted.2, counted.3, counted.4⟩
  | _ => exact ⟨counted.1, counted.2, counted.3, counted.4⟩

end

end Counted

theorem Claims.step {controller after : MemoryLimitController W} {caller next : Caller W}
    (steps : Transition controller caller after next) : Claims after.limit next := by
  rw [steps.limit_eq]
  intro bytes waker current swapping
  cases steps with
  | load _ _ _ room =>
    cases swapping
    rw [fits, Bool.and_eq_true, decide_eq_true_eq, decide_eq_true_eq] at room
    exact room.2
  | dropEmpty _ idle =>
    rw [idle] at swapping
    cases swapping
  | refuse _ waker' | swap _ waker' => cases waker' <;> cases swapping
  | _ => cases swapping

/-- The budget is counted, and every caller that is about to swap has a request that fits what it
loaded. -/
structure Client.Exact (limit : Nat) (client : Client ι W) : Prop where
  limited : client.shared.limit = limit
  counted : Counted client.shared
  claims : ∀ caller, Claims limit (client.threads caller)

omit [DecidableEq ι] in
theorem Client.Exact.new (limit : Nat) (bounded : limit < 2 ^ 64) :
    Client.Exact limit (Client.new limit : Client ι W) where
  limited := rfl
  counted := ⟨bounded, rfl, Nat.zero_le _, nofun⟩
  claims := nofun

variable {client : Client ι W}

theorem Client.Exact.run {limit : Nat} (holds : Client.Exact limit client)
    (schedule : List (ι × Action W)) : Client.Exact limit (client.run schedule) := by
  refine Threads.run_invariant (Client.Exact limit) ?_ holds schedule
  intro client thread action after next holds acts
  have steps := Transition.of_act acts
  have limited : after.limit = limit := steps.limit_eq.trans holds.limited
  constructor
  · exact limited
  · apply holds.counted.step _ steps
    rw [holds.limited]
    exact holds.claims thread
  · apply Threads.System.forall_moved
    · rw [← limited]
      exact Claims.step steps
    · intro other _
      exact holds.claims other

/-! ### Refused attempts -/

/-- The last call of the caller has ended, without a reservation. -/
def Caller.isRefused (caller : Caller W) : Bool :=
  match caller.phase, caller.returned with
  | .idle, some (.exceeded _) => true
  | .idle, some .pending => true
  | _, _ => false

/-- The attempt of the caller has its reservation: it has returned, or has only the lock left to let
go of. -/
def Caller.Succeeds (caller : Caller W) : Prop :=
  (∃ reservation, caller.phase = .settling reservation) ∨
    caller.phase = .idle ∧ ∃ reservation, caller.returned = some (.reserved reservation)

theorem Caller.Succeeds.not_refused {caller : Caller W} (succeeds : caller.Succeeds) :
    caller.isRefused = false := by
  unfold Caller.isRefused
  rcases succeeds with ⟨_, settling⟩ | ⟨idle, _, returned⟩
  · rw [settling]
  · rw [idle, returned]

theorem Caller.reserved_succeeds (caller : Caller W) (waker : Option W)
    (reservation : MemoryReservation) : (caller.reserved waker reservation).Succeeds := by
  cases waker with
  | none => exact .inr ⟨rfl, reservation, rfl⟩
  | some => exact .inl ⟨reservation, rfl⟩

section Attempt

variable {controller after : MemoryLimitController W} {caller next : Caller W}

/-- A step that is no drop moves the counter only by giving the caller its reservation. -/
theorem succeeds_of_moved {action : Action W} (attempts : action.isAttempt || action.isAdvance)
    (acts : act controller caller action = some (after, next))
    (moved : after.used ≠ controller.used) : next.Succeeds := by
  cases Transition.of_act acts with
  | tryUnlimited => exact Caller.reserved_succeeds _ none _
  | lockUnlimited _ waker => exact Caller.reserved_succeeds _ (some waker) _
  | swap _ waker => exact Caller.reserved_succeeds _ waker _
  | settle | cancel =>
    exfalso
    apply moved
    cases caller.waiter <;> rfl
  | dropControlled reservation idle =>
    -- Only a drop begins with this step, and a drop is no attempt.
    exfalso
    cases action with
    | tryReserve =>
      rw [act_of_idle idle rfl, begin] at acts
      split at acts <;> simp [Caller.begin, Caller.reserved] at acts
    | pollReserve =>
      rw [act_of_idle idle rfl, begin] at acts
      simp [Caller.begin] at acts
    | cancelWaiter | dropReservation => cases attempts
    | advance =>
      rw [act, advance, idle] at acts
      cases acts
  | _ => exact absurd rfl moved

/-- A caller that has its reservation keeps it while it only advances. -/
theorem Caller.Succeeds.advance (succeeds : caller.Succeeds)
    (steps : advance controller caller = some (after, next)) : next.Succeeds := by
  rcases succeeds with ⟨reservation, settling⟩ | ⟨idle, _⟩
  · rw [MemoryLimit.advance, settling] at steps
    cases steps
    exact .inr ⟨rfl, reservation, rfl⟩
  · rw [MemoryLimit.advance, idle] at steps
    cases steps

end Attempt

/-- The moves of one caller leave the counter as it is, whatever the others do to it in between. -/
abbrev LeavesCounter (thread : ι) (client : Client ι W) (schedule : List (ι × Action W)) : Prop :=
  Guarded (Threads.step act) (fun client move => move.1 = thread →
    (Threads.step act client move).shared.used = client.shared.used) client schedule

variable {schedule : List (ι × Action W)}

theorem Caller.Succeeds.run {thread : ι} (succeeds : (client.threads thread).Succeeds)
    (advances : ∀ move ∈ schedule, move.1 = thread → move.2.isAdvance = true) :
    ((client.run schedule).threads thread).Succeeds := by
  induction schedule generalizing client with
  | nil => exact succeeds
  | cons move _ ih =>
    refine ih ?_ fun move member => advances move (List.mem_cons_of_mem _ member)
    by_cases own : thread = move.1
    · obtain ⟨named, action⟩ := move
      subst own
      cases action with
      | advance =>
        cases acts : act client.shared (client.threads thread) .advance with
        | none => rwa [Threads.step_of_blocked acts]
        | some result =>
          obtain ⟨after, next⟩ := result
          rw [Threads.step_of_act acts, Threads.System.moved_threads_self]
          exact succeeds.advance acts
      | _ => cases advances _ List.mem_cons_self rfl
    · rwa [Threads.step_threads_of_ne _ own]

/-- The move of a caller in an attempt that moves the counter gives it its reservation. -/
theorem succeeds_of_step {move : ι × Action W} (attempts : move.2.isAttempt || move.2.isAdvance)
    (moved : (Threads.step act client move).shared.used ≠ client.shared.used) :
    ((Threads.step act client move).threads move.1).Succeeds := by
  obtain ⟨thread, action⟩ := move
  cases acts : act client.shared (client.threads thread) action with
  | none =>
    rw [Threads.step_of_blocked acts] at moved
    exact absurd rfl moved
  | some result =>
    obtain ⟨after, next⟩ := result
    rw [Threads.step_of_act acts] at moved ⊢
    rw [Threads.System.moved_threads_self]
    exact succeeds_of_moved attempts acts moved

theorem leavesCounter_of_not_succeeds {thread : ι}
    (attempts : ∀ move ∈ schedule, move.1 = thread → move.2.isAttempt || move.2.isAdvance)
    (advances : ∀ move ∈ schedule.tail, move.1 = thread → move.2.isAdvance = true)
    (fails : ¬ ((client.run schedule).threads thread).Succeeds) :
    LeavesCounter thread client schedule := by
  induction schedule generalizing client with
  | nil => trivial
  | cons move _ ih =>
    refine ⟨?_, ih ?_ ?_ fails⟩
    · intro own
      by_contra moved
      have succeeds := succeeds_of_step (attempts move List.mem_cons_self own) moved
      rw [own] at succeeds
      exact fails (succeeds.run advances)
    · intro other member
      exact attempts other (List.mem_cons_of_mem _ member)
    · intro other member
      exact advances other (List.mem_of_mem_tail member)

/-- For any number of callers, any limit and any schedule: the counter is the sum of the live
reservations and within the limit, and an attempt that is refused has not moved it. -/
theorem budget_is_exact (limit : Nat) (bounded : limit < 2 ^ 64) (schedule : List (ι × Action W)) :
    let client : Client ι W := (Client.new limit).run schedule
    client.shared.used = client.shared.held ∧ client.shared.used ≤ limit ∧
      ∀ (thread : ι) (attempt : Action W) (later : List (ι × Action W)),
        attempt.isAttempt = true →
        (∀ move ∈ later, move.1 = thread → move.2.isAdvance = true) →
        ((client.run ((thread, attempt) :: later)).threads thread).isRefused = true →
        LeavesCounter thread client ((thread, attempt) :: later) := by
  intro client
  have holds : Client.Exact limit client := (Client.Exact.new limit bounded).run schedule
  refine ⟨holds.counted.exact_, ?_, ?_⟩
  · rw [← holds.limited]
    exact holds.counted.within
  · intro thread attempt later attempts advances refused
    apply leavesCounter_of_not_succeeds
    · intro move member own
      rcases List.mem_cons.mp member with rfl | member
      · rw [attempts, Bool.true_or]
      · rw [advances move member own, Bool.or_true]
    · exact advances
    · intro succeeds
      rw [succeeds.not_refused] at refused
      cases refused

/-- One caller holds 6 of 10 bytes; the other asks for 5 and is refused, while the first gives its
bytes back. -/
theorem refused_beside_drop :
    let client : Client Bool Nat :=
      (Client.new 10).run [(true, .tryReserve 6), (true, .advance), (true, .advance)]
    client.shared.used = 6 ∧
      ((client.run [(false, .tryReserve 5), (false, .advance),
        (true, .dropReservation { controlled := true, bytes := 6 })]).threads false).returned =
        some (.exceeded { current := 6, limit := 10, requested := 5 }) ∧
      LeavesCounter false client [(false, .tryReserve 5), (false, .advance),
        (true, .dropReservation { controlled := true, bytes := 6 })] := by
  refine ⟨by decide, by decide, ?_⟩
  exact (budget_is_exact 10 (by decide) _).2.2 false (.tryReserve 5) _ rfl (by decide) (by decide)

end Magnetar.Proto.MemoryLimit
