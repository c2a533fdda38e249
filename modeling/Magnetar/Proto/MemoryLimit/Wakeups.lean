import Magnetar.Proto.MemoryLimit.Exact

/-!
Contract: no release of memory is missed by a caller that waits for it.

Owns: the waiter lock as a lock, the ids of the registrations, and that a caller whose last poll was
left pending has been woken since, is about to be, or asked for more than there is.

Does not own: what a woken caller does.  Registration ids are distinct while no more than `2 ^ 64`
of them are given out.
-/

namespace Magnetar.Proto.MemoryLimit

open Library Library.Machine Threads.System

variable {ι W : Type}

/-! ### The lock and the registrations -/

/-- The caller is inside `poll_reserve` and has the waiter lock. -/
def Phase.isLocked : Phase W → Bool
  | .loading _ (some _) | .swapping _ (some _) _ | .settling _ | .parking _ _ => true
  | _ => false

/-- The caller is inside `poll_reserve` or `cancel_waiter`. -/
def Phase.isPolling : Phase W → Bool
  | .locking _ _ | .cancelling => true
  | phase => phase.isLocked

/-- The waiter lock has one holder, and every registration one owner. -/
structure Client.Orderly (client : Client ι W) : Prop where
  locked : ∀ thread, (client.threads thread).phase.isLocked = true → client.shared.locked = true
  alone : ∀ thread other, (client.threads thread).phase.isLocked = true →
    (client.threads other).phase.isLocked = true → thread = other
  numbered : client.shared.waiters.nextId = client.shared.registrations % 2 ^ 64
  issued : ∀ thread id, (client.threads thread).waiter = some id →
    id < client.shared.registrations
  apart : ∀ thread other id, (client.threads thread).waiter = some id →
    (client.threads other).waiter = some id → thread = other
  polled : ∀ thread, (client.threads thread).phase.isPolling = true →
    (client.threads thread).asked = none

variable {waker : W} {bytes id : Nat}

section Step

variable {controller after : MemoryLimitController W} {caller next : Caller W}

section

variable (steps : Transition controller caller after next)

include steps

/-- The lock is taken when it is free, and let go of by its holder. -/
theorem Transition.lock_cases :
    next.phase.isLocked = caller.phase.isLocked ∧ after.locked = controller.locked ∨
      controller.locked = false ∧ after.locked = true ∧ next.phase.isLocked = true ∨
      caller.phase.isLocked = true ∧ next.phase.isLocked = false := by
  cases steps with
  | lockUnlimited _ _ _ free | lock _ _ _ free => exact .inr (.inl ⟨free, rfl, rfl⟩)
  | load _ waker at_ | refuse _ waker at_ | swap _ waker at_ | lose _ waker _ at_ =>
    exact .inl ⟨by rw [at_]; cases waker <;> rfl, rfl⟩
  | settle _ at_ | refresh _ _ _ at_ | register _ _ at_ =>
    exact .inr (.inr ⟨by rw [at_]; rfl, rfl⟩)
  | cancel at_ => exact .inl ⟨by rw [at_]; rfl, by cases caller.waiter <;> rfl⟩
  | dropEmpty => exact .inl ⟨rfl, rfl⟩
  | tryUnlimited at_ | tryReserve _ at_ | pollReserve _ _ at_ | cancelWaiter at_
  | dropControlled _ at_ | drain at_ | finish at_ | wake _ _ at_ =>
    exact .inl ⟨by rw [at_]; rfl, rfl⟩

theorem Transition.id_cases :
    after.waiters.nextId = controller.waiters.nextId ∧
        after.registrations = controller.registrations ∧
        (next.waiter = caller.waiter ∨ next.waiter = none) ∨
      after.waiters.nextId = (controller.waiters.nextId + 1) % 2 ^ 64 ∧
        after.registrations = controller.registrations + 1 ∧
        next.waiter = some controller.waiters.nextId := by
  cases steps with
  | register => exact .inr ⟨rfl, rfl, rfl⟩
  | settle | cancel => cases caller.waiter <;> exact .inl ⟨rfl, rfl, .inr rfl⟩
  | refresh _ _ _ _ held => exact .inl ⟨rfl, rfl, .inl held.symm⟩
  | refuse _ waker | swap _ waker => cases waker <;> exact .inl ⟨rfl, rfl, .inl rfl⟩
  | _ => exact .inl ⟨rfl, rfl, .inl rfl⟩

theorem Transition.registrations_le : controller.registrations ≤ after.registrations := by
  rcases steps.id_cases with ⟨_, same, _⟩ | ⟨_, more, _⟩ <;> omega

/-- A request is kept by a step outside a poll, dropped when a poll begins, and made when the poll
parks. -/
theorem Transition.asked_cases :
    next.asked = none ∨
      next.asked = caller.asked ∧ next.waiter = caller.waiter ∧
        (next.phase.isPolling = true → caller.phase.isPolling = true) ∨
      caller.phase.isPolling = true ∧ next.phase.isPolling = false ∧
        (next.asked = caller.asked ∨ ∃ bytes waker, caller.phase = .parking bytes waker) := by
  cases steps with
  | pollReserve | cancelWaiter => exact .inl rfl
  | lockUnlimited _ _ at_ | lock _ _ at_ =>
    exact .inr (.inl ⟨rfl, rfl, fun _ => by rw [at_]; rfl⟩)
  | load _ waker at_ | lose _ waker _ at_ =>
    refine .inr (.inl ⟨rfl, rfl, ?_⟩)
    rw [at_]
    cases waker <;> exact id
  | refuse _ waker at_ | swap _ waker at_ =>
    cases waker <;> refine .inr (.inl ⟨rfl, rfl, ?_⟩) <;> rw [at_] <;> exact id
  | settle _ at_ | cancel at_ => exact .inr (.inr ⟨by rw [at_]; rfl, rfl, .inl rfl⟩)
  | refresh bytes waker _ at_ | register bytes waker at_ =>
    exact .inr (.inr ⟨by rw [at_]; rfl, rfl, .inr ⟨bytes, waker, at_⟩⟩)
  | dropEmpty => exact .inr (.inl ⟨rfl, rfl, id⟩)
  | _ => exact .inr (.inl ⟨rfl, rfl, nofun⟩)

/-- Only its own caller removes a registration, or the release that wakes it. -/
theorem Transition.lookup_parked (others : caller.phase.isPolling = true → caller.waiter ≠ some id)
    (issued : after.registrations = controller.registrations + 1 →
      id ≠ controller.waiters.nextId)
    (quiet : caller.phase ≠ .draining) :
    after.waiters.parked.lookup id = controller.waiters.parked.lookup id := by
  have forgotten (polls : caller.phase.isPolling = true) :
      (caller.waiter.elim controller controller.forget).waiters.parked.lookup id =
        controller.waiters.parked.lookup id := by
    have foreign := others polls
    cases held : caller.waiter with
    | none => rfl
    | some =>
      rw [held] at foreign
      exact AList.lookup_erase_ne fun same => foreign (by rw [same])
  cases steps with
  | settle _ at_ | cancel at_ => exact forgotten (by rw [at_]; rfl)
  | refresh _ _ _ at_ held =>
    have foreign := others (by rw [at_]; rfl)
    rw [held] at foreign
    exact AList.lookup_insert_ne fun same => foreign (by rw [same])
  | register => exact AList.lookup_insert_ne (issued rfl)
  | drain at_ => exact absurd at_ quiet
  | _ => rfl

theorem Transition.used_cases : controller.used ≤ after.used ∨ next.phase = .draining := by
  cases steps with
  | dropControlled => exact .inr rfl
  | settle | cancel => cases caller.waiter <;> exact .inl (Nat.le_refl _)
  | tryUnlimited | lockUnlimited | swap => exact .inl (Nat.le_add_right _ _)
  | _ => exact .inl (Nat.le_refl _)

theorem Transition.woken_grows : controller.woken <+: after.woken := by
  cases steps with
  | wake => exact List.prefix_append _ _
  | settle | cancel => cases caller.waiter <;> exact List.prefix_rfl
  | _ => exact List.prefix_rfl

theorem Transition.of_waking {wakers : List W}
    (at_ : caller.phase = .waking wakers) (member : waker ∈ wakers) :
    after.woken = controller.woken ++ [waker] ∨
      ∃ rest, next.phase = .waking rest ∧ waker ∈ rest := by
  cases steps with
  | wake _ rest at_' =>
    rw [at_] at at_'
    cases at_'
    rcases List.mem_cons.mp member with rfl | later
    · exact .inl rfl
    · exact .inr ⟨rest, rfl, later⟩
  | finish at_' =>
    rw [at_] at at_'
    cases at_'
    cases member
  | dropEmpty => exact .inr ⟨wakers, at_, member⟩
  | _ => simp_all

theorem Transition.of_parking (at_ : caller.phase = .parking bytes waker) :
    after.woken = controller.woken ∧
      next.asked = some { bytes, waker, since := controller.woken.length } ∧
      ∃ id, next.waiter = some id ∧ after.waiters.parked.lookup id = some waker := by
  cases steps with
  | refresh _ _ _ at_' | register _ _ at_' =>
    rw [at_] at at_'
    cases at_'
    exact ⟨rfl, rfl, _, rfl, AList.lookup_insert _⟩
  | _ => simp_all

end

end Step

theorem lacks_of_refused {limit used : Nat} (bounded : limit < 2 ^ 64)
    (full : fits limit used bytes = false) : limit < used + bytes := by
  rw [fits, Bool.and_eq_false_iff, decide_eq_false_iff_not, decide_eq_false_iff_not] at full
  omega

theorem Waiters.mem_wakers {waiters : Waiters W}
    (parked : waiters.parked.lookup id = some waker) : waker ∈ waiters.wakers := by
  have entry : (⟨id, waker⟩ : Σ _ : Nat, W) ∈ waiters.parked.entries := AList.mem_lookup_iff.mp parked
  exact List.mem_map.mpr ⟨_, (List.mem_insertionSort _).mpr entry, rfl⟩

theorem Client.Orderly.new (limit : Nat) : Client.Orderly (Client.new limit : Client ι W) where
  locked := nofun
  alone := nofun
  numbered := rfl
  issued := nofun
  apart := nofun
  polled := nofun

variable [DecidableEq ι]

section Orderly

variable {client : Client ι W} {thread : ι} {after : MemoryLimitController W} {next : Caller W}

section

variable (orderly : Client.Orderly client)
  (steps : Transition client.shared (client.threads thread) after next)

include orderly steps

theorem Client.Orderly.locked_moved (other : ι)
    (holds : ((client.moved thread after next).threads other).phase.isLocked = true) :
    after.locked = true ∧
      (other ≠ thread →
        next.phase.isLocked = false ∧ (client.threads other).phase.isLocked = true) := by
  by_cases same : other = thread
  · subst same
    rw [moved_threads_self] at holds
    refine ⟨?_, fun differs => absurd rfl differs⟩
    rcases steps.lock_cases with ⟨keeps, lock⟩ | ⟨_, taken, _⟩ | ⟨_, leaves⟩
    · rw [lock]
      exact orderly.locked other (keeps ▸ holds)
    · exact taken
    · rw [leaves] at holds
      cases holds
  · rw [moved_threads_of_ne _ _ _ same] at holds
    have taken := orderly.locked other holds
    rcases steps.lock_cases with ⟨keeps, lock⟩ | ⟨free, _⟩ | ⟨held, _⟩
    · refine ⟨lock.trans taken, fun _ => ⟨?_, holds⟩⟩
      rw [keeps, Bool.eq_false_iff]
      intro held
      exact same (orderly.alone other thread holds held)
    · rw [free] at taken
      cases taken
    · exact absurd (orderly.alone other thread holds held) same

/-- The registration of a caller was its own before, or it is the one that was just given out. -/
theorem Client.Orderly.waiter_moved (few : after.registrations ≤ 2 ^ 64) (other : ι)
    (held : ((client.moved thread after next).threads other).waiter = some id) :
    id < after.registrations ∧
      ((client.threads other).waiter = some id ∨
        other = thread ∧ id = client.shared.registrations) := by
  have more := steps.registrations_le
  by_cases same : other = thread
  · subst same
    rw [moved_threads_self] at held
    rcases steps.id_cases with ⟨_, _, kept | gone⟩ | ⟨_, count, fresh⟩
    · rw [kept] at held
      have := orderly.issued other id held
      exact ⟨by omega, .inl held⟩
    · rw [gone] at held
      cases held
    · rw [fresh, orderly.numbered, Option.some_inj] at held
      have own : id = client.shared.registrations := by omega
      exact ⟨by omega, .inr ⟨rfl, own⟩⟩
  · rw [moved_threads_of_ne _ _ _ same] at held
    have := orderly.issued other id held
    exact ⟨by omega, .inl held⟩

/-- A step keeps the lock and the registrations in order while the ids do not wrap. -/
theorem Client.Orderly.step (few : after.registrations ≤ 2 ^ 64) :
    Client.Orderly (client.moved thread after next) := by
  constructor
  · intro other holds
    exact (orderly.locked_moved steps other holds).1
  · intro one two holds holds'
    by_contra differs
    by_cases own : one = thread
    · subst own
      have quiet := ((orderly.locked_moved steps two holds').2 (Ne.symm differs)).1
      rw [moved_threads_self, quiet] at holds
      cases holds
    · have locked := (orderly.locked_moved steps one holds).2 own
      by_cases own' : two = thread
      · subst own'
        rw [moved_threads_self, locked.1] at holds'
        cases holds'
      · have locked' := ((orderly.locked_moved steps two holds').2 own').2
        exact differs (orderly.alone one two locked.2 locked')
  · show after.waiters.nextId = after.registrations % 2 ^ 64
    rcases steps.id_cases with ⟨same, count, _⟩ | ⟨more, count, _⟩
    · rw [same, count, orderly.numbered]
    · rw [more, count, orderly.numbered]
      omega
  · intro other id held
    exact (orderly.waiter_moved steps few other held).1
  · intro one two id held held'
    rcases (orderly.waiter_moved steps few one held).2 with before | ⟨own, fresh⟩
    · rcases (orderly.waiter_moved steps few two held').2 with before' | ⟨_, fresh⟩
      · exact orderly.apart one two id before before'
      · have := orderly.issued one id before
        omega
    · rcases (orderly.waiter_moved steps few two held').2 with before' | ⟨own', _⟩
      · have := orderly.issued two id before'
        omega
      · rw [own, own']
  · intro other polls
    by_cases same : other = thread
    · subst same
      rw [moved_threads_self] at polls ⊢
      rcases steps.asked_cases with dropped | ⟨kept, _, before⟩ | ⟨_, ended, _⟩
      · exact dropped
      · rw [kept]
        exact orderly.polled other (before polls)
      · rw [ended] at polls
        cases polls
    · rw [moved_threads_of_ne _ _ _ same] at polls ⊢
      exact orderly.polled other polls

end

end Orderly

/-! ### Waiting callers -/

/-- The bytes do not fit, or a release has begun and has yet to look at the parked callers. -/
def Client.Full (client : Client ι W) (bytes : Nat) : Prop :=
  client.shared.limit < client.shared.used + bytes ∨
    ∃ thread, (client.threads thread).phase = .draining

/-- Where the wake-up of a pending request is: it has happened since, a release is about to do it, or
the caller is parked and there is no room for it. -/
def Client.Waiting (client : Client ι W) (caller : Caller W) (request : Request W) : Prop :=
  request.waker ∈ client.shared.woken.drop request.since ∨
    (∃ thread wakers, (client.threads thread).phase = .waking wakers ∧ request.waker ∈ wakers) ∨
    ∃ id, caller.waiter = some id ∧
      client.shared.waiters.parked.lookup id = some request.waker ∧ client.Full request.bytes

/-- No wake-up is lost: every pending request is accounted for, and so is the one of a caller that is
about to park. -/
structure Client.Unmissed (limit : Nat) (client : Client ι W) : Prop where
  limited : client.shared.limit = limit
  bounded : limit < 2 ^ 64
  orderly : Client.Orderly client
  parking : ∀ thread bytes waker, (client.threads thread).phase = .parking bytes waker →
    Client.Full client bytes
  since : ∀ thread request, (client.threads thread).asked = some request →
    request.since ≤ client.shared.woken.length
  waiting : ∀ thread request, (client.threads thread).asked = some request →
    Client.Waiting client (client.threads thread) request

omit [DecidableEq ι] in
theorem Client.Unmissed.new (limit : Nat) (bounded : limit < 2 ^ 64) :
    Client.Unmissed limit (Client.new limit : Client ι W) where
  limited := rfl
  bounded := bounded
  orderly := .new limit
  parking := nofun
  since := nofun
  waiting := nofun

section Unmissed

variable {limit : Nat} {client : Client ι W} {thread : ι} {after : MemoryLimitController W}
  {next : Caller W}

/-- Room is made only by a release, which has to look at the parked callers before it is done. -/
theorem Client.Full.step (full : Client.Full client bytes)
    (steps : Transition client.shared (client.threads thread) after next)
    (quiet : (client.threads thread).phase ≠ .draining) :
    Client.Full (client.moved thread after next) bytes := by
  rcases steps.used_cases with grows | drains
  · rcases full with lacks | ⟨other, drains⟩
    · left
      show after.limit < after.used + bytes
      rw [steps.limit_eq]
      omega
    · right
      refine ⟨other, ?_⟩
      have differs : other ≠ thread := by
        rintro rfl
        exact quiet drains
      rwa [moved_threads_of_ne _ _ _ differs]
  · right
    refine ⟨thread, ?_⟩
    rw [moved_threads_self]
    exact drains

section

variable (unmissed : Client.Unmissed limit client)

include unmissed

section

variable (steps : Transition client.shared (client.threads thread) after next)

include steps

theorem Client.Unmissed.parking_step (other : ι)
    (parks : ((client.moved thread after next).threads other).phase = .parking bytes waker) :
    Client.Full (client.moved thread after next) bytes := by
  by_cases same : other = thread
  · subst same
    rw [moved_threads_self] at parks
    cases steps with
    | refuse _ waker' _ full =>
      cases waker' with
      | none => cases parks
      | some =>
        cases parks
        exact .inl (lacks_of_refused (unmissed.limited ▸ unmissed.bounded) full)
    | dropEmpty _ idle =>
      rw [idle] at parks
      cases parks
    | swap _ waker' => cases waker' <;> cases parks
    | _ => cases parks
  · rw [moved_threads_of_ne _ _ _ same] at parks
    apply (unmissed.parking other bytes waker parks).step steps
    intro drains
    -- The parking caller has the lock, and without it a release cannot go on.
    have locked := unmissed.orderly.locked other (by rw [parks]; rfl)
    cases steps with
    | drain _ free =>
      rw [free] at locked
      cases locked
    | _ => simp_all

/-- A request that is kept by a step is still accounted for after it. -/
theorem Client.Unmissed.waiting_step
    (few : after.registrations ≤ 2 ^ 64) (other : ι) {request : Request W}
    (asked : (client.threads other).asked = some request) {caller : Caller W}
    (kept : caller.waiter = (client.threads other).waiter) :
    Client.Waiting (client.moved thread after next) caller request := by
  have since := unmissed.since other request asked
  rcases unmissed.waiting other request asked with woken | ⟨waking, wakers, at_, member⟩ | parked
  · left
    obtain ⟨later, grows⟩ := steps.woken_grows
    show request.waker ∈ after.woken.drop request.since
    rw [← grows, List.drop_append_of_le_length since]
    exact List.mem_append_left _ woken
  · by_cases same : waking = thread
    · subst same
      rcases steps.of_waking at_ member with woken | ⟨rest, at_', member'⟩
      · left
        show request.waker ∈ after.woken.drop request.since
        rw [woken, List.drop_append_of_le_length since]
        exact List.mem_append_right _ List.mem_cons_self
      · refine .inr (.inl ⟨waking, rest, ?_, member'⟩)
        rwa [moved_threads_self]
    · refine .inr (.inl ⟨waking, wakers, ?_, member⟩)
      rwa [moved_threads_of_ne _ _ _ same]
  · obtain ⟨id, held, parked, full⟩ := parked
    right
    by_cases drains : (client.threads thread).phase = .draining
    · -- The release takes every parked waker with it.
      left
      cases steps with
      | drain =>
        refine ⟨thread, client.shared.waiters.wakers, ?_, Waiters.mem_wakers parked⟩
        rw [moved_threads_self]
      | _ => simp_all
    · right
      refine ⟨id, kept.trans held, ?_, full.step steps drains⟩
      have foreign (polls : (client.threads thread).phase.isPolling = true) :
          (client.threads thread).waiter ≠ some id := by
        intro own
        have same := unmissed.orderly.apart other thread id held own
        rw [same, unmissed.orderly.polled thread polls] at asked
        cases asked
      have issued (count : after.registrations = client.shared.registrations + 1) :
          id ≠ client.shared.waiters.nextId := by
        have old := unmissed.orderly.issued other id held
        rw [unmissed.orderly.numbered]
        omega
      exact (steps.lookup_parked foreign issued drains).trans parked

/-- A request after a step is one from before, or the one that was just left pending. -/
theorem Client.Unmissed.asked_moved (other : ι) {request : Request W}
    (asked : ((client.moved thread after next).threads other).asked = some request) :
    (client.threads other).asked = some request ∧
        ((client.moved thread after next).threads other).waiter = (client.threads other).waiter ∨
      other = thread ∧ ∃ bytes waker, (client.threads thread).phase = .parking bytes waker := by
  by_cases same : other = thread
  · subst same
    rw [moved_threads_self] at asked ⊢
    rcases steps.asked_cases with dropped | ⟨kept, waiter, _⟩ | ⟨polls, _, kept | parks⟩
    · rw [dropped] at asked
      cases asked
    · exact .inl ⟨kept ▸ asked, waiter⟩
    · rw [kept, unmissed.orderly.polled other polls] at asked
      cases asked
    · exact .inr ⟨rfl, parks⟩
  · rw [moved_threads_of_ne _ _ _ same] at asked ⊢
    exact .inl ⟨asked, rfl⟩

theorem Client.Unmissed.step
    (few : after.registrations ≤ 2 ^ 64) : Client.Unmissed limit (client.moved thread after next) := by
  constructor
  · exact steps.limit_eq.trans unmissed.limited
  · exact unmissed.bounded
  · exact unmissed.orderly.step steps few
  · intro other bytes waker parks
    exact unmissed.parking_step steps other parks
  · intro other request asked
    rcases unmissed.asked_moved steps other asked with ⟨before, _⟩ | ⟨own, bytes, waker, parks⟩
    · exact (unmissed.since other request before).trans steps.woken_grows.length_le
    · subst own
      obtain ⟨woken, new, _⟩ := steps.of_parking parks
      rw [moved_threads_self, new] at asked
      cases asked
      exact steps.woken_grows.length_le
  · intro other request asked
    rcases unmissed.asked_moved steps other asked with ⟨before, kept⟩ | ⟨own, bytes, waker, parks⟩
    · exact unmissed.waiting_step steps few other before kept
    · subst own
      obtain ⟨_, new, id, held, parked⟩ := steps.of_parking parks
      rw [moved_threads_self] at asked ⊢
      rw [new] at asked
      cases asked
      refine .inr (.inr ⟨id, held, parked, ?_⟩)
      apply (unmissed.parking other bytes waker parks).step steps
      rw [parks]
      nofun

end

end

end Unmissed

theorem Client.Unmissed.run {limit : Nat} {client : Client ι W}
    (unmissed : Client.Unmissed limit client) (schedule : List (ι × Action W))
    (few : (client.run schedule).shared.registrations ≤ 2 ^ 64) :
    Client.Unmissed limit (client.run schedule) := by
  refine Threads.run_invariant
    (fun client => client.shared.registrations ≤ 2 ^ 64 → Client.Unmissed limit client) ?_
    (fun _ => unmissed) schedule few
  intro client thread action after next holds acts few
  have steps := Transition.of_act acts
  exact (holds (steps.registrations_le.trans few)).step steps few

/-- For any number of callers, any limit and any schedule that gives out no registration id twice:
when no caller is inside a call, a caller whose last poll was left pending and that has not been
woken since asked for more than is left. -/
theorem no_wakeup_missed (limit : Nat) (bounded : limit < 2 ^ 64) (schedule : List (ι × Action W)) :
    let client : Client ι W := (Client.new limit).run schedule
    client.shared.registrations ≤ 2 ^ 64 →
      (∀ thread, (client.threads thread).phase = .idle) →
      ∀ thread request, (client.threads thread).asked = some request →
        request.waker ∉ client.shared.woken.drop request.since →
        limit - client.shared.used < request.bytes := by
  intro client few idle thread request asked asleep
  have unmissed : Client.Unmissed limit client :=
    (Client.Unmissed.new limit bounded).run schedule few
  rcases unmissed.waiting thread request asked with woken | ⟨waking, _, at_, _⟩ | parked
  · exact absurd woken asleep
  · have quiet := idle waking
    rw [at_] at quiet
    cases quiet
  · obtain ⟨_, _, _, lacks | ⟨draining, at_⟩⟩ := parked
    · have exact_ : Client.Exact limit client := (Client.Exact.new limit bounded).run schedule
      have within := exact_.counted.within
      rw [unmissed.limited] at lacks within
      omega
    · have quiet := idle draining
      rw [at_] at quiet
      cases quiet

/-- One caller holds 6 of 10 bytes.  The other asks for 5 and parks, and it is woken when the bytes are
given back; when it asks for 11 it is parked for good. -/
theorem parked_until_release :
    let client : Client Bool Nat :=
      (Client.new 10).run
        ([(true, .tryReserve 6), (true, .advance), (true, .advance), (false, .pollReserve 5 1)] ++
          List.replicate 3 (false, .advance) ++
          [(true, .dropReservation { controlled := true, bytes := 6 })] ++
          List.replicate 3 (true, .advance) ++ [(false, .pollReserve 11 2)] ++
          List.replicate 3 (false, .advance))
    client.shared.woken = [1] ∧ client.shared.used = 0 ∧ 10 - client.shared.used < 11 := by
  refine ⟨by decide, by decide, ?_⟩
  exact no_wakeup_missed 10 (by decide) _ (by decide) (by decide) false
    { bytes := 11, waker := 2, since := 1 } (by decide) (by decide)

/-! ### Ids that are given out again -/

/-- A poll of the second caller that parks, given up at once. -/
private def parkAndCancel : List (Bool × Action Nat) :=
  [(true, .pollReserve 5 1), (true, .advance), (true, .advance), (true, .advance),
    (true, .cancelWaiter), (true, .advance)]

/-- The first caller is parked with id 0, and the second one, which holds the whole budget, has been
given the ids up to the next one. -/
private def crowded (count : Nat) : Client Bool Nat where
  shared :=
    { limit := 10
      used := 10
      waiters := { nextId := count % 2 ^ 64, parked := AList.singleton 0 0 }
      live := [{ controlled := true, bytes := 10 }]
      registrations := count }
  threads
    | false =>
      { waiter := some 0
        returned := some .pending
        asked := some { bytes := 5, waker := 0, since := 0 } }
    | true => {}

private theorem parked_and_cancelled (fresh : id ≠ 0) :
    ((AList.singleton 0 0 : Table Nat Nat).insert id 1).erase id = AList.singleton 0 0 := by
  apply AList.ext
  show List.kerase id (List.kinsert id 1 [⟨0, 0⟩]) = [⟨0, 0⟩]
  simp [List.kinsert, List.kerase, fresh]

private theorem run_parkAndCancel {count : Nat} (fresh : count % 2 ^ 64 ≠ 0) :
    (crowded count).run parkAndCancel = crowded (count + 1) := by
  have ends : (crowded count).run parkAndCancel =
      { crowded count with
        shared :=
          { (crowded count).shared with
            waiters :=
              { nextId := (count % 2 ^ 64 + 1) % 2 ^ 64
                parked := ((AList.singleton 0 0 : Table Nat Nat).insert (count % 2 ^ 64) 1).erase
                  (count % 2 ^ 64) }
            registrations := count + 1 } } := by
    apply Threads.System.ext
    · rfl
    · funext thread
      cases thread <;> rfl
  rw [ends, parked_and_cancelled fresh, Nat.mod_add_mod]
  rfl

private theorem run_replicate (rounds : Nat) {count : Nat} (positive : 0 < count)
    (bounded : count + rounds ≤ 2 ^ 64) :
    (crowded count).run (List.replicate rounds parkAndCancel).flatten = crowded (count + rounds) := by
  induction rounds generalizing count with
  | zero => rfl
  | succ rounds ih =>
    have fresh : count % 2 ^ 64 ≠ 0 := by
      rw [Nat.mod_eq_of_lt (by omega)]
      omega
    rw [List.replicate_succ, List.flatten_cons, Client.run, run_append]
    have first : run (Threads.step act) (crowded count) parkAndCancel = crowded (count + 1) :=
      run_parkAndCancel fresh
    rw [first, show count + (rounds + 1) = count + 1 + rounds by omega]
    exact ih (by omega) (by omega)

/-- One caller parks.  The other takes all the other ids, and parks with the id of the first: the
release wakes only the second one. -/
private def idReused : List (Bool × Action Nat) :=
  [(true, .tryReserve 10), (true, .advance), (true, .advance), (false, .pollReserve 5 0),
      (false, .advance), (false, .advance), (false, .advance)] ++ parkAndCancel ++
    (List.replicate (2 ^ 64 - 2) parkAndCancel).flatten ++
    [(true, .pollReserve 5 1), (true, .advance), (true, .advance), (true, .advance),
      (true, .dropReservation { controlled := true, bytes := 10 }), (true, .advance),
      (true, .advance), (true, .advance)]

/-- After `2 ^ 64` registrations the ids begin anew, and a caller that asked for 5 bytes sleeps while
all 10 are free. -/
theorem wakeup_missed_after_wrap :
    let client : Client Bool Nat := (Client.new 10).run idReused
    (∀ thread, (client.threads thread).phase = .idle) ∧
      (client.threads false).asked = some { bytes := 5, waker := 0, since := 0 } ∧
      client.shared.woken = [1] ∧ client.shared.used = 0 := by
  have starts : (Client.new 10 : Client Bool Nat).run
      ([(true, .tryReserve 10), (true, .advance), (true, .advance), (false, .pollReserve 5 0),
        (false, .advance), (false, .advance), (false, .advance)] ++ parkAndCancel) = crowded 2 := by
    apply Threads.System.ext
    · rfl
    · funext thread
      cases thread <;> rfl
  have wraps := @run_replicate (2 ^ 64 - 2) 2 (by decide) (by decide)
  rw [Client.run] at starts wraps
  rw [idReused, Client.run, run_append, run_append, starts, wraps]
  decide

end Magnetar.Proto.MemoryLimit
