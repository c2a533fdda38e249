import Mathlib.Logic.Function.Basic
import Magnetar.Library.Machine

/-!
Contract: threads that share a state and take turns.

A thread has a local state of its own.  One move is one atomic action of one thread on its local
state and the shared one; an action that is blocked leaves everything as it is.  A schedule is any
list of moves, so what holds after every list of moves holds under every interleaving.

Owns: the system of all threads as a machine, what a move leaves to the other threads, and the
invariant rule over every schedule.

Does not own: any particular action.
-/

namespace Magnetar.Library.Threads

open Machine

@[ext]
structure System (ι σ τ : Type*) where
  shared : σ
  threads : ι → τ

variable {ι σ τ α : Type*} [DecidableEq ι]

/-- The system after one thread has moved. -/
def System.moved (system : System ι σ τ) (thread : ι) (shared : σ) (next : τ) : System ι σ τ where
  shared := shared
  threads := Function.update system.threads thread next

variable (system : System ι σ τ)

@[simp]
theorem System.moved_threads_self (thread : ι) (shared : σ) (next : τ) :
    (system.moved thread shared next).threads thread = next :=
  Function.update_self ..

variable {thread : ι}

theorem System.moved_threads_of_ne {other : ι} (shared : σ) (next : τ) (differs : other ≠ thread) :
    (system.moved thread shared next).threads other = system.threads other :=
  Function.update_of_ne differs ..

/-- A fact about every thread, once it is known of the thread that moved and of the others. -/
theorem System.forall_moved {system : System ι σ τ} {shared : σ} {next : τ}
    {holds : ι → τ → Prop} (own : holds thread next)
    (others : ∀ other, other ≠ thread → holds other (system.threads other)) (other : ι) :
    holds other ((system.moved thread shared next).threads other) := by
  by_cases same : other = thread
  · subst same
    rwa [System.moved_threads_self]
  · rw [System.moved_threads_of_ne _ _ _ same]
    exact others other same

variable (act : σ → τ → α → Option (σ × τ))

def step (system : System ι σ τ) (move : ι × α) : System ι σ τ :=
  match act system.shared (system.threads move.1) move.2 with
  | some (shared, next) => system.moved move.1 shared next
  | none => system

variable {act}

theorem step_of_act {system : System ι σ τ} {action : α} {shared : σ} {next : τ}
    (acts : act system.shared (system.threads thread) action = some (shared, next)) :
    step act system (thread, action) = system.moved thread shared next := by
  rw [step, acts]

theorem step_of_blocked {system : System ι σ τ} {action : α}
    (blocked : act system.shared (system.threads thread) action = none) :
    step act system (thread, action) = system := by
  rw [step, blocked]

theorem step_threads_of_ne {move : ι × α} {other : ι}
    (differs : other ≠ move.1) : (step act system move).threads other = system.threads other := by
  rw [step]
  split
  · exact system.moved_threads_of_ne _ _ differs
  · rfl

section

variable (invariant : System ι σ τ → Prop)
  (preserved : ∀ system thread action shared next, invariant system → act system.shared
    (system.threads thread) action = some (shared, next) → invariant (system.moved thread shared
    next)) {system : System ι σ τ} (holds : invariant system)

include invariant preserved holds

/-- What every action keeps, in a step of the system. -/
theorem step_invariant (move : ι × α) : invariant (step act system move) := by
  obtain ⟨thread, action⟩ := move
  cases acts : act system.shared (system.threads thread) action with
  | none => rwa [step_of_blocked acts]
  | some result =>
    obtain ⟨shared, next⟩ := result
    rw [step_of_act acts]
    exact preserved system thread action shared next holds acts

/-- What every action keeps holds under every schedule. -/
theorem run_invariant (schedule : List (ι × α)) : invariant (run (step act) system schedule) := by
  induction schedule generalizing system with
  | nil => exact holds
  | cons move _ ih =>
    exact ih (step_invariant invariant preserved holds move)

end

end Magnetar.Library.Threads
