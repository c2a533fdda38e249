import Magnetar.Library.Machine
import Magnetar.Proto.Connection.Consumers

/-!
Contract: when a connection declares its peer dead.

Owns: the keepalive clock with the flag of the ping in flight, what a decoded frame and a timer
tick do to them, and that a verdict follows a ping which followed the last frame, each an interval
after the other.

Does not own: the decode loop that carves the frames (`Connection.Receive`), and what else a tick
does.  An interval the clock cannot represent is one hour.
-/

namespace Magnetar.Proto.Connection

open Library.Machine Trackers.Unacked

inductive KeepaliveEvent where
  | frame (now : Nat)
  | ping (now : Nat)
  | dead (now : Nat)
  deriving DecidableEq, Repr

/-- The fields of a connection that the keepalive uses.  The newest event of `history` is first. -/
structure Keepalive where
  handshakeState : HandshakeState := .uninitialized
  lastActivity : Option Nat := none
  keepalivePingOutstanding : Bool := false
  history : List KeepaliveEvent := []

/-- The calls that touch these fields.  A read decodes some frames, and each leaves a state. -/
inductive KeepaliveOp where
  | handleBytes (now : Nat) (frames : List HandshakeState)
  | handleTimeout (now : Nat)
  | setHandshakeState (state : HandshakeState)
  | reset
  deriving DecidableEq, Repr

namespace Keepalive

variable (keepaliveInterval : Nat) (conn : Keepalive)

def decodeFrame (now : Nat) (handshakeState : HandshakeState) : Keepalive :=
  { handshakeState, lastActivity := some now, keepalivePingOutstanding := false,
    history := .frame now :: conn.history }

def handleTimeout (now : Nat) : Keepalive :=
  let due := conn.lastActivity.any fun last =>
    decide (deadlineWithClamp last keepaliveInterval ≤ now)
  if due && conn.handshakeState == .connected then
    if conn.keepalivePingOutstanding then
      { conn with handshakeState := .failed, history := .dead now :: conn.history }
    else
      { conn with lastActivity := some now, keepalivePingOutstanding := true,
                  history := .ping now :: conn.history }
  else conn

def step : KeepaliveOp → Keepalive
  | .handleBytes now frames => frames.foldl (fun conn state => conn.decodeFrame now state) conn
  | .handleTimeout now => conn.handleTimeout keepaliveInterval now
  | .setHandshakeState state => { conn with handshakeState := state }
  | .reset => { conn with handshakeState := .uninitialized, lastActivity := none,
                          keepalivePingOutstanding := false }

end Keepalive

/-- `history` ends with a ping at `pinged`, sent an interval after the last frame and followed by
no other.  Only verdicts came after it. -/
def Unanswered (keepaliveInterval pinged : Nat) (history : List KeepaliveEvent) : Prop :=
  ∃ (verdicts : List Nat) (decoded : Nat) (older : List KeepaliveEvent),
    history = verdicts.map .dead ++ .ping pinged :: .frame decoded :: older ∧
      deadlineWithClamp decoded keepaliveInterval ≤ pinged

/-- Each ping came right after a frame, and each verdict an interval after an unanswered ping. -/
structure Fair (keepaliveInterval : Nat) (history : List KeepaliveEvent) : Prop where
  pings : ∀ pinged older, .ping pinged :: older <:+ history → ∃ decoded rest,
    older = .frame decoded :: rest
  verdicts : ∀ now older, .dead now :: older <:+ history → ∃ pinged,
    Unanswered keepaliveInterval pinged older ∧ deadlineWithClamp pinged keepaliveInterval ≤ now

/-- What the clock and the flag say about the history. -/
structure Watched (keepaliveInterval : Nat) (conn : Keepalive) : Prop where
  fair : Fair keepaliveInterval conn.history
  answered : ∀ last, conn.lastActivity = some last → conn.keepalivePingOutstanding = false →
    ∃ older, conn.history = .frame last :: older
  unanswered : ∀ last, conn.lastActivity = some last → conn.keepalivePingOutstanding = true →
    Unanswered keepaliveInterval last conn.history

variable {keepaliveInterval : Nat} {conn : Keepalive}

theorem Fair.cons {history : List KeepaliveEvent} {event : KeepaliveEvent}
    (fair : Fair keepaliveInterval history)
    (ping : ∀ pinged, event = .ping pinged → ∃ decoded rest, history = .frame decoded :: rest)
    (verdict : ∀ now, event = .dead now → ∃ pinged,
      Unanswered keepaliveInterval pinged history ∧
        deadlineWithClamp pinged keepaliveInterval ≤ now) :
    Fair keepaliveInterval (event :: history) := by
  constructor
  · intro pinged older there
    rcases List.suffix_cons_iff.mp there with same | inside
    · obtain ⟨first, rfl⟩ := List.cons.inj same
      exact ping pinged first.symm
    · exact fair.pings pinged older inside
  · intro now older there
    rcases List.suffix_cons_iff.mp there with same | inside
    · obtain ⟨first, rfl⟩ := List.cons.inj same
      exact verdict now first.symm
    · exact fair.verdicts now older inside

section

variable (watched : Watched keepaliveInterval conn)

include watched

theorem Watched.decodeFrame (now : Nat)
    (state : HandshakeState) : Watched keepaliveInterval (conn.decodeFrame now state) := by
  refine ⟨watched.fair.cons nofun nofun, ?_, by simp [Keepalive.decodeFrame]⟩
  rintro last ⟨⟩ -
  exact ⟨_, rfl⟩

theorem Watched.handleTimeout (now : Nat) :
    Watched keepaliveInterval (conn.handleTimeout keepaliveInterval now) := by
  unfold Keepalive.handleTimeout
  dsimp only
  split
  case isFalse => exact watched
  case isTrue due =>
    rw [Bool.and_eq_true, Option.any_eq_true] at due
    obtain ⟨⟨last, active, passed⟩, -⟩ := due
    rw [decide_eq_true_eq] at passed
    split
    case isTrue outstanding =>
      have waits := watched.unanswered last active outstanding
      refine ⟨watched.fair.cons nofun ?_, by simp [outstanding], ?_⟩
      · rintro _ ⟨⟩
        exact ⟨last, waits, passed⟩
      · intro other same _
        obtain ⟨verdicts, decoded, older, latest, spaced⟩ :=
          watched.unanswered other same outstanding
        exact ⟨now :: verdicts, decoded, older, congrArg (.dead now :: ·) latest, spaced⟩
    case isFalse idle =>
      obtain ⟨older, latest⟩ := watched.answered last active (by simpa using idle)
      refine ⟨watched.fair.cons (fun _ _ => ⟨last, older, latest⟩) nofun, by simp, ?_⟩
      rintro other ⟨⟩ _
      exact ⟨[], last, older, congrArg (.ping now :: ·) latest, passed⟩

theorem Watched.step (op : KeepaliveOp) :
    Watched keepaliveInterval (conn.step keepaliveInterval op) := by
  cases op with
  | handleBytes now frames =>
    exact List.foldlRecOn frames _ watched fun _ held state _ => held.decodeFrame now state
  | handleTimeout now => exact watched.handleTimeout now
  | setHandshakeState => exact ⟨watched.fair, watched.answered, watched.unanswered⟩
  | reset => exact ⟨watched.fair, by simp [Keepalive.step], by simp [Keepalive.step]⟩

end

/-- The peer is declared dead an interval after a ping, which went out an interval after the last
frame, and no two pings are in flight. -/
theorem keepalive_fair (keepaliveInterval : Nat) (ops : List KeepaliveOp) :
    Fair keepaliveInterval (run (Keepalive.step keepaliveInterval) {} ops).history := by
  have watched : Watched keepaliveInterval
      (run (Keepalive.step keepaliveInterval) {} ops) := by
    apply List.foldlRecOn ops
    · exact ⟨⟨by simp, by simp⟩, nofun, nofun⟩
    · intro conn held op _
      exact held.step op
  exact watched.fair

/-- With the longest `Duration` for an interval, two hours of silence are enough. -/
theorem keepalive_clamped : let keepaliveInterval := 2 ^ 64 * 1000000000 - 1
    let hour := overflowFallback
    (run (Keepalive.step keepaliveInterval) {}
      [.handleBytes 0 [.connected], .handleTimeout hour, .handleTimeout (2 * hour)]).history =
        [.dead (2 * hour), .ping hour, .frame 0] ∧ 2 * hour < 2 * keepaliveInterval := by
  decide

end Magnetar.Proto.Connection
