import Magnetar.Library.Stream
import Magnetar.Proto.Frame.Boundary

/-!
Contract: how a connection takes in bytes.

Owns: the two entry points for inbound bytes, the decode loop they share with what it does to the
keepalive clock and the event list, and that a connection cannot tell how the byte stream was cut
into reads.

Does not own: what a decoded frame does.  That function is a parameter over everything but the
inbound buffer, which it neither reads nor writes.  The fault injection of the test builds is a
parameter of the loop.
-/

namespace Magnetar.Proto.Receive

open Library Pb Framing

inductive ProtocolError (Failure : Type) where
  | frame (error : FrameError)
  | other (failure : Failure)
  deriving DecidableEq, Repr

inductive ConnectionEvent (Event : Type) where
  | checksumMismatch (computed expected : Nat)
  | other (event : Event)
  deriving DecidableEq, Repr

/-- Everything in a connection but its inbound buffer. -/
structure Session (Event State : Type) where
  lastActivity : Option Nat
  keepalivePingOutstanding : Bool
  outbound : Bytes
  events : List (ConnectionEvent Event)
  rest : State
  deriving DecidableEq, Repr

structure Connection (Event State : Type) where
  inbound : Bytes
  session : Session Event State
  deriving DecidableEq, Repr

/-- The handler of decoded frames, and the codecs the frames go through. -/
structure Handler (Command Event State Failure : Type) where
  wire : Wire Command
  handleFrame : (now : Nat) → Frame Command → Session Event State →
    Session Event State × Option (ProtocolError Failure)

namespace Handler

variable {Command Event State Failure : Type} (handler : Handler Command Event State Failure)
  (shortReadArmed : Bool) (now : Nat) (conn : Connection Event State)

/-- One complete frame, already off the inbound buffer.  A corrupt frame is dropped and reported,
any other error is fatal. -/
def acceptFrame (session : Session Event State) (frameBytes : Bytes) :
    Session Event State × Option (ProtocolError Failure) :=
  let session := { session with lastActivity := some now, keepalivePingOutstanding := false }
  match (decodeOne handler.wire frameBytes).1 with
  | .ok frame => handler.handleFrame now frame session
  | .error (.checksumMismatch computed expected) =>
    ({ session with events := session.events ++ [.checksumMismatch computed expected] }, none)
  | .error error => (session, some (.frame error))

/-- The loop over the frames in `inbound`.  A frame takes bytes off it, so `inbound.length + 1`
rounds are enough; `shortReadArmed` is the injected fault that stops after one frame. -/
def decodeLoop (shortReadArmed : Bool) (now : Nat) :
    Nat → Connection Event State → Connection Event State × Option (ProtocolError Failure)
  | 0, conn => (conn, none)
  | fuel + 1, conn =>
    match peekFullFrameLen conn.inbound with
    | .ok none => (conn, none)
    | .error error => (conn, some (.frame error))
    | .ok (some frameLen) =>
      let frameBytes := conn.inbound.take frameLen
      let inbound := conn.inbound.drop frameLen
      match handler.acceptFrame now conn.session frameBytes with
      | (session, some error) => ({ inbound, session }, some error)
      | (session, none) =>
        if shortReadArmed && !inbound.isEmpty then ({ inbound, session }, none)
        else decodeLoop shortReadArmed now fuel { inbound, session }

def handleBytesDecodeLoop : Connection Event State × Option (ProtocolError Failure) :=
  handler.decodeLoop shortReadArmed now (conn.inbound.length + 1) conn

def handleBytes (bytes : Bytes) : Connection Event State × Option (ProtocolError Failure) :=
  handler.handleBytesDecodeLoop shortReadArmed now { conn with inbound := conn.inbound ++ bytes }

/-- The entry point for an owned chunk, which replaces an empty buffer. -/
def handleBytesOwned (chunk : Bytes) : Connection Event State × Option (ProtocolError Failure) :=
  if conn.inbound.isEmpty then
    handler.handleBytesDecodeLoop shortReadArmed now { conn with inbound := chunk }
  else
    handler.handleBytesDecodeLoop shortReadArmed now { conn with inbound := conn.inbound ++ chunk }

/-! ### Reads -/

inductive Entry where
  | borrowed
  | owned
  deriving DecidableEq, Repr

def read : Entry → Bytes →
    Connection Event State × Option (ProtocolError Failure)
  | .borrowed, bytes => handler.handleBytes false now conn bytes
  | .owned, bytes => handler.handleBytesOwned false now conn bytes

/-- One read after the other, up to the first error.  What was not read comes last. -/
def readAll (now : Nat) : Connection Event State → List (Entry × Bytes) →
    Connection Event State × Option (ProtocolError Failure) × Bytes
  | conn, [] => (conn, none, [])
  | conn, (entry, piece) :: rest =>
    match handler.read now conn entry piece with
    | (conn, none) => readAll now conn rest
    | (conn, some error) => (conn, some error, (rest.map Prod.snd).flatten)

/-! ### The loop as a stream receiver -/

def front (inbound : Bytes) : Stream.Front (ProtocolError Failure) :=
  match peekFullFrameLen inbound with
  | .ok none => .incomplete
  | .error error => .refused (.frame error)
  | .ok (some frameLen) => .complete frameLen

theorem front_stable : Stream.Stable (front : Bytes → Stream.Front (ProtocolError Failure)) where
  complete := by
    intro inbound frameLen more shown
    rcases boundary_cases inbound with awaits | bad | holds
    · simp [front, awaits.peek] at shown
    · simp [front, bad.peek] at shown
    · obtain ⟨holds', same⟩ := holds.append more
      simp only [front, holds.peek, holds'.peek, same] at shown ⊢
      exact shown
  refused := by
    intro inbound error more shown
    rcases boundary_cases inbound with awaits | bad | holds
    · simp [front, awaits.peek] at shown
    · obtain ⟨bad', same⟩ := bad.append more
      simp only [front, bad.peek, bad'.peek, same] at shown ⊢
      exact shown
    · simp [front, holds.peek] at shown
  bounds := by
    intro inbound frameLen shown
    rcases boundary_cases inbound with awaits | bad | holds
    · simp [front, awaits.peek] at shown
    · simp [front, bad.peek] at shown
    · simp only [front, holds.peek, Stream.Front.complete.injEq] at shown
      obtain ⟨positive, legal, long⟩ := holds
      omega

/-- A connection and the error it stopped with, from where a stream receiver stopped. -/
def ofOutcome (outcome : Stream.Outcome (Session Event State) UInt8 (ProtocolError Failure)) :
    Connection Event State × Option (ProtocolError Failure) :=
  ({ inbound := outcome.buffer, session := outcome.state }, outcome.error)

theorem decodeLoop_eq_drainFor (fuel : Nat) (conn : Connection Event State) :
    handler.decodeLoop false now fuel conn =
      ofOutcome (Stream.drainFor front (handler.acceptFrame now) fuel conn.session conn.inbound) := by
  induction fuel generalizing conn with
  | zero => rfl
  | succ _ ih =>
    unfold decodeLoop Stream.drainFor front
    cases peekFullFrameLen conn.inbound with
    | error => rfl
    | ok verdict =>
      cases verdict with
      | none => rfl
      | some frameLen =>
        dsimp only
        rcases handler.acceptFrame now conn.session (conn.inbound.take frameLen) with
          ⟨session, _ | error⟩
        · exact ih _
        · rfl

theorem handleBytes_eq_drain (now : Nat) (conn : Connection Event State) (bytes : Bytes) :
    handler.handleBytes false now conn bytes =
      ofOutcome (Stream.drain front (handler.acceptFrame now) conn.session
        (conn.inbound ++ bytes)) :=
  handler.decodeLoop_eq_drainFor now _ _

theorem handleBytesOwned_eq (chunk : Bytes) :
    handler.handleBytesOwned shortReadArmed now conn chunk =
      handler.handleBytes shortReadArmed now conn chunk := by
  unfold handleBytesOwned handleBytes
  split
  · rename_i empty
    rw [List.isEmpty_iff.mp empty, List.nil_append]
  · rfl

theorem read_eq (entry : Entry) (bytes : Bytes) :
    handler.read now conn entry bytes = handler.handleBytes false now conn bytes := by
  cases entry with
  | borrowed => rfl
  | owned => exact handler.handleBytesOwned_eq false now conn bytes

theorem readAll_eq_feed (pieces : List (Entry × Bytes)) :
    handler.readAll now conn pieces =
      ((ofOutcome (Stream.feed front (handler.acceptFrame now) conn.session conn.inbound
          (pieces.map Prod.snd)).1).1,
        (Stream.feed front (handler.acceptFrame now) conn.session conn.inbound
          (pieces.map Prod.snd)).1.error,
        (Stream.feed front (handler.acceptFrame now) conn.session conn.inbound
          (pieces.map Prod.snd)).2) := by
  induction pieces generalizing conn with
  | nil => rfl
  | cons piece _ ih =>
    obtain ⟨entry, bytes⟩ := piece
    rw [readAll, read_eq, handleBytes_eq_drain, List.map_cons, Stream.feed]
    generalize Stream.drain front (handler.acceptFrame now) conn.session
      (conn.inbound ++ bytes) = outcome
    rcases outcome with ⟨session, inbound, _ | error⟩
    · exact ih { inbound, session }
    · rfl

/-- However a byte string is cut into reads, and through whichever entry each read comes in, the
connection ends in the state, with the outbound bytes, the events and the first error that it has
after the whole string at once; an error leaves the bytes not yet read out of the buffer. -/
theorem reads_independent_of_cuts (now : Nat) (conn : Connection Event State)
    (pieces : List (Entry × Bytes)) (cut : pieces ≠ []) :
    (handler.handleBytes false now conn (pieces.map Prod.snd).flatten =
      ({ inbound := (handler.readAll now conn pieces).1.inbound ++
           (handler.readAll now conn pieces).2.2
         session := (handler.readAll now conn pieces).1.session },
        (handler.readAll now conn pieces).2.1)) ∧
    handler.handleBytesOwned false now conn (pieces.map Prod.snd).flatten =
      handler.handleBytes false now conn (pieces.map Prod.snd).flatten ∧
    ((handler.readAll now conn pieces).2.1 = none →
      (handler.readAll now conn pieces).2.2 = []) := by
  refine ⟨?_, handler.handleBytesOwned_eq false now conn _, ?_⟩
  · obtain ⟨piece, rest, rfl⟩ := List.exists_cons_of_ne_nil cut
    rw [handleBytes_eq_drain, readAll_eq_feed, List.map_cons,
      Stream.drain_flatten (handler.acceptFrame now) front_stable]
    rfl
  · rw [readAll_eq_feed]
    exact Stream.feed_unfed (handler.acceptFrame now) conn.session conn.inbound _

/-- A connection that counts its pings. -/
private def pingCounter : Handler Unit Unit Nat Unit where
  wire :=
    { command :=
        { encode := fun _ => [8, 18]
          decode := fun bytes => if bytes = [8, 18] then some () else none }
      metadata := default
      brokerEntryMetadata := default
      crc := External.Crc32c.castagnoli }
  handleFrame := fun _ _ session => ({ session with rest := session.rest + 1 }, none)

private def idleConnection : Connection Unit Nat where
  inbound := []
  session :=
    { lastActivity := none, keepalivePingOutstanding := true, outbound := [], events := [],
      rest := 0 }

/-- Two pings and a zero length, cut inside the first size field and after the second frame. -/
private def cutPings : List (Entry × Bytes) :=
  [(.owned, [0, 0, 0]), (.borrowed, [6, 0, 0, 0, 2, 8, 18, 0, 0, 0, 6, 0, 0, 0, 2, 8, 18]),
    (.owned, [0, 0, 0, 0]), (.borrowed, [1])]

theorem reads_independent_of_cuts_pings :
    (pingCounter.readAll 7 idleConnection cutPings).1.session.rest = 2 ∧
      pingCounter.handleBytes false 7 idleConnection (cutPings.map Prod.snd).flatten =
        ({ inbound := [0, 0, 0, 0] ++ [1]
           session := { lastActivity := some 7, keepalivePingOutstanding := false, outbound := [],
                        events := [], rest := 2 } },
          some (.frame (.badLength 0))) := by
  have cuts := reads_independent_of_cuts pingCounter 7 idleConnection cutPings (by decide)
  have stopped : pingCounter.readAll 7 idleConnection cutPings =
      ({ inbound := [0, 0, 0, 0]
         session := { lastActivity := some 7, keepalivePingOutstanding := false, outbound := [],
                      events := [], rest := 2 } },
        some (.frame (.badLength 0)), [1]) := by decide
  exact ⟨by rw [stopped], cuts.1⟩

end Handler

end Magnetar.Proto.Receive
