import Magnetar.Proto.Connection.Consumers
import Magnetar.Proto.Frame.RoundTrip
import Magnetar.Proto.Producer.State

/-!
Contract: how a connection hands out bytes.

Owns: the gate before the producers' staged frames, the contiguous and the vectored drain, the
three polls over them, and that every poll emits the same stream.

Does not own: what stages a frame or a control command.
-/

namespace Magnetar.Proto.Outgoing

open Library Pb External Framing Connection Producer

structure Outbound where
  state : HandshakeState
  producers : Table Nat ProducerState
  outbound : Bytes
  outboundSegments : List Bytes
  /-- The segments and the buffer the last vectored poll handed out. -/
  pendingVectoredSegments : List Bytes
  pendingVectoredDrain : Option Bytes

/-- What a poll returns: one buffer, or a list of segments. -/
inductive Transmit where
  | contiguous (bytes : Bytes)
  | vectored (segments : List Bytes)
  deriving DecidableEq, Repr

def Transmit.bytes : Transmit → Bytes
  | .contiguous bytes => bytes
  | .vectored segments => segments.flatten

def Transmit.isEmpty (transmit : Transmit) : Bool :=
  transmit.bytes.length == 0

variable (wire : Wire BaseCommand)

def popFrames : (fuel : Nat) → ProducerState → List OutboundFrame × ProducerState
  | 0, slot => ([], slot)
  | fuel + 1, slot =>
    match slot.nextOutboundFrame with
    | (none, slot) => ([], slot)
    | (some frame, slot) =>
      let (later, slot) := popFrames fuel slot
      (frame :: later, slot)

variable (connected : Bool) (slot : ProducerState) (frames : List OutboundFrame)
  (producers : Table Nat ProducerState)

/-- The frames the loop over one slot takes, and the slots after it.  A slot whose attachment is
not acked keeps its frames. -/
def takeStaged (handle : Nat) : List OutboundFrame × Table Nat ProducerState :=
  match producers.lookup handle with
  | none => ([], producers)
  | some slot =>
    if slot.brokerReady then
      let (frames, slot) := popFrames slot.outbound.length slot
      (frames, producers.modify handle fun _ => slot)
    else ([], producers)

variable (conn : Outbound)

namespace Outbound

/-- A frame that cannot be encoded is skipped. -/
def encodeInto (outbound : Bytes) (frame : OutboundFrame) : Bytes :=
  match encodePayload wire outbound frame.command frame.metadata frame.payload with
  | .ok written => written
  | .error _ => outbound

def drainProducer (handle : Nat) : Outbound :=
  let (frames, producers) := takeStaged conn.producers handle
  { conn with outbound := frames.foldl (encodeInto wire) conn.outbound, producers }

def drainProducerOutbound : Outbound :=
  if conn.state ≠ .connected then conn
  else conn.producers.keys.foldl (drainProducer wire) conn

def segmentInto (segments : List Bytes) (frame : OutboundFrame) : List Bytes :=
  match encodePayloadHead wire frame.command frame.metadata frame.payload with
  | .ok head => segments ++ [head, frame.payload]
  | .error _ => segments

def drainProducerVectored (handle : Nat) : Outbound :=
  let (frames, producers) := takeStaged conn.producers handle
  { conn with
    outboundSegments := frames.foldl (segmentInto wire) conn.outboundSegments
    producers }

def drainProducerOutboundVectored : Outbound :=
  if conn.state ≠ .connected then conn
  else conn.producers.keys.foldl (drainProducerVectored wire) conn

def pollTransmit : Bytes × Outbound :=
  let conn := conn.drainProducerOutbound wire
  (conn.outbound, { conn with outbound := [] })

def pollTransmitOwned : Transmit × Outbound :=
  let contiguous (conn : Outbound) :=
    let (bytes, conn) := conn.pollTransmit wire
    (.contiguous bytes, conn)
  if conn.outbound.isEmpty then
    let conn := conn.drainProducerOutboundVectored wire
    if conn.outboundSegments.isEmpty then contiguous conn
    else (.vectored conn.outboundSegments, { conn with outboundSegments := [] })
  else contiguous conn

def pollTransmitVectored : Transmit × Outbound :=
  let contiguous (conn : Outbound) :=
    let (bytes, conn) := conn.pollTransmit wire
    (.contiguous bytes, { conn with pendingVectoredDrain := some bytes })
  if conn.outbound.isEmpty then
    let conn := conn.drainProducerOutboundVectored wire
    if conn.outboundSegments.isEmpty then contiguous conn
    else
      (.vectored conn.outboundSegments,
        { conn with
          outboundSegments := []
          pendingVectoredSegments := conn.outboundSegments })
  else contiguous conn

end Outbound

/-! ### Draining until empty -/

inductive Path where
  | contiguous
  | owned
  | vectored
  deriving DecidableEq, Repr

def poll : Path → Transmit × Outbound
  | .contiguous =>
    let (bytes, conn) := conn.pollTransmit wire
    (.contiguous bytes, conn)
  | .owned => conn.pollTransmitOwned wire
  | .vectored => conn.pollTransmitVectored wire

/-- Poll until a poll returns nothing, for at most `rounds` polls. -/
def transmitAll (path : Path) : Nat → Outbound → Bytes × Outbound
  | 0, conn => ([], conn)
  | rounds + 1, conn =>
    let (transmit, conn) := poll wire conn path
    if transmit.isEmpty then ([], conn)
    else
      let (later, conn) := transmitAll path rounds conn
      (transmit.bytes ++ later, conn)

/-! ### What a drain takes -/

theorem popFrames_staged :
    popFrames frames.length { slot with outbound := frames } =
      (frames, { slot with outbound := [] }) := by
  induction frames with
  | nil => rfl
  | cons _ _ ih =>
    simp [popFrames, ProducerState.nextOutboundFrame, ih]

/-- The length of the queue is fuel enough to empty it. -/
theorem popFrames_length :
    popFrames slot.outbound.length slot = (slot.outbound, { slot with outbound := [] }) :=
  popFrames_staged slot slot.outbound

/-- The two segments of a frame, or none if it cannot be encoded. -/
def frameSegments (frame : OutboundFrame) : List Bytes :=
  match encodePayloadHead wire frame.command frame.metadata frame.payload with
  | .ok head => [head, frame.payload]
  | .error _ => []

theorem encodeInto_eq (outbound : Bytes) (frame : OutboundFrame) :
    Outbound.encodeInto wire outbound frame = outbound ++ (frameSegments wire frame).flatten := by
  unfold Outbound.encodeInto frameSegments
  rw [← encodePayloadHead_append]
  cases encodePayloadHead wire frame.command frame.metadata frame.payload with
  | ok | error => simp [Except.map]

theorem foldl_encodeInto (outbound : Bytes) :
    frames.foldl (Outbound.encodeInto wire) outbound =
      outbound ++ (frames.flatMap (frameSegments wire)).flatten := by
  induction frames generalizing outbound with
  | nil => simp
  | cons _ _ ih =>
    rw [List.foldl_cons, ih, encodeInto_eq]
    simp

theorem foldl_segmentInto (segments : List Bytes) :
    frames.foldl (Outbound.segmentInto wire) segments =
      segments ++ frames.flatMap (frameSegments wire) := by
  induction frames generalizing segments with
  | nil => simp
  | cons frame _ ih =>
    have first : Outbound.segmentInto wire segments frame =
        segments ++ frameSegments wire frame := by
      unfold Outbound.segmentInto frameSegments
      split <;> simp
    rw [List.foldl_cons, ih, first]
    simp

def takeAll : List Nat → Table Nat ProducerState → List OutboundFrame × Table Nat ProducerState
  | [], producers => ([], producers)
  | handle :: rest, producers =>
    let (frames, producers) := takeStaged producers handle
    let (later, producers) := takeAll rest producers
    (frames ++ later, producers)

/-- What the gates let through: nothing before the handshake is done. -/
def released (state : HandshakeState) (producers : Table Nat ProducerState) :
    List OutboundFrame × Table Nat ProducerState :=
  if state = .connected then takeAll producers.keys producers else ([], producers)

/-- The bytes of the frames the gates let through. -/
def staged : List Bytes :=
  (released conn.state conn.producers).1.flatMap (frameSegments wire)

variable (handles : List Nat)

theorem foldl_drainProducer (conn : Outbound) :
    handles.foldl (Outbound.drainProducer wire) conn =
      { conn with
        outbound := conn.outbound ++
          ((takeAll handles conn.producers).1.flatMap (frameSegments wire)).flatten
        producers := (takeAll handles conn.producers).2 } := by
  induction handles generalizing conn with
  | nil => simp [takeAll]
  | cons _ _ ih =>
    rw [List.foldl_cons, ih]
    simp [takeAll, Outbound.drainProducer, foldl_encodeInto]

theorem foldl_drainProducerVectored (conn : Outbound) :
    handles.foldl (Outbound.drainProducerVectored wire) conn =
      { conn with
        outboundSegments := conn.outboundSegments ++
          (takeAll handles conn.producers).1.flatMap (frameSegments wire)
        producers := (takeAll handles conn.producers).2 } := by
  induction handles generalizing conn with
  | nil => simp [takeAll]
  | cons _ _ ih =>
    rw [List.foldl_cons, ih]
    simp [takeAll, Outbound.drainProducerVectored, foldl_segmentInto]

theorem drainProducerOutbound_eq :
    conn.drainProducerOutbound wire =
      { conn with
        outbound := conn.outbound ++ (staged wire conn).flatten
        producers := (released conn.state conn.producers).2 } := by
  unfold Outbound.drainProducerOutbound staged released
  by_cases connected : conn.state = .connected
  · rw [if_neg (by simp [connected]), if_pos connected, foldl_drainProducer]
  · rw [if_pos connected, if_neg connected]
    simp

theorem drainProducerOutboundVectored_eq :
    conn.drainProducerOutboundVectored wire =
      { conn with
        outboundSegments := conn.outboundSegments ++ staged wire conn
        producers := (released conn.state conn.producers).2 } := by
  unfold Outbound.drainProducerOutboundVectored staged released
  by_cases connected : conn.state = .connected
  · rw [if_neg (by simp [connected]), if_pos connected, foldl_drainProducerVectored]
  · rw [if_pos connected, if_neg connected]
    simp

/-! ### What a drain leaves -/

/-- A slot behind an open gate has nothing staged any more; any other keeps what it had. -/
def emptied : ProducerState :=
  if connected && slot.brokerReady then { slot with outbound := [] } else slot

@[simp] theorem emptied_emptied :
    emptied connected (emptied connected slot) = emptied connected slot := by
  unfold emptied
  cases ready : connected && slot.brokerReady <;> simp [ready]

theorem map_emptied_map_emptied (slot : Option ProducerState) :
    (slot.map (emptied connected)).map (emptied connected) = slot.map (emptied connected) := by
  cases slot <;> simp

theorem takeStaged_lookup (named handle : Nat) :
    (takeStaged producers named).2.lookup handle =
      (producers.lookup handle).map fun slot =>
        if named = handle then emptied true slot else slot := by
  unfold takeStaged
  by_cases same : named = handle
  · subst same
    cases found : producers.lookup named with
    | none => simp [found]
    | some slot =>
      cases ready : slot.brokerReady with
      | true => simp [found, ready, popFrames_length, Table.lookup_modify_self, emptied]
      | false => simp [found, ready, emptied]
  · cases producers.lookup named with
    | none => simp [same]
    | some slot =>
      cases ready : slot.brokerReady <;>
        simp [same, ready, Table.lookup_modify_ne _ _ (Ne.symm same)]

theorem takeAll_lookup (producers : Table Nat ProducerState) (handle : Nat) :
    (takeAll handles producers).2.lookup handle =
      (producers.lookup handle).map fun slot =>
        if handle ∈ handles then emptied true slot else slot := by
  induction handles generalizing producers with
  | nil => simp [takeAll]
  | cons named rest ih =>
    simp only [takeAll, ih, takeStaged_lookup, Option.map_map]
    congr 1
    funext slot
    by_cases later : handle ∈ rest <;> by_cases first : handle = named <;>
      simp [first, later, eq_comm (a := named)]

theorem released_lookup (state : HandshakeState) (producers : Table Nat ProducerState)
    (handle : Nat) :
    (released state producers).2.lookup handle =
      (producers.lookup handle).map (emptied (state == .connected)) := by
  unfold released
  by_cases connected : state = .connected
  · rw [if_pos connected, takeAll_lookup]
    cases found : producers.lookup handle with
    | none => rfl
    | some =>
      have listed : handle ∈ producers.keys :=
        AList.mem_keys.mpr (AList.lookup_isSome.mp (by simp [found]))
      simp [connected, listed]
  · rw [if_neg connected]
    cases producers.lookup handle <;> simp [connected, emptied]

/-- No open gate has a frame behind it. -/
def AllEmptied : Prop :=
  ∀ handle slot, producers.lookup handle = some slot → emptied connected slot = slot

variable {producers : Table Nat ProducerState}

theorem takeStaged_allEmptied (named : Nat) (allEmptied : AllEmptied true producers) :
    (takeStaged producers named).1 = [] ∧ AllEmptied true (takeStaged producers named).2 := by
  constructor
  · unfold takeStaged
    cases found : producers.lookup named with
    | none => rfl
    | some slot =>
      have empty := congrArg ProducerState.outbound (allEmptied named slot found)
      cases ready : slot.brokerReady with
      | true => simpa [popFrames_length, emptied, ready, eq_comm] using empty
      | false => simp [ready]
  · intro handle slot found
    rw [takeStaged_lookup, Option.map_eq_some_iff] at found
    obtain ⟨earlier, foundEarlier, rfl⟩ := found
    split
    · exact emptied_emptied true earlier
    · exact allEmptied handle earlier foundEarlier

theorem takeAll_allEmptied
    (allEmptied : AllEmptied true producers) : (takeAll handles producers).1 = [] := by
  induction handles generalizing producers with
  | nil => rfl
  | cons named _ ih =>
    obtain ⟨nothing, still⟩ := takeStaged_allEmptied named allEmptied
    simp [takeAll, nothing, ih still]

theorem staged_of_released {state : HandshakeState} (sameState : conn.state = state)
    (drained : conn.producers = (released state producers).2) : staged wire conn = [] := by
  have allEmptied : AllEmptied (conn.state == .connected) conn.producers := by
    intro handle slot found
    rw [drained, released_lookup, Option.map_eq_some_iff] at found
    obtain ⟨earlier, -, rfl⟩ := found
    rw [sameState]
    exact emptied_emptied _ earlier
  have nothing : (released conn.state conn.producers).1 = [] := by
    unfold released
    split
    case isTrue connected =>
      rw [connected] at allEmptied
      exact takeAll_allEmptied _ allEmptied
    case isFalse => rfl
  rw [staged, nothing, List.flatMap_nil]

/-! ### One poll -/

/-- The stream a path has still to emit.  Segments left in the connection are seen by the two
vectored paths only, and wait behind a buffer that is not empty. -/
def backlog : Path → Bytes
  | .contiguous => conn.outbound ++ (staged wire conn).flatten
  | .owned | .vectored =>
    if conn.outbound = [] then conn.outboundSegments.flatten ++ (staged wire conn).flatten
    else conn.outbound ++ (staged wire conn).flatten ++ conn.outboundSegments.flatten

/-- What one poll does: it emits the head of the path's backlog and leaves the rest, and all of it
when the buffer was empty. -/
structure Polled (conn : Outbound) (path : Path) (bytes : Bytes)
    (next : Outbound) : Prop where
  sameState : next.state = conn.state
  noBuffer : next.outbound = []
  slots : ∀ handle, next.producers.lookup handle =
    (conn.producers.lookup handle).map (emptied (conn.state == .connected))
  emitted : bytes ++ backlog wire next path = backlog wire conn path
  exhausts : conn.outbound = [] ∨ bytes = [] → backlog wire next path = []

theorem pollTransmit_eq :
    conn.pollTransmit wire =
      (conn.outbound ++ (staged wire conn).flatten,
        { conn with
          outbound := []
          producers := (released conn.state conn.producers).2 }) := by
  simp [Outbound.pollTransmit, drainProducerOutbound_eq]

variable {path : Path}

theorem Polled.buffer {conn next : Outbound}
    (sameState : next.state = conn.state) (noBuffer : next.outbound = [])
    (producers : next.producers = (released conn.state conn.producers).2)
    (segments : next.outboundSegments = conn.outboundSegments)
    (inOrder : path = .contiguous ∨ conn.outbound ≠ [] ∨ conn.outboundSegments = []) :
    Polled wire conn path (conn.outbound ++ (staged wire conn).flatten) next := by
  have drained := staged_of_released wire next sameState producers
  refine ⟨sameState, noBuffer, ?_, ?_, ?_⟩
  · intro handle
    rw [producers, released_lookup]
  · cases path <;> rcases inOrder with _ | _ | _ <;> simp_all [backlog]
  · intro nothing
    have empty : conn.outbound = [] := by
      rcases nothing with empty | noBytes
      · exact empty
      · exact (List.append_eq_nil_iff.mp noBytes).1
    cases path <;> simp_all [backlog]

theorem Polled.segments {conn next : Outbound}
    (vectored : path ≠ .contiguous) (empty : conn.outbound = [])
    (sameState : next.state = conn.state) (noBuffer : next.outbound = [])
    (producers : next.producers = (released conn.state conn.producers).2)
    (taken : next.outboundSegments = []) :
    Polled wire conn path (conn.outboundSegments ++ staged wire conn).flatten next := by
  have drained := staged_of_released wire next sameState producers
  refine ⟨sameState, noBuffer, ?_, ?_, ?_⟩
  · intro handle
    rw [producers, released_lookup]
  · cases path <;> simp_all [backlog]
  · intro _
    cases path <;> simp_all [backlog]

/-- A vectored drain that found nothing changes no slot a second drain could see. -/
theorem Polled.after_vectored {conn : Outbound} {bytes : Bytes} {next : Outbound}
    (nothing : (conn.drainProducerOutboundVectored wire).outboundSegments = [])
    (polled : Polled wire (conn.drainProducerOutboundVectored wire) path bytes next) :
    Polled wire conn path bytes next := by
  have drained := drainProducerOutboundVectored_eq wire conn
  have sameState : (conn.drainProducerOutboundVectored wire).state = conn.state := by rw [drained]
  have producers : (conn.drainProducerOutboundVectored wire).producers =
      (released conn.state conn.producers).2 := by rw [drained]
  have sameBuffer : (conn.drainProducerOutboundVectored wire).outbound = conn.outbound := by
    rw [drained]
  have stillNone := staged_of_released wire _ sameState producers
  obtain ⟨noSegments, noneStaged⟩ : conn.outboundSegments = [] ∧ staged wire conn = [] := by
    rw [drained] at nothing
    exact List.append_eq_nil_iff.mp nothing
  refine ⟨polled.sameState.trans sameState, polled.noBuffer, ?_, ?_, ?_⟩
  · intro handle
    rw [polled.slots handle, producers, sameState, released_lookup, map_emptied_map_emptied]
  · rw [polled.emitted]
    cases path <;> simp [backlog, sameBuffer, nothing, stillNone, noSegments, noneStaged]
  · rw [← sameBuffer]
    exact polled.exhausts

variable (path : Path)

theorem poll_spec :
    Polled wire conn path (poll wire conn path).1.bytes (poll wire conn path).2 := by
  cases path with
  | contiguous =>
    simp only [poll, pollTransmit_eq, Transmit.bytes]
    exact .buffer wire rfl rfl rfl rfl (.inl rfl)
  | owned | vectored =>
    simp only [poll, Outbound.pollTransmitOwned, Outbound.pollTransmitVectored]
    split
    case isTrue empty =>
      split
      case isTrue nothing =>
        apply Polled.after_vectored wire (List.isEmpty_iff.mp nothing)
        rw [pollTransmit_eq]
        exact .buffer wire rfl rfl rfl rfl (.inr (.inr (List.isEmpty_iff.mp nothing)))
      case isFalse =>
        rw [drainProducerOutboundVectored_eq]
        exact .segments wire (by simp) (List.isEmpty_iff.mp empty) rfl
          (List.isEmpty_iff.mp empty) rfl rfl
    case isFalse buffered =>
      rw [pollTransmit_eq]
      exact .buffer wire rfl rfl rfl rfl (.inr (.inl (by simpa using buffered)))

/-! ### Draining -/

theorem Transmit.isEmpty_iff (transmit : Transmit) : transmit.isEmpty ↔ transmit.bytes = [] := by
  simp [Transmit.isEmpty]

variable (rounds : Nat)

theorem transmitAll_succ (conn : Outbound) :
    transmitAll wire path (rounds + 1) conn =
      if (poll wire conn path).1.isEmpty then ([], (poll wire conn path).2)
      else
        ((poll wire conn path).1.bytes ++ (transmitAll wire path rounds (poll wire conn path).2).1,
          (transmitAll wire path rounds (poll wire conn path).2).2) := rfl

/-- No round loses or adds a byte. -/
theorem transmitAll_emitted (conn : Outbound) :
    (transmitAll wire path rounds conn).1 ++
      backlog wire (transmitAll wire path rounds conn).2 path = backlog wire conn path := by
  induction rounds generalizing conn with
  | zero => rfl
  | succ _ ih =>
    have polled := poll_spec wire conn path
    rw [transmitAll_succ]
    split
    case isTrue empty =>
      rw [← polled.emitted, (Transmit.isEmpty_iff _).mp empty]
    case isFalse =>
      simp only [List.append_assoc, ih, polled.emitted]

/-- Two rounds empty the backlog: the first takes the buffer, the second the segments behind it. -/
theorem transmitAll_exhausts (conn : Outbound) :
    backlog wire (transmitAll wire path (rounds + 2) conn).2 path = [] := by
  have stays : ∀ rounds conn, backlog wire conn path = [] →
      backlog wire (transmitAll wire path rounds conn).2 path = [] := by
    intro rounds conn nothing
    have conserved := transmitAll_emitted wire path rounds conn
    rw [nothing] at conserved
    exact (List.append_eq_nil_iff.mp conserved).2
  have once : ∀ rounds (conn : Outbound), conn.outbound = [] →
      backlog wire (transmitAll wire path (rounds + 1) conn).2 path = [] := by
    intro rounds conn noBuffer
    have exhausted := (poll_spec wire conn path).exhausts (.inl noBuffer)
    rw [transmitAll_succ]
    split
    · exact exhausted
    · exact stays rounds _ exhausted
  have polled := poll_spec wire conn path
  rw [transmitAll_succ]
  split
  case isTrue empty => exact polled.exhausts (.inr ((Transmit.isEmpty_iff _).mp empty))
  case isFalse => exact once rounds _ polled.noBuffer

theorem transmitAll_slots (conn : Outbound) (handle : Nat) :
    (transmitAll wire path (rounds + 1) conn).2.producers.lookup handle =
      (conn.producers.lookup handle).map (emptied (conn.state == .connected)) := by
  induction rounds generalizing conn with
  | zero =>
    rw [transmitAll_succ]
    split <;> exact (poll_spec wire conn path).slots handle
  | succ _ ih =>
    have polled := poll_spec wire conn path
    rw [transmitAll_succ]
    split
    · exact polled.slots handle
    · rw [ih, polled.slots handle, polled.sameState, map_emptied_map_emptied]

theorem transmitAll_fst (conn : Outbound) :
    (transmitAll wire path (rounds + 2) conn).1 = backlog wire conn path := by
  have conserved := transmitAll_emitted wire path (rounds + 2) conn
  rwa [transmitAll_exhausts, List.append_nil] at conserved

theorem poll_after_transmitAll (conn : Outbound) :
    (poll wire (transmitAll wire path (rounds + 2) conn).2 path).1.isEmpty := by
  have conserved := (poll_spec wire (transmitAll wire path (rounds + 2) conn).2 path).emitted
  rw [transmitAll_exhausts] at conserved
  exact (Transmit.isEmpty_iff _).mpr (List.append_eq_nil_iff.mp conserved).1

/-- Two polls drain a connection on every path: the next poll is empty, every slot behind an open
gate has nothing staged, and every other slot is untouched.  The two vectored paths emit the same
stream from every state, and the contiguous one does when no segments were left over.  A head with
its payload behind it is what the whole-frame encoder writes. -/
theorem transmit_paths_agree (conn : Outbound) (rounds : Nat) (more : 2 ≤ rounds) :
    (transmitAll wire .vectored rounds conn).1 = (transmitAll wire .owned rounds conn).1 ∧
      (conn.outboundSegments = [] →
        (transmitAll wire .contiguous rounds conn).1 = (transmitAll wire .owned rounds conn).1) ∧
      (transmitAll wire .contiguous rounds conn).1 =
        conn.outbound ++ (staged wire conn).flatten ∧
      (∀ path,
        (poll wire (transmitAll wire path rounds conn).2 path).1.isEmpty ∧
          ∀ handle, (transmitAll wire path rounds conn).2.producers.lookup handle =
            (conn.producers.lookup handle).map fun slot =>
              if conn.state = .connected ∧ slot.brokerReady then { slot with outbound := [] }
              else slot) ∧
      ∀ command metadata dst payload,
        (encodePayloadHead wire command metadata payload).map
            (fun head => dst ++ head ++ payload) =
          encodePayload wire dst command metadata payload := by
  obtain ⟨rounds, rfl⟩ := Nat.exists_eq_add_of_le' more
  simp only [transmitAll_fst]
  refine ⟨rfl, ?_, rfl, ?_, fun command metadata dst payload =>
    encodePayloadHead_append wire command metadata dst payload⟩
  · intro noSegments
    by_cases empty : conn.outbound = [] <;> simp [backlog, noSegments, empty]
  · intro path
    refine ⟨poll_after_transmitAll wire path rounds conn, ?_⟩
    intro handle
    rw [transmitAll_slots]
    congr 1
    funext slot
    simp [emptied]

/-- A send of one message by producer 1 with an empty metadata, at the bytes prost gives them. -/
private def sendWire : Wire BaseCommand where
  command := { encode := fun _ => [8, 6, 50, 6, 8, 1, 16, 0, 24, 1], decode := fun _ => none }
  metadata := { encode := fun _ => [10, 0, 16, 0, 24, 0], decode := fun _ => none }
  brokerEntryMetadata := default
  crc := Crc32c.castagnoli

private def staging (handle : Nat) (ready : Bool) (payload : Bytes) : ProducerState :=
  { ProducerState.new handle .none defaultMaxMessageSize with
    brokerReady := ready
    outbound :=
      [{ command :=
           { type := sendType
             send := some { producerId := handle, sequenceId := 0, numMessages := some 1 } }
         metadata := {}
         payload
         sequenceId := 0 }] }

/-- Two producers, the second still waiting for the broker's ack, and a ping in the buffer. -/
private def twoProducers : Outbound where
  state := .connected
  producers := AList.insert 1 (staging 1 true [1, 2, 3]) (AList.insert 2 (staging 2 false [4]) ∅)
  outbound := [0, 0, 0, 6, 0, 0, 0, 2, 8, 18]
  outboundSegments := []
  pendingVectoredSegments := []
  pendingVectoredDrain := none

theorem transmit_paths_agree_two_producers :
    (transmitAll sendWire .contiguous 2 twoProducers).1 =
        (transmitAll sendWire .owned 2 twoProducers).1 ∧
      (transmitAll sendWire .vectored 2 twoProducers).1 =
        (transmitAll sendWire .owned 2 twoProducers).1 ∧
      (transmitAll sendWire .contiguous 2 twoProducers).1.length = 47 := by
  have agree := transmit_paths_agree sendWire twoProducers 2 (by decide)
  exact ⟨agree.2.1 rfl, agree.1, by rw [agree.2.2.1]; decide⟩

/-- Draining ends, on each path, with the frame of the second producer still staged. -/
theorem gated_frames_stay_staged :
    [Path.contiguous, .owned, .vectored].all fun path =>
      (poll sendWire (transmitAll sendWire path 2 twoProducers).2 path).1.isEmpty &&
        ((transmitAll sendWire path 2 twoProducers).2.producers.lookup 2).map
            (fun producer => producer.outbound.map (·.payload)) ==
          some [[4]] := by
  decide

end Magnetar.Proto.Outgoing
