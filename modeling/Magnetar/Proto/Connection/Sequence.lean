import Magnetar.Proto.Connection.Handles
import Magnetar.Proto.Connection.Layout

/-!
Contract: the sequence ids of a producer against those the broker knows.

Owns: that ids grow over the life of a producer, when they continue after the last id the broker
reports, and when the published id of a producer never goes back.

Does not own: what the broker does with an id it has seen.
-/

namespace Magnetar.Proto.Connection

open Library.Machine Pb External Producer ProducerEntry ProducerSide ProducerState

variable {single : Prost SingleMessageMetadata} {codecs : Codecs}

variable {after before : ProducerEntry} {record record' : ProducerRecord}

/-! ### Moves mint nothing -/

/-- An event that opens, mints and attaches nothing. -/
def SendEvent.isIncidental : SendEvent → Bool
  | .opened _ | .minted _ _ | .attached _ => false
  | _ => true

variable {events : List SendEvent}

theorem Replies.incidental (replies : Replies events) :
    ∀ event ∈ events, event.isIncidental = true := by
  intro event member
  have reply := replies event member
  cases event <;> simp_all [SendEvent.isReply, SendEvent.isIncidental]

theorem mintedIds_incidental
    (incidental : ∀ event ∈ events, event.isIncidental = true) : mintedIds events = [] := by
  rw [mintedIds, mintedSends, List.map_eq_nil_iff, List.filterMap_eq_nil_iff]
  intro event member
  have silent := incidental event member
  cases event <;> simp_all [SendEvent.isIncidental, SendEvent.minted?]

theorem Keeps.incidental (keeps : Keeps before after) :
    ∃ events, after.log = before.log ++ events ∧
      ∀ event ∈ events, event.isIncidental = true := by
  obtain ⟨events, log, replies⟩ := keeps.log
  exact ⟨events, log, replies.incidental⟩

theorem Move.incidental (move : Move single codecs before after) :
    ∃ events, after.log = before.log ++ events ∧
      ∀ event ∈ events, event.isIncidental = true := by
  cases move with
  | reduce _ _ _ keeps => exact keeps.incidental
  | vacate _ keeps =>
    rcases keeps with keeps | keeps
    · exact keeps.incidental
    · exact keeps.incidental
  | flush => exact ⟨[], (List.append_nil _).symm, by simp⟩
  | drain => exact ⟨[], by rw [drainOutbound_log, List.append_nil], by simp⟩
  | poll =>
    refine ⟨_, rfl, ?_⟩
    intro event member
    obtain ⟨released, _, rfl⟩ := List.mem_map.mp member
    rfl

/-- The slot, if it is filled, was filled and has the same id next. -/
def SameNext (before after : ProducerEntry) : Prop :=
  ∀ record', after.slot = some record' → ∃ record, before.slot = some record ∧
    record'.state.nextSequenceId = record.state.nextSequenceId

theorem SameNext.of_slots (slot : before.slot = some record) (slot' : after.slot = some record')
    (next : record'.state.nextSequenceId = record.state.nextSequenceId) :
    SameNext before after := by
  intro found there
  cases slot'.symm.trans there
  exact ⟨record, slot, next⟩

theorem Move.sameNext (move : Move single codecs before after) : SameNext before after := by
  cases move with
  | reduce slot slot' reduces => exact .of_slots slot slot' (by rw [reduces.rest])
  | vacate slot' =>
    intro record there
    rw [slot'] at there
    cases there
  | flush slot publishTimeMs =>
    exact .of_slots slot rfl (flushed_nextSequenceId (.inr ⟨publishTimeMs, rfl⟩)).1
  | drain slot ready => exact .of_slots slot (drainOutbound_slot slot ready) rfl
  | poll => exact fun record there => ⟨record, there, rfl⟩

/-! ### Ids grow -/

/-- The ids minted so far grow, and the next one is above them. -/
structure Growing (entry : ProducerEntry) : Prop where
  increasing : (mintedIds entry.log).Pairwise (· < ·)
  bounded : ∀ record, entry.slot = some record → ∀ id ∈ mintedIds entry.log,
    id < record.state.nextSequenceId

theorem Growing.still (growing : Growing before)
    (ids : mintedIds after.log = mintedIds before.log) (next : SameNext before after) :
    Growing after := by
  refine ⟨ids ▸ growing.increasing, ?_⟩
  intro record' there
  obtain ⟨record, slot, same⟩ := next record' there
  rw [ids, same]
  exact growing.bounded record slot

structure Mints (before after : ProducerEntry) (record record' : ProducerRecord)
    (msg : OutgoingMessage) : Prop where
  slot : before.slot = some record
  slot' : after.slot = some record'
  next : record'.state.nextSequenceId = record.state.nextSequenceId + 1
  log : after.log = before.log ++ [.minted record.state.nextSequenceId msg]

variable {msg : OutgoingMessage}

theorem Accepted.mints {op : OpSend} {batch : BatchContainer} {state : ProducerState}
    (accepted : Accepted codecs before after msg record op batch state)
    (bounded : record.state.nextSequenceId + 1 < 2 ^ 64) :
    Mints before after record { record with state } msg := by
  obtain ⟨slot, -, accepts, rfl⟩ := accepted
  exact ⟨slot, rfl, accepts.nextSequenceId_eq bounded, rfl⟩

theorem Growing.mint (growing : Growing before)
    (mints : Mints before after record record' msg) : Growing after := by
  have ids : mintedIds after.log = mintedIds before.log ++ [record.state.nextSequenceId] := by
    rw [mints.log, mintedIds_append]
    rfl
  have below := growing.bounded record mints.slot
  constructor
  · rw [ids, List.pairwise_append]
    refine ⟨growing.increasing, List.pairwise_singleton _ _, ?_⟩
    intro id earlier newest member
    rw [List.mem_singleton.mp member]
    exact below id earlier
  · intro found there id member
    cases mints.slot'.symm.trans there
    rw [mints.next]
    rw [ids, List.mem_append, List.mem_singleton] at member
    rcases member with older | rfl
    · have bound := below id older
      omega
    · omega

variable {receipt : CommandSendReceipt}

theorem Received.sameNext (slot : before.slot = some record)
    (received : Received before record receipt after record') : SameNext before after := by
  refine .of_slots slot received.slot ?_
  rw [received.state, (record.state.handleSendReceipt_reduces receipt).rest]

variable {lastSequenceId : Option Int}

theorem ProducerEntry.Attached.sameNext (slot : before.slot = some record)
    (attached : Attached before record lastSequenceId after record') : SameNext before after := by
  obtain ⟨name, index, state⟩ := attached.state
  refine .of_slots slot attached.slot ?_
  rw [state]

variable {entry : ProducerEntry} {op : EntryOp}

theorem Growing.step (growing : Growing entry)
    (regular : unwrapped entry op = true) : Growing (entryStep single codecs entry op) := by
  refine entryStep_invariant (fun _ _ => True) Growing ?_ ?_ ?_ ?_ ?_ ?_ entry op growing regular
    trivial
  · intro entry handle maxMessageSize req _ _ _
    exact ⟨List.Pairwise.nil, fun _ _ _ member => absurd member List.not_mem_nil⟩
  · intro before after record record' producerName lastSequenceId growing _ slot attached
    refine growing.still ?_ (attached.sameNext slot)
    rw [attached.log, mintedIds_append]
    exact List.append_nil _
  · intro before after record record' receipt growing _ slot received
    exact growing.still received.keeps.mintedIds_eq (received.sameNext slot)
  · intro before after msg record op batch state growing bounded accepted
    exact growing.mint (accepted.mints bounded)
  · intro before after record growing slot settles
    exact growing.still settles.keeps.mintedIds_eq (.of_slots slot settles.slot rfl)
  · intro before after growing move
    obtain ⟨events, log, incidental⟩ := move.incidental
    refine growing.still ?_ move.sameNext
    rw [log, mintedIds_append, mintedIds_incidental incidental, List.append_nil]

/-! ### Ids continue -/

/-- An id minted after an attach is above the last id that attach reported. -/
def Continues (earlier later : SendEvent) : Prop :=
  ∀ last seq msg, earlier = .attached (some last) → later = .minted seq msg → last < (seq : Int)

/-- The ids of a log continue after every last id reported in it, and so will the next one. -/
structure Continuing (entry : ProducerEntry) : Prop where
  continues : entry.log.Pairwise Continues
  attached : ∀ record, entry.slot = some record → ∀ last,
    SendEvent.attached (some last) ∈ entry.log → last < (record.state.nextSequenceId : Int)

/-- Incidental events change nothing. -/
theorem Continuing.extend (continuing : Continuing before) (log : after.log = before.log ++ events)
    (incidental : ∀ event ∈ events, event.isIncidental = true)
    (next : SameNext before after) : Continuing after := by
  have unminted (event : SendEvent) (member : event ∈ events) (seq : Nat) (msg : OutgoingMessage) :
      event ≠ .minted seq msg := by
    rintro rfl
    cases incidental _ member
  constructor
  · rw [log, List.pairwise_append]
    refine ⟨continuing.continues, ?_, ?_⟩
    · apply List.Pairwise.imp_of_mem _ (List.pairwise_of_forall (R := fun _ _ => True) (by simp))
      intro earlier later _ member _ last seq msg _ isMinted
      exact absurd isMinted (unminted later member seq msg)
    · intro earlier _ later member last seq msg _ isMinted
      exact absurd isMinted (unminted later member seq msg)
  · intro record' there last member
    obtain ⟨record, found, same⟩ := next record' there
    rw [same]
    apply continuing.attached record found last
    rw [log, List.mem_append] at member
    refine member.resolve_right fun inEvents => ?_
    cases incidental _ inEvents

theorem Continuing.mint (continuing : Continuing before)
    (mints : Mints before after record record' msg) : Continuing after := by
  constructor
  · rw [mints.log, List.pairwise_append]
    refine ⟨continuing.continues, List.pairwise_singleton _ _, ?_⟩
    rintro earlier inLog newest member last seq sent rfl rfl
    obtain ⟨rfl, -⟩ := SendEvent.minted.inj (List.mem_singleton.mp member)
    exact continuing.attached record mints.slot last inLog
  · intro found there last member
    cases mints.slot'.symm.trans there
    rw [mints.log, List.mem_append, List.mem_singleton] at member
    have below := continuing.attached record mints.slot last (member.resolve_right (by simp))
    rw [mints.next]
    omega

/-- The last id a reply reports is one the producer has passed already. -/
def attachesAhead (entry : ProducerEntry) : EntryOp → Bool
  | .attach _ (some last) => entry.slot.all fun record =>
    decide (last < (record.state.nextSequenceId : Int))
  | _ => true

theorem Continuing.attach {producerName : String} (continuing : Continuing before)
    (ahead : attachesAhead before (.attach producerName lastSequenceId) = true)
    (slot : before.slot = some record)
    (attached : Attached before record lastSequenceId after record') : Continuing after := by
  constructor
  · rw [attached.log, List.pairwise_append]
    refine ⟨continuing.continues, List.pairwise_singleton _ _, ?_⟩
    rintro earlier - later member last seq msg - rfl
    cases List.mem_singleton.mp member
  · intro record' there last member
    obtain ⟨found, here, next⟩ := attached.sameNext slot record' there
    cases slot.symm.trans here
    rw [next]
    rw [attached.log, List.mem_append, List.mem_singleton] at member
    rcases member with older | newest
    · exact continuing.attached record slot last older
    · obtain rfl := SendEvent.attached.inj newest
      rw [attachesAhead, slot] at ahead
      exact of_decide_eq_true ahead

theorem Continuing.step (continuing : Continuing entry)
    (regular : unwrapped entry op = true) (ahead : attachesAhead entry op = true) :
    Continuing (entryStep single codecs entry op) := by
  refine entryStep_invariant (fun entry op => attachesAhead entry op = true) Continuing
    ?_ ?_ ?_ ?_ ?_ ?_ entry op continuing regular ahead
  · intro entry handle maxMessageSize req _ _ _
    refine ⟨List.pairwise_singleton _ _, ?_⟩
    intro record _ last member
    cases List.mem_singleton.mp member
  · intro before after record record' producerName lastSequenceId continuing ahead slot attached
    exact continuing.attach ahead slot attached
  · intro before after record record' receipt continuing _ slot received
    obtain ⟨events, log, incidental⟩ := received.keeps.incidental
    exact continuing.extend log incidental (received.sameNext slot)
  · intro before after msg record op batch state continuing bounded accepted
    exact continuing.mint (accepted.mints bounded)
  · intro before after record continuing slot settles
    obtain ⟨events, log, incidental⟩ := settles.keeps.incidental
    exact continuing.extend log incidental (.of_slots slot settles.slot rfl)
  · intro before after continuing move
    obtain ⟨events, log, incidental⟩ := move.incidental
    exact continuing.extend log incidental move.sameNext

theorem run_growing (config : ProducerConfig) {handle : Nat} {ops : List Op}
    (fits : Guarded (step single codecs) (fun side op => side.countersFit handle op = true)
      (start config) ops) :
    Growing ((run (step single codecs) (start config) ops).entries handle) :=
  run_unwrapped_invariant (start_reserved config) fits Growing
    (fun _ _ growing regular => growing.step regular) ⟨List.Pairwise.nil, by simp [start]⟩

section Continuation

variable (single codecs)

/-- The ids of a producer grow over its life, and pass every last id the broker reports, while no
reply reports an id that the producer has not passed. -/
theorem ids_continue_after_broker (config : ProducerConfig) (handle : Nat) (ops : List Op)
    (fits : Guarded (step single codecs) (fun side op => side.countersFit handle op = true)
      (start config) ops) (ahead : Guarded (step single codecs)
      (GuardedAt single codecs (fun entry op => attachesAhead entry op = true) handle)
      (start config) ops) :
    let log := ((run (step single codecs) (start config) ops).entries handle).log
    (mintedIds log).Pairwise (· < ·) ∧
      ∀ earlier last between (seq : Nat) msg later,
        log = earlier ++ .attached (some last) :: (between ++ .minted seq msg :: later) →
          last < (seq : Int) := by
  intro log
  have continuing : Continuing ((run (step single codecs) (start config) ops).entries handle) :=
    run_guarded_invariant (start_reserved config) fits Continuing
      (fun _ _ holds regular meets => holds.step regular meets)
      ⟨List.Pairwise.nil, by simp [start]⟩ ahead
  refine ⟨(run_growing config fits).increasing, ?_⟩
  intro earlier last between seq msg later split
  have ordered : log.Pairwise Continues := continuing.continues
  rw [split, List.pairwise_append, List.pairwise_cons] at ordered
  exact ordered.2.1.1 (.minted seq msg) (by simp) last seq msg rfl rfl

private def reattachOps : List Op :=
  opening plainOpen none ++
    [sending [], sending [], .reset, .rebuildProducer 0, .frame 0 (.connected none),
      .frame 0 (.producerSuccess 1 "p" (some 1)), sending []]

private def reattachLog : List SendEvent :=
  ((run (step default default) (start {}) reattachOps).entries 0).log

/-- Two sends, a reset and a re-attach at which the broker reports the second of them. -/
theorem ids_continue_after_reattach :
    mintedIds reattachLog = [0, 1, 2] ∧ (mintedIds reattachLog).Pairwise (· < ·) ∧
      ∃ earlier msg, reattachLog = earlier ++ [.attached (some 1), .minted 2 msg] ∧
        (1 : Int) < (2 : Nat) := by
  have continues := ids_continue_after_broker default default {} 0 reattachOps (by decide +kernel)
    (by decide +kernel)
  have split : reattachLog = [.opened plainOpen, .attached none, .minted 0 (plainMessage []),
      .minted 1 (plainMessage [])] ++ .attached (some 1) :: ([] ++ .minted 2 (plainMessage []) :: []) :=
    rfl
  exact ⟨by decide +kernel, continues.1, _, _, split, continues.2 _ _ _ _ _ _ split⟩

/-- Without an initial id the producer starts at zero, whatever the broker reports. -/
theorem ids_start_below_broker :
    ∃ earlier between msg later, ((run (step default default) (start {})
      (opening plainOpen (some 5) ++ [sending []])).entries 0).log =
        earlier ++ .attached (some 5) :: (between ++ .minted 0 msg :: later) :=
  ⟨[.opened plainOpen], [], plainMessage [], [], rfl⟩

end Continuation

/-! ### The published id -/

theorem asI64_of_lt {id : Nat} (small : id < 2 ^ 63) : asI64 id = (id : Int) := by
  have fits : (BitVec.ofNat 64 id).toNat = id := by
    exact Nat.mod_eq_of_lt (by omega)
  rw [asI64, BitVec.toInt_eq_toNat_of_lt (by omega), fits]

/-- A receipt moves the published id forward: nothing it covers is pending and it covers nothing
new, or its last id is pending, is no smaller and fits an `i64`. -/
def receiptForward (producer : ProducerState) (receipt : CommandSendReceipt) : Bool :=
  let highest := ProducerState.receiptHighest receipt
  (producer.pendingIds.all fun id => !(decide (receipt.sequenceId ≤ id) && decide (id ≤ highest))) &&
      decide ((highest : Int) ≤ producer.lastSequenceIdPublished) ||
    producer.pendingIds.contains highest && decide (highest < 2 ^ 63) &&
      decide (producer.lastSequenceIdPublished ≤ highest)

/-- No reply reports an id below the published one. -/
def publishesForward (entry : ProducerEntry) : EntryOp → Bool
  | .attach _ lastSequenceId => entry.slot.all fun record =>
    decide (record.state.lastSequenceIdPublished ≤ lastSequenceId.getD (-1))
  | .sendReceipt receipt => entry.slot.all fun record => receiptForward record.state receipt
  | _ => true

theorem receipt_published {producer : ProducerState} (indexed : producer.Indexed)
    (forward : receiptForward producer receipt = true) :
    producer.lastSequenceIdPublished ≤
        (producer.handleSendReceipt receipt).2.lastSequenceIdPublished ∧
      ∀ id ∈ receiptRange receipt,
        (id : Int) ≤ (producer.handleSendReceipt receipt).2.lastSequenceIdPublished := by
  rw [(handleSendReceipt_acknowledges indexed receipt).published,
    publishedAfter, pendingAmong]
  simp only [receiptForward, Bool.or_eq_true, Bool.and_eq_true, decide_eq_true_eq] at forward
  rcases forward with ⟨absent, passed⟩ | ⟨⟨pending, small⟩, larger⟩
  · have nothing : (receiptRange receipt).filterMap producer.findPending = [] := by
      rw [List.filterMap_eq_nil_iff]
      intro id covered
      rw [findPending_eq_none_iff]
      intro waiting
      have outside := List.all_eq_true.mp absent id waiting
      simp [mem_receiptRange.mp covered] at outside
    rw [nothing]
    refine ⟨le_refl _, ?_⟩
    intro id covered
    have bound := (mem_receiptRange.mp covered).2
    change (id : Int) ≤ producer.lastSequenceIdPublished
    omega
  · obtain ⟨earlier, range⟩ := receiptRange_concat receipt
    obtain ⟨op, found⟩ : ∃ op,
        producer.findPending (receiptHighest receipt) = some op := by
      rw [← Option.ne_none_iff_exists', ne_eq, findPending_eq_none_iff, not_not]
      exact List.contains_iff_mem.mp pending
    have same : op.sequenceId = receiptHighest receipt :=
      (findPending_mem found).2
    have last : ((receiptRange receipt).filterMap producer.findPending).getLast? =
        some op := by
      rw [range, List.filterMap_append, List.filterMap_cons_some found]
      exact List.getLast?_concat
    rw [last, Option.elim_some, same, asI64_of_lt small]
    refine ⟨larger, ?_⟩
    intro id covered
    have bound := (mem_receiptRange.mp covered).2
    omega

/-- The published id is at least `floor`, if there is one, and every id the broker acknowledged. -/
structure Publishing (floor : Option Int) (entry : ProducerEntry) : Prop where
  layout : Layout entry
  floored : ∀ bound ∈ floor, ∀ record, entry.slot = some record →
    bound ≤ record.state.lastSequenceIdPublished
  acknowledged : ∀ record, entry.slot = some record → ∀ receipt ∈ acknowledgements entry.log,
    ∀ id ∈ ProducerState.receiptRange receipt, (id : Int) ≤ record.state.lastSequenceIdPublished

/-- The published id does not go back, and is at least the ids of every receipt that is new. -/
def Forward (before after : ProducerEntry) : Prop :=
  ∀ record', after.slot = some record' → ∃ record, before.slot = some record ∧
    record.state.lastSequenceIdPublished ≤ record'.state.lastSequenceIdPublished ∧
    ∀ receipt ∈ acknowledgements after.log, receipt ∈ acknowledgements before.log ∨
      ∀ id ∈ ProducerState.receiptRange receipt, (id : Int) ≤ record'.state.lastSequenceIdPublished

theorem Forward.still (slot : before.slot = some record) (slot' : after.slot = some record')
    (published : record'.state.lastSequenceIdPublished = record.state.lastSequenceIdPublished)
    (silent : acknowledgements after.log = acknowledgements before.log) :
    Forward before after := by
  intro found there
  cases slot'.symm.trans there
  refine ⟨record, slot, published.ge, ?_⟩
  rw [silent]
  exact fun receipt member => .inl member

theorem Publishing.forward {floor : Option Int}
    (publishing : Publishing floor before) (layout : Layout after)
    (forward : Forward before after) : Publishing floor after := by
  refine ⟨layout, ?_, ?_⟩
  · intro bound member record' there
    obtain ⟨record, slot, larger, -⟩ := forward record' there
    exact (publishing.floored bound member record slot).trans larger
  · intro record' there receipt member id covered
    obtain ⟨record, slot, larger, receipts⟩ := forward record' there
    rcases receipts receipt member with older | newer
    · exact (publishing.acknowledged record slot receipt older id covered).trans larger
    · exact newer id covered

theorem Move.forward (move : Move single codecs before after) : Forward before after := by
  cases move with
  | reduce slot slot' _ _ published silent => exact .still slot slot' published silent
  | vacate slot' => simp [Forward, slot']
  | @flush record slot publishTimeMs =>
    have published : (record.state.flushBatch single codecs publishTimeMs).2.lastSequenceIdPublished =
        record.state.lastSequenceIdPublished := by
      unfold ProducerState.flushBatch
      split <;> rfl
    exact .still slot rfl published rfl
  | drain slot ready =>
    rw [drainOutbound_eq slot ready]
    exact .still slot rfl rfl rfl
  | poll =>
    intro record there
    refine ⟨record, there, le_refl _, ?_⟩
    have polled : acknowledgements (before.buffered.map SendEvent.ofReleased) = [] := by
      rw [acknowledgements, List.filterMap_map, List.filterMap_eq_nil_iff]
      exact fun _ _ => rfl
    have silent : acknowledgements before.pollTransmit.log = acknowledgements before.log := by
      change acknowledgements (before.log ++ _) = _
      rw [acknowledgements_append, polled, List.append_nil]
    rw [silent]
    exact fun receipt member => .inl member

/-- An operation that leaves the handle to the producer that has it. -/
def EntryOp.keepsProducer : EntryOp → Bool
  | .create _ _ _ => false
  | _ => true

theorem Publishing.step {floor : Option Int}
    (publishing : Publishing floor entry) (regular : unwrapped entry op = true)
    (forward : publishesForward entry op = true) (same : floor = none ∨ op.keepsProducer = true) :
    Publishing floor (entryStep single codecs entry op) := by
  refine entryStep_invariant (fun entry op => publishesForward entry op = true ∧
    (floor = none ∨ op.keepsProducer = true)) (Publishing floor)
    ?_ ?_ ?_ ?_ ?_ ?_ entry op publishing regular ⟨forward, same⟩
  · intro entry handle maxMessageSize req publishing meets clear
    refine ⟨.create clear handle maxMessageSize req, ?_, ?_⟩
    · rcases meets.2 with none | keeps
      · simp [none]
      · cases keeps
    · intro record _ receipt member
      exact absurd member List.not_mem_nil
  · intro before after record record' producerName lastSequenceId publishing meets slot attached
    refine publishing.forward (publishing.layout.attach slot attached) ?_
    intro found there
    cases attached.slot.symm.trans there
    obtain ⟨name, index, state⟩ := attached.state
    have larger := meets.1
    rw [publishesForward, slot] at larger
    refine ⟨record, slot, ?_, ?_⟩
    · rw [state]
      exact of_decide_eq_true larger
    · have silent : acknowledgements after.log = acknowledgements before.log := by
        rw [attached.log, acknowledgements_append]
        exact List.append_nil _
      rw [silent]
      exact fun receipt member => .inl member
  · intro before after record record' receipt publishing meets slot received
    refine publishing.forward (publishing.layout.receive slot received) ?_
    intro found there
    cases received.slot.symm.trans there
    obtain ⟨earlier, members, staged, minted, -⟩ := publishing.layout.slot record slot
    have larger := meets.1
    rw [publishesForward, slot] at larger
    obtain ⟨kept, covered⟩ := receipt_published minted.indexed larger
    rw [received.state, received.acknowledged]
    refine ⟨record, slot, kept, ?_⟩
    intro known member
    rw [List.mem_append, List.mem_singleton] at member
    rcases member with older | rfl
    · exact .inl older
    · exact .inr covered
  · intro before after msg record op batch state publishing bounded accepted
    have silent : acknowledgements after.log = acknowledgements before.log := by
      rw [accepted.after_eq]
      exact (acknowledgements_append _ _).trans (List.append_nil _)
    have slot : after.slot = some { record with state } := by
      rw [accepted.after_eq]
      rfl
    have published : state.lastSequenceIdPublished = record.state.lastSequenceIdPublished := by
      rw [accepted.accepts.after_eq]
      rfl
    exact publishing.forward (publishing.layout.accept bounded accepted)
      (.still accepted.slot slot published silent)
  · intro before after record publishing slot settles
    have layout := (publishing.layout.disconnected slot).still settles.slot settles.keeps
    exact publishing.forward layout (.still slot settles.slot rfl settles.silent)
  · intro before after publishing move
    exact publishing.forward (publishing.layout.move move) move.forward

section Published

variable (single codecs)

/-- Between two moments of one producer's life the published id does not go back, and it is at least
every id the broker has acknowledged, while neither a receipt nor a reply reports less. -/
theorem published_never_goes_back (config : ProducerConfig) (handle : Nat) (first second : List Op)
    (fits : Guarded (step single codecs) (fun side op => side.countersFit handle op = true)
      (start config) (first ++ second)) (forward : Guarded (step single codecs)
      (GuardedAt single codecs (fun entry op => publishesForward entry op = true) handle)
      (start config) (first ++ second)) (same : Guarded (step single codecs)
      (GuardedAt single codecs (fun _ op => op.keepsProducer = true) handle)
      (run (step single codecs) (start config) first) second)
    (record record' : ProducerRecord)
    (slot : ((run (step single codecs) (start config) first).entries handle).slot = some record)
    (slot' : ((run (step single codecs) (start config) (first ++ second)).entries handle).slot =
      some record') :
    record.state.lastSequenceIdPublished ≤ record'.state.lastSequenceIdPublished ∧
      ∀ receipt ∈ acknowledgements
          ((run (step single codecs) (start config) (first ++ second)).entries handle).log,
        ∀ id ∈ ProducerState.receiptRange receipt,
          (id : Int) ≤ record'.state.lastSequenceIdPublished := by
  rw [Guarded.append] at fits forward
  -- The first part only bounds the receipts; the second keeps the id it starts from as a floor.
  have earlier : Publishing none ((run (step single codecs) (start config) first).entries handle) :=
    run_guarded_invariant (start_reserved config) fits.1 (Publishing none)
      (fun _ _ publishing regular meets => publishing.step regular meets (.inl rfl))
      ⟨.empty, by simp, by simp [start]⟩ forward.1
  have floored : Publishing (some record.state.lastSequenceIdPublished)
      ((run (step single codecs) (start config) first).entries handle) := by
    refine ⟨earlier.layout, ?_, earlier.acknowledged⟩
    rintro bound member found there
    cases member
    cases slot.symm.trans there
    exact le_refl _
  have later : Publishing (some record.state.lastSequenceIdPublished)
      ((run (step single codecs) (start config) (first ++ second)).entries handle) := by
    have both : Guarded (step single codecs)
        (GuardedAt single codecs
          (fun entry op => publishesForward entry op = true ∧ op.keepsProducer = true) handle)
        (run (step single codecs) (start config) first) second :=
      (forward.2.and same).imp fun _ _ meets => meets.1.and meets.2
    rw [run_append]
    exact run_guarded_invariant (run_keeps_reserved (start_reserved config) fits.1) fits.2
      (Publishing (some record.state.lastSequenceIdPublished))
      (fun _ _ publishing regular meets => publishing.step regular meets.1 (.inr meets.2))
      floored both
  exact ⟨later.floored _ rfl record' slot', later.acknowledged record' slot'⟩

private def acknowledgedFirst : List Op :=
  opening plainOpen none ++
    [sending [], sending [], .frame 1 (.sendReceipt { producerId := 0, sequenceId := 0 })]

private def acknowledgedLast : List Op :=
  [sending [], .frame 2 (.sendReceipt
      { producerId := 0, sequenceId := 1, highestSequenceId := some 2 }), .reset,
    .rebuildProducer 0, .frame 3 (.connected none), .frame 3 (.producerSuccess 1 "p" (some 2))]

theorem published_advances_with_receipts :
    ∃ record record' : ProducerRecord,
      ((run (step default default) (start {}) acknowledgedFirst).entries 0).slot = some record ∧
      ((run (step default default) (start {}) (acknowledgedFirst ++ acknowledgedLast)).entries
        0).slot = some record' ∧
      record.state.lastSequenceIdPublished ≤ record'.state.lastSequenceIdPublished := by
  have attached : ((run (step default default) (start {}) acknowledgedFirst).entries
      0).slot.isSome = true := by decide +kernel
  have attached' : ((run (step default default) (start {})
      (acknowledgedFirst ++ acknowledgedLast)).entries 0).slot.isSome = true := by decide +kernel
  obtain ⟨record, slot⟩ := Option.isSome_iff_exists.mp attached
  obtain ⟨record', slot'⟩ := Option.isSome_iff_exists.mp attached'
  exact ⟨record, record', slot, slot', (published_never_goes_back default default {} 0 _ _
    (by decide +kernel) (by decide +kernel) (by decide +kernel) record record' slot slot').1⟩

/-- A re-attach whose reply has no last id puts the published id back to minus one. -/
theorem published_goes_back_on_reattach :
    let first := opening plainOpen none ++
      [sending [], .frame 1 (.sendReceipt { producerId := 0, sequenceId := 0 })]
    let second := [.reset, .rebuildProducer 0, .frame 2 (.connected none),
      .frame 2 (.producerSuccess 1 "p" none)]
    (((run (step default default) (start {}) first).entries 0).slot.map
        (·.state.lastSequenceIdPublished) = some 0) ∧
      ((run (step default default) (start {}) (first ++ second)).entries 0).slot.map
        (·.state.lastSequenceIdPublished) = some (-1) := by
  decide +kernel

end Published

end Magnetar.Proto.Connection
