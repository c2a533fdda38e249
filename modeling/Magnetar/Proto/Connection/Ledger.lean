import Magnetar.Proto.Connection.Order
import Magnetar.Proto.Connection.Settlement

/-!
Contract: the ledger of a producer's sends.

Owns: that every accepted send is set aside, pending or settled, in one place only and settled once
only, over every run that drops no send and sweeps no stray waker.

Does not own: which outcome a send gets.
-/

namespace Magnetar.Proto.Connection

open Library.Machine Pb External Producer ProducerEntry ProducerSide

variable {single : Prost SingleMessageMetadata} {codecs : Codecs}

/-- The sends minted are those without an outcome and those with one.  The producers that had the
handle before have settled theirs, each once. -/
structure Ledger (entry : ProducerEntry) : Prop where
  layout : Layout entry
  growing : Growing entry
  balanced : (mintedIds entry.log).Perm (entry.unsettledIds ++ resolvedIds entry.log)
  past : ∀ log ∈ entry.past, (resolvedIds log).Nodup ∧ (resolvedIds log).Perm (mintedIds log)

/-- No send is dropped without an outcome, and the slab holds wakers of unsettled sends only when
the connection ends. -/
def keepsAccount (entry : ProducerEntry) : EntryOp → Bool
  | .create _ _ _ => entry.unsettledIds.isEmpty
  | .failAll _ => entry.slab.keys.all entry.unsettledIds.contains
  | op => (entry.lostIds op).isEmpty

namespace Ledger

variable {entry before after : ProducerEntry}

theorem distinct (ledger : Ledger entry) : (entry.unsettledIds ++ resolvedIds entry.log).Nodup :=
  ledger.balanced.nodup_iff.mp (ledger.growing.increasing.imp Nat.ne_of_lt)

theorem conclude (ledger : Ledger before) {settled : List (Nat × OpOutcome)}
    (concludes : Concludes before after settled []) (layout : Layout after)
    (growing : Growing after) : Ledger after := by
  obtain ⟨events, log, replies, resolved⟩ := concludes.log
  have minted : mintedIds after.log = mintedIds before.log := by
    rw [log, mintedIds_append, mintedIds_incidental replies.incidental, List.append_nil]
  have settledIds : resolvedIds after.log = resolvedIds before.log ++ settled.map Prod.fst := by
    rw [log, resolvedIds_append, resolvedIds, resolvedIds, resolved]
  refine ⟨layout, growing, ?_, concludes.past ▸ ledger.past⟩
  rw [minted, settledIds]
  refine ledger.balanced.trans ?_
  have taken := List.perm_iff_count.mp concludes.unsettled
  rw [List.perm_iff_count]
  intro id
  have one := taken id
  simp only [List.count_append, List.count_nil] at one ⊢
  omega

theorem still (ledger : Ledger before) (layout : Layout after) (growing : Growing after)
    (minted : mintedIds after.log = mintedIds before.log)
    (resolved : resolvedIds after.log = resolvedIds before.log)
    (unsettled : after.unsettledIds = before.unsettledIds) (past : after.past = before.past) :
    Ledger after := by
  refine ⟨layout, growing, ?_, past ▸ ledger.past⟩
  rw [minted, resolved, unsettled]
  exact ledger.balanced

section

variable (ledger : Ledger entry)

include ledger

theorem create (clear : entry.unsettledIds = [])
    (handle maxMessageSize : Nat) (req : CreateProducerRequest)
    (growing : Growing (entry.create handle maxMessageSize req)) :
    Ledger (entry.create handle maxMessageSize req) := by
  have empty : entry.snapshots = [] :=
    (List.append_eq_nil_iff.mp (List.map_eq_nil_iff.mp clear)).1
  obtain ⟨-, -, pending, -⟩ := createProducer_state handle maxMessageSize req
  have nothing : (entry.create handle maxMessageSize req).unsettledIds = [] := by
    have kept : (entry.create handle maxMessageSize req).snapshots = [] := empty
    rw [unsettledIds_of_some rfl, ProducerState.pendingIds, pending, kept]
    rfl
  refine ⟨.create empty handle maxMessageSize req, growing, ?_, ?_⟩
  · rw [nothing]
    exact List.Perm.refl _
  · have balanced := ledger.balanced
    have distinct := ledger.distinct
    rw [clear, List.nil_append] at balanced distinct
    intro log member
    rcases List.mem_append.mp member with older | newest
    · exact ledger.past log older
    · rw [List.mem_singleton.mp newest]
      exact ⟨distinct, balanced.symm⟩

theorem attach (producerName : String) (lastSequenceId : Option Int)
    (layout : Layout (entry.attach producerName lastSequenceId))
    (growing : Growing (entry.attach producerName lastSequenceId)) :
    Ledger (entry.attach producerName lastSequenceId) := by
  have past : (entry.attach producerName lastSequenceId).past = entry.past := by
    unfold ProducerEntry.attach
    split <;> rfl
  have log : ∃ events, (entry.attach producerName lastSequenceId).log = entry.log ++ events ∧
      mintedIds events = [] ∧ resolvedIds events = [] := by
    unfold ProducerEntry.attach
    split
    · exact ⟨[], (List.append_nil _).symm, rfl, rfl⟩
    · exact ⟨_, rfl, rfl, rfl⟩
  obtain ⟨events, log, minted, resolved⟩ := log
  refine ledger.still layout growing ?_ ?_ (entry.attach_unsettledIds _ _) past
  · rw [log, mintedIds_append, minted, List.append_nil]
  · rw [log, resolvedIds_append, resolved, List.append_nil]

theorem queueSend (msg : OutgoingMessage) (uuid : String) (reservation publishTimeMs now : Nat)
    (layout : Layout (entry.queueSend single codecs msg uuid reservation publishTimeMs now))
    (growing : Growing (entry.queueSend single codecs msg uuid reservation publishTimeMs now)) :
    Ledger (entry.queueSend single codecs msg uuid reservation publishTimeMs now) := by
  rcases entry.queueSend_concludes msg uuid reservation publishTimeMs now with
    rejected | ⟨record, slot, log, unsettled, past⟩
  · exact ledger.conclude rejected layout growing
  · refine ⟨layout, growing, ?_, past ▸ ledger.past⟩
    rw [log, unsettled, mintedIds_append, resolvedIds_append]
    have balanced := List.perm_iff_count.mp ledger.balanced
    rw [List.perm_iff_count]
    intro id
    have one := balanced id
    have minted : mintedIds [SendEvent.minted record.state.nextSequenceId msg] =
        [record.state.nextSequenceId] := rfl
    have resolved : resolvedIds [SendEvent.minted record.state.nextSequenceId msg] = [] := rfl
    rw [minted, resolved]
    simp only [List.count_append, List.count_nil] at one ⊢
    omega

theorem poll (layout : Layout entry.pollTransmit)
    (growing : Growing entry.pollTransmit) : Ledger entry.pollTransmit := by
  have silent : resolvedIds (entry.buffered.map SendEvent.ofReleased) = [] := by
    rw [resolvedIds, resolutions, List.filterMap_map, List.map_eq_nil_iff,
      List.filterMap_eq_nil_iff]
    exact fun _ _ => rfl
  refine ledger.still layout growing ?_ ?_ rfl rfl
  · change mintedIds (entry.log ++ _) = _
    rw [mintedIds_append, mintedIds, mintedIds, (polled_silent entry.buffered).1]
    exact List.append_nil _
  · change resolvedIds (entry.log ++ _) = _
    rw [resolvedIds_append, silent, List.append_nil]

theorem step {op : EntryOp} (regular : unwrapped entry op = true)
    (kept : keepsAccount entry op = true) : Ledger (entryStep single codecs entry op) := by
  have layout : Layout (entryStep single codecs entry op) := ledger.layout.step regular
  have growing : Growing (entryStep single codecs entry op) := ledger.growing.step regular
  cases accounted : op.isAccounted with
  | true =>
    obtain ⟨settled, concludes, -⟩ := entryStep_concludes entry ledger.layout.indexed accounted
    have none : entry.lostIds op = [] := by
      cases op <;> first | rfl | exact List.isEmpty_iff.mp kept
    rw [none] at concludes
    exact ledger.conclude concludes layout growing
  | false =>
    cases op with
    | create => exact ledger.create (List.isEmpty_iff.mp kept) _ _ _ growing
    | attach => exact ledger.attach _ _ layout growing
    | queueSend => exact ledger.queueSend _ _ _ _ _ layout growing
    | pollTransmit => exact ledger.poll layout growing
    | failAll reason =>
      obtain ⟨settled, concludes⟩ := failAll_concludes entry reason (by
        intro key member
        exact List.contains_iff_mem.mp (List.all_eq_true.mp kept key (AList.mem_keys.mp member)))
      exact ledger.conclude concludes layout growing
    | _ => cases accounted

end

end Ledger

section Accounts

variable (single codecs)

/-- Every send a producer has accepted is set aside, pending or settled, exactly one of the three,
and no send is settled twice.  The producers that had the handle before have settled every send. -/
theorem sends_accounted_once (config : ProducerConfig) (handle : Nat) (ops : List Op)
    (fits : Guarded (step single codecs) (fun side op => side.countersFit handle op = true)
      (start config) ops) (kept : Guarded (step single codecs)
      (GuardedAt single codecs (fun entry op => keepsAccount entry op = true) handle)
      (start config) ops) :
    let entry := (run (step single codecs) (start config) ops).entries handle
    let aside := entry.snapshots.map (·.sequenceId)
    let pending := (entry.slot.map (·.state.pendingIds)).getD []
    (∀ id ∈ mintedIds entry.log,
        aside.count id + pending.count id + (resolvedIds entry.log).count id = 1) ∧
      (resolvedIds entry.log).Nodup ∧
      ∀ log ∈ entry.past, (resolvedIds log).Nodup ∧ (resolvedIds log).Perm (mintedIds log) := by
  intro entry aside pending
  have ledger : Ledger entry :=
    run_guarded_invariant (start_reserved config) fits Ledger
      (fun _ _ ledger regular meets => ledger.step regular meets)
      ⟨.empty, ⟨List.Pairwise.nil, by simp [start]⟩, List.Perm.refl _, by simp [start]⟩ kept
  have split : entry.unsettledIds = aside ++ pending := by
    cases found : entry.slot with
    | none => simp [unsettledIds_of_none found, aside, pending, found]
    | some => simp [unsettledIds_of_some found, aside, pending, found]
  refine ⟨?_, (List.nodup_append.mp ledger.distinct).2.1, ledger.past⟩
  intro id member
  have once : (mintedIds entry.log).count id = 1 :=
    List.count_eq_one_of_mem (ledger.growing.increasing.imp Nat.ne_of_lt) member
  have balanced := List.perm_iff_count.mp ledger.balanced id
  rw [split, once] at balanced
  simp only [List.count_append] at balanced
  omega

/-- Two sends are replayed after a reset, and both are settled. -/
theorem sends_accounted_after_replay :
    (resolvedIds ((run (step default default) (start {}) (opening plainOpen none ++
      [sending [], sending [], .reset, .rebuildProducer 0, .frame 1 (.connected none),
        .frame 1 (.producerSuccess 1 "p" none),
        .frame 2 (.sendReceipt { producerId := 0, sequenceId := 0 }),
        .failAllPending "closed"])).entries 0).log).Nodup :=
  (sends_accounted_once default default {} 0 _ (by decide +kernel) (by decide +kernel)).2.1

/-- A producer closed between a reset and the rebuild loses the sends set aside for it. -/
theorem rebuild_drops_closed_sends :
    let entry := (run (step default default) (start {}) (opening plainOpen none ++
      [sending [], .reset, .closeProducer 0 false, .rebuildProducer 0])).entries 0
    mintedIds entry.log = [0] ∧ entry.unsettledIds = [] ∧ resolvedIds entry.log = [] := by
  decide +kernel

end Accounts

end Magnetar.Proto.Connection
