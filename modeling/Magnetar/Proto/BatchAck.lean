import Mathlib.Data.List.Range
import Magnetar.Proto.Pb

/-!
Contract: the per-entry set of batch positions that still owe an acknowledgement.

Owns: `BatchAckEntry` with the constructors a delivery and an acknowledgement use, clearing one
position or all up to one, membership of a position in the set each of these builds, and that a set
goes out and comes back unchanged.

Does not own: the table of entries, which deliveries and acknowledgements change.
-/

namespace Magnetar.Proto.BatchAck

/-- A batch's unacked positions as a bit set: bit `p % 64` of word `p / 64`. -/
structure BatchAckEntry where
  batchSize : Int
  unacked : List (BitVec 64)
  deriving DecidableEq, Repr

/-- `1u64 << (position % 64)`. -/
def positionMask (position : Nat) : BitVec 64 :=
  BitVec.twoPow 64 (position % 64)

variable (entry : BatchAckEntry)

variable (batchSize : Int)

variable (ackSet : List Int64)

variable (position : Int)

namespace BatchAckEntry

/-- The words the loop of `fresh` leaves after setting bits `0..size`. -/
def freshWords (words size : Nat) : List (BitVec 64) :=
  (List.range size).foldl
    (fun unacked index => unacked.modify (index / 64) (· ||| positionMask index))
    (List.replicate words 0)

def fresh : BatchAckEntry :=
  let size := batchSize.toNat
  { batchSize := batchSize, unacked := freshWords ((size + 63) / 64) size }

/-- The `index`-th delivered word; a word the broker did not send leaves every bit set. -/
def deliveredWord (index : Nat) : BitVec 64 :=
  (ackSet[index]?).elim (BitVec.allOnes 64) Int64.toBitVec

/-- The positions a dispatch surfaces: those of the batch that the delivered set still lists. -/
def fromDeliveredAckSet : BatchAckEntry :=
  let entry := fresh batchSize
  { entry with
    unacked := entry.unacked.mapIdx fun index word => word &&& deliveredWord ackSet index }

def intersectDelivered (entry delivered : BatchAckEntry) : BatchAckEntry :=
  { entry with
    unacked := entry.unacked.mapIdx fun index word =>
      word &&& (delivered.unacked[index]?).getD (BitVec.allOnes 64) }

/-- A negative position is out of range (`usize::try_from` falls back to `usize::MAX`). -/
def isUnacked : Bool :=
  match position with
  | .ofNat position =>
    (entry.unacked[position / 64]?).any fun word => word &&& positionMask position != 0
  | .negSucc _ => false

/-- The positions that a wire bit set lists.  A word it leaves out lists none. -/
def fromAckSet : BatchAckEntry :=
  if ackSet.isEmpty then fresh batchSize
  else
    let size := batchSize.toNat
    let words := (size + 63) / 64
    let listed := (ackSet.take words).map Int64.toBitVec
    let padded := listed ++ List.replicate (words - listed.length) 0
    let used := size % 64
    { batchSize := batchSize
      unacked :=
        if used = 0 then padded
        else padded.modify (words - 1) (· &&& (BitVec.twoPow 64 used - 1)) }

def clear : BatchAckEntry :=
  if position < 0 ∨ position ≥ entry.batchSize then entry
  else
    { entry with
      unacked := entry.unacked.modify (position.toNat / 64) (· &&& ~~~ positionMask position.toNat) }

def clearBefore : BatchAckEntry :=
  (List.range (min position entry.batchSize).toNat).foldl
    (fun entry (index : Nat) => entry.clear (index : Int)) entry

def isFullyAcked : Bool :=
  entry.unacked.all fun word => word == 0

def ackPosition : BatchAckEntry × Bool :=
  let entry := entry.clear position
  (entry, entry.isFullyAcked)

/-- Clear the positions up to `position`.  The clamp to the batch size hides that the sum
saturates. -/
def ackCumulative : BatchAckEntry × Bool :=
  let entry := entry.clearBefore (position + 1)
  (entry, entry.isFullyAcked)

def ackSetI64 : List Int64 :=
  entry.unacked.map Int64.ofBitVec

end BatchAckEntry

/-! ### Membership of a position -/

variable (words : List (BitVec 64))

def testPosition (position : Nat) : Bool :=
  (words[position / 64]?).any fun word => word.getLsbD (position % 64)

theorem and_positionMask_ne_zero (word : BitVec 64) (position : Nat) :
    (word &&& positionMask position != 0) = word.getLsbD (position % 64) := by
  have below : position % 64 < 64 := Nat.mod_lt _ (by decide)
  rw [positionMask, BitVec.and_twoPow]
  cases found : word.getLsbD (position % 64) with
  | false => simp
  | true =>
    simp only [if_true, bne_iff_ne, ne_eq]
    intro vanishes
    have bit := congrArg (fun value => value.getLsbD (position % 64)) vanishes
    simp [below] at bit

theorem testPosition_replicate_zero (words position : Nat) :
    testPosition (List.replicate words 0) position = false := by
  unfold testPosition
  rw [List.getElem?_replicate]
  split <;> simp

theorem testPosition_modify_or (added position : Nat) (inside : added / 64 < words.length) :
    testPosition (words.modify (added / 64) (· ||| positionMask added)) position =
      (testPosition words position || decide (position = added)) := by
  unfold testPosition
  by_cases sameWord : added / 64 = position / 64
  · obtain ⟨word, found⟩ : ∃ word, words[position / 64]? = some word :=
      ⟨words.get ⟨position / 64, sameWord ▸ inside⟩, List.getElem?_eq_getElem _⟩
    have below : position % 64 < 64 := Nat.mod_lt _ (by decide)
    have samePosition : position = added ↔ position % 64 = added % 64 := by omega
    simp [found, sameWord, positionMask, below, samePosition]
  · have differs : position ≠ added := fun equal => sameWord (equal ▸ rfl)
    simp [sameWord, differs]

theorem testPosition_modify_clear (cleared position : Nat) :
    testPosition (words.modify (cleared / 64) (· &&& ~~~ positionMask cleared)) position =
      (testPosition words position && decide (position ≠ cleared)) := by
  unfold testPosition
  rw [List.getElem?_modify]
  by_cases sameWord : cleared / 64 = position / 64
  · have below : position % 64 < 64 := Nat.mod_lt _ (by decide)
    have samePosition : position = cleared ↔ position % 64 = cleared % 64 := by omega
    cases words[position / 64]? <;> simp [sameWord, positionMask, below, samePosition]
  · have differs : position ≠ cleared := fun equal => sameWord (equal ▸ rfl)
    simp [sameWord, differs]

theorem testPosition_mapIdx_and (mask : Nat → BitVec 64) (position : Nat) :
    testPosition (words.mapIdx fun index word => word &&& mask index) position =
      (testPosition words position && (mask (position / 64)).getLsbD (position % 64)) := by
  unfold testPosition
  rw [List.getElem?_mapIdx]
  cases words[position / 64]? <;> simp

namespace BatchAckEntry

theorem isUnacked_natCast (position : Nat) :
    entry.isUnacked (position : Int) = testPosition entry.unacked position := by
  change (entry.unacked[position / 64]?).any _ = _
  simp only [and_positionMask_ne_zero, testPosition]

theorem freshWords_length (words size : Nat) : (freshWords words size).length = words := by
  induction size with
  | zero => simp [freshWords]
  | succ _ ih =>
    rw [freshWords, List.range_succ, List.foldl_append]
    simpa [freshWords] using ih

/-- The loop of `fresh` sets exactly the positions below its bound. -/
theorem testPosition_freshWords (words size position : Nat) (reaches : size ≤ 64 * words) :
    testPosition (freshWords words size) position = decide (position < size) := by
  induction size with
  | zero => exact (testPosition_replicate_zero words position).trans (by simp)
  | succ size ih =>
    have inside : size / 64 < (freshWords words size).length := by
      rw [freshWords_length]
      omega
    have unrolled : freshWords words (size + 1) =
        (freshWords words size).modify (size / 64) (· ||| positionMask size) := by
      simp [freshWords, List.range_succ]
    rw [unrolled, testPosition_modify_or _ _ _ inside, ih (by omega)]
    by_cases below : position < size <;> simp [below] <;> omega

/-- A dispatch surfaces a position of the batch exactly when its delivered bit is set, a bit of
a word the broker left out counting as set. -/
theorem isUnacked_fromDeliveredAckSet (position : Nat) :
    (fromDeliveredAckSet batchSize ackSet).isUnacked (position : Int) =
      (decide (position < batchSize.toNat) &&
        (deliveredWord ackSet (position / 64)).getLsbD (position % 64)) := by
  rw [isUnacked_natCast]
  change testPosition (List.mapIdx _ (freshWords _ _)) position = _
  rw [testPosition_mapIdx_and, testPosition_freshWords _ _ _ (by omega)]

theorem getLsbD_twoPow_sub_one {used bit : Nat} (narrow : used < 64) :
    (BitVec.twoPow 64 used - 1).getLsbD bit = decide (bit < used) := by
  have value : (BitVec.twoPow 64 used - 1).toNat = 2 ^ used - 1 := by
    have small : 2 ^ used < 2 ^ 64 := Nat.pow_lt_pow_right (by decide) narrow
    have positive : 0 < 2 ^ used := Nat.two_pow_pos used
    rw [BitVec.toNat_sub, BitVec.toNat_twoPow, Nat.mod_eq_of_lt small]
    show (2 ^ 64 - 1 + 2 ^ used) % 2 ^ 64 = 2 ^ used - 1
    omega
  rw [BitVec.getLsbD, value, Nat.testBit_two_pow_sub_one]

theorem testPosition_modify_and (place position : Nat) (mask : BitVec 64) :
    testPosition (words.modify place (· &&& mask)) position =
      (testPosition words position &&
        (decide (place ≠ position / 64) || mask.getLsbD (position % 64))) := by
  unfold testPosition
  rw [List.getElem?_modify]
  by_cases same : place = position / 64
  · cases words[position / 64]? <;> simp [same]
  · cases words[position / 64]? <;> simp [same]

/-- A wire bit set cut or padded to a number of words. -/
theorem testPosition_padded (words position : Nat) :
    testPosition ((ackSet.take words).map Int64.toBitVec ++
        List.replicate (words - ((ackSet.take words).map Int64.toBitVec).length) 0) position =
      (decide (position / 64 < words) &&
        (ackSet[position / 64]?).any fun word => word.toBitVec.getLsbD (position % 64)) := by
  have length : ((ackSet.take words).map Int64.toBitVec).length = min words ackSet.length := by
    simp
  unfold testPosition
  rw [List.getElem?_append]
  split
  · have inside : position / 64 < words := by omega
    rw [List.getElem?_map, List.getElem?_take, if_pos inside, decide_eq_true inside]
    cases ackSet[position / 64]? <;> simp
  · rw [List.getElem?_replicate]
    by_cases inside : position / 64 < words
    · have absent : ackSet[position / 64]? = none := List.getElem?_eq_none (by omega)
      rw [absent]
      split <;> simp
    · rw [if_neg (by omega), decide_eq_false inside]
      rfl

/-- A wire bit set lists the positions of its words, as far as the batch reaches. -/
theorem isUnacked_fromAckSet {ackSet : List Int64} (filled : ackSet ≠ []) (position : Nat) :
    (fromAckSet batchSize ackSet).isUnacked (position : Int) =
      (decide (position < batchSize.toNat) &&
        (ackSet[position / 64]?).any fun word => word.toBitVec.getLsbD (position % 64)) := by
  have padded := testPosition_padded ackSet ((batchSize.toNat + 63) / 64) position
  rw [isUnacked_natCast]
  unfold fromAckSet
  rw [if_neg (by simpa using filled)]
  dsimp only
  by_cases even : batchSize.toNat % 64 = 0
  · have reaches : position / 64 < (batchSize.toNat + 63) / 64 ↔ position < batchSize.toNat := by
      omega
    rw [if_pos even, padded]
    simp only [reaches]
  · rw [if_neg even, testPosition_modify_and, padded,
      getLsbD_twoPow_sub_one (Nat.mod_lt _ (by decide))]
    have reaches : position < batchSize.toNat ↔ position / 64 < (batchSize.toNat + 63) / 64 ∧
        ((batchSize.toNat + 63) / 64 - 1 ≠ position / 64 ∨
          position % 64 < batchSize.toNat % 64) := by
      omega
    rw [decide_eq_decide.mpr reaches, Bool.decide_and, Bool.decide_or, Bool.and_right_comm]

/-- The two readings of a bit set agree unless it leaves a word of the batch out. -/
theorem fromAckSet_agrees_iff :
    (∀ position < batchSize.toNat,
        (fromAckSet batchSize ackSet).isUnacked (position : Int) =
          (fromDeliveredAckSet batchSize ackSet).isUnacked (position : Int)) ↔
      ackSet = [] ∨ batchSize.toNat ≤ 64 * ackSet.length := by
  constructor
  · intro agree
    by_contra apart
    rw [not_or, not_le] at apart
    have agree := agree (64 * ackSet.length) apart.2
    have absent : ackSet[64 * ackSet.length / 64]? = none := List.getElem?_eq_none (by omega)
    have bit : 64 * ackSet.length % 64 < 64 := Nat.mod_lt _ (by decide)
    rw [isUnacked_fromAckSet batchSize apart.1, isUnacked_fromDeliveredAckSet, deliveredWord,
      absent, Option.elim_none, BitVec.getLsbD_allOnes, decide_eq_true bit,
      decide_eq_true apart.2] at agree
    cases agree
  · rintro covered position inside
    by_cases empty : ackSet = []
    · subst empty
      have bit : position % 64 < 64 := Nat.mod_lt _ (by decide)
      have listed : (fromAckSet batchSize []).isUnacked (position : Int) = true := by
        rw [isUnacked_natCast]
        exact (testPosition_freshWords _ _ _ (by omega)).trans (decide_eq_true inside)
      rw [listed, isUnacked_fromDeliveredAckSet, decide_eq_true inside]
      show true = (BitVec.allOnes 64).getLsbD (position % 64)
      rw [BitVec.getLsbD_allOnes, decide_eq_true bit]
    · have reached : position / 64 < ackSet.length := by
        rcases covered with rfl | covered
        · exact absurd rfl empty
        · omega
      rw [isUnacked_fromAckSet batchSize empty, isUnacked_fromDeliveredAckSet, deliveredWord,
        List.getElem?_eq_getElem reached]
      rfl

theorem batchSize_clear : (entry.clear position).batchSize = entry.batchSize := by
  unfold clear
  split <;> rfl

theorem length_clear : (entry.clear position).unacked.length = entry.unacked.length := by
  unfold clear
  split
  · rfl
  · exact List.length_modify _ _ _

/-- A set holds positions of its batch only. -/
def Bounded : Prop :=
  ∀ position : Nat, testPosition entry.unacked position = true → (position : Int) < entry.batchSize

theorem testPosition_clear {entry : BatchAckEntry} (bounded : entry.Bounded) {cleared : Int}
    (positive : 0 ≤ cleared) (position : Nat) :
    testPosition (entry.clear cleared).unacked position =
      (testPosition entry.unacked position && decide ((position : Int) ≠ cleared)) := by
  unfold clear
  by_cases outside : cleared < 0 ∨ cleared ≥ entry.batchSize
  · rw [if_pos outside]
    cases listed : testPosition entry.unacked position with
    | false => rfl
    | true =>
      have inside := bounded position listed
      exact (decide_eq_true (by omega)).symm
  · rw [if_neg outside, testPosition_modify_clear]
    have same : position = cleared.toNat ↔ (position : Int) = cleared := by omega
    simp only [ne_eq, same]

theorem Bounded.clear {entry : BatchAckEntry} (bounded : entry.Bounded) {cleared : Int}
    (positive : 0 ≤ cleared) : (entry.clear cleared).Bounded := by
  intro position listed
  rw [testPosition_clear bounded positive, Bool.and_eq_true] at listed
  rw [batchSize_clear]
  exact bounded position listed.1

/-- The loop of `clearBefore` removes the positions below its bound. -/
theorem clear_range {entry : BatchAckEntry} (bounded : entry.Bounded) (bound : Nat) :
    let cleared := (List.range bound).foldl (fun entry (index : Nat) => entry.clear (index : Int)) entry
    cleared.Bounded ∧ cleared.batchSize = entry.batchSize ∧
      cleared.unacked.length = entry.unacked.length ∧
      ∀ position, testPosition cleared.unacked position =
        (testPosition entry.unacked position && decide (bound ≤ position)) := by
  induction bound with
  | zero => exact ⟨bounded, rfl, rfl, by simp⟩
  | succ _ ih =>
    obtain ⟨kept, size, length, cleared⟩ := ih
    rw [List.range_succ, List.foldl_append]
    refine ⟨kept.clear (by omega), (batchSize_clear _ _).trans size,
      (length_clear _ _).trans length, ?_⟩
    intro position
    rw [List.foldl_cons, List.foldl_nil, testPosition_clear kept (by omega), cleared,
      Bool.and_assoc]
    congr 1
    rw [← Bool.decide_and, decide_eq_decide]
    omega

theorem isFullyAcked_iff :
    entry.isFullyAcked = true ↔ ∀ position, testPosition entry.unacked position = false := by
  unfold isFullyAcked
  rw [List.all_eq_true]
  constructor
  · intro zero position
    unfold testPosition
    cases found : entry.unacked[position / 64]? with
    | none => rfl
    | some word =>
      have vanishes := zero word (List.mem_of_getElem? found)
      rw [beq_iff_eq] at vanishes
      simp [vanishes]
  · intro clear word member
    obtain ⟨index, found⟩ := List.mem_iff_getElem?.mp member
    rw [beq_iff_eq]
    apply BitVec.eq_of_getLsbD_eq
    intro bit below
    have read := clear (64 * index + bit)
    have quotient : (64 * index + bit) / 64 = index := by omega
    have remainder : (64 * index + bit) % 64 = bit := by omega
    rw [testPosition, quotient, remainder, found] at read
    simpa using read

theorem testPosition_ackSetI64 (position : Nat) :
    testPosition (entry.ackSetI64.map Int64.toBitVec) position =
      testPosition entry.unacked position := by
  have same : entry.ackSetI64.map Int64.toBitVec = entry.unacked := by
    rw [ackSetI64, List.map_map]
    exact List.map_id _
  rw [same]

theorem length_fromDeliveredAckSet :
    (fromDeliveredAckSet batchSize ackSet).unacked.length = (batchSize.toNat + 63) / 64 := by
  change (List.mapIdx _ (freshWords _ _)).length = _
  rw [List.length_mapIdx, freshWords_length]

/-- With as many words on both sides the merge is the intersection. -/
theorem testPosition_intersectDelivered {entry delivered : BatchAckEntry}
    (sameLength : delivered.unacked.length = entry.unacked.length) (position : Nat) :
    testPosition (entry.intersectDelivered delivered).unacked position =
      (testPosition entry.unacked position && testPosition delivered.unacked position) := by
  change testPosition (List.mapIdx _ entry.unacked) position = _
  rw [testPosition_mapIdx_and entry.unacked
    (fun index => (delivered.unacked[index]?).getD (BitVec.allOnes 64)) position]
  by_cases inside : position / 64 < entry.unacked.length
  · congr 1
    unfold testPosition
    rw [List.getElem?_eq_getElem (sameLength ▸ inside)]
    rfl
  · have outside : testPosition entry.unacked position = false := by
      unfold testPosition
      rw [List.getElem?_eq_none (by omega)]
      rfl
    rw [outside]
    rfl

/-- The words reach as far as the batch does, and no bit past it is set. -/
structure WellFormed : Prop where
  length : entry.unacked.length = (entry.batchSize.toNat + 63) / 64
  bounded : entry.Bounded

namespace WellFormed

theorem of_delivered : (fromDeliveredAckSet batchSize ackSet).WellFormed := by
  refine ⟨length_fromDeliveredAckSet batchSize ackSet, ?_⟩
  intro position listed
  rw [← isUnacked_natCast, isUnacked_fromDeliveredAckSet, Bool.and_eq_true,
    decide_eq_true_eq] at listed
  show (position : Int) < batchSize
  omega

theorem of_ackSet : (fromAckSet batchSize ackSet).WellFormed := by
  by_cases empty : ackSet = []
  · subst empty
    refine ⟨freshWords_length _ _, ?_⟩
    intro position listed
    have inside : position < batchSize.toNat :=
      of_decide_eq_true ((testPosition_freshWords _ _ _ (by omega)).symm.trans listed)
    show (position : Int) < batchSize
    omega
  · have size : (fromAckSet batchSize ackSet).batchSize = batchSize := by
      unfold fromAckSet
      split <;> rfl
    refine ⟨?_, ?_⟩
    · rw [size]
      unfold fromAckSet
      rw [if_neg (by simpa using empty)]
      dsimp only
      split <;> simp only [List.length_modify, List.length_append, List.length_replicate,
        List.length_map, List.length_take] <;> omega
    · intro position listed
      rw [← isUnacked_natCast, isUnacked_fromAckSet batchSize empty, Bool.and_eq_true,
        decide_eq_true_eq] at listed
      rw [size]
      omega

variable {entry} (formed : entry.WellFormed)

include formed

theorem intersectDelivered (delivered : BatchAckEntry) :
    (entry.intersectDelivered delivered).WellFormed := by
  refine ⟨(List.length_mapIdx ..).trans formed.length, ?_⟩
  intro position listed
  change testPosition (List.mapIdx _ entry.unacked) position = true at listed
  rw [testPosition_mapIdx_and entry.unacked
    (fun index => (delivered.unacked[index]?).getD (BitVec.allOnes 64)), Bool.and_eq_true] at listed
  exact formed.bounded position listed.1

theorem clear {cleared : Int} (positive : 0 ≤ cleared) : (entry.clear cleared).WellFormed := by
  refine ⟨?_, formed.bounded.clear positive⟩
  rw [length_clear, batchSize_clear]
  exact formed.length

theorem clearBefore : (entry.clearBefore position).WellFormed := by
  obtain ⟨bounded, size, length, _⟩ := clear_range formed.bounded
    (min position entry.batchSize).toNat
  exact ⟨length.trans (size.symm ▸ formed.length), bounded⟩

/-- The words of a set, come back with a dispatch, list what the set lists. -/
theorem delivered_back (position : Nat) :
    (fromDeliveredAckSet entry.batchSize entry.ackSetI64).isUnacked position =
      entry.isUnacked position := by
  have length := formed.length
  have bounded := formed.bounded position
  rw [isUnacked_fromDeliveredAckSet, isUnacked_natCast]
  unfold testPosition at bounded ⊢
  cases found : entry.unacked[position / 64]? with
  | none =>
    -- The words end behind the batch.
    have past := List.getElem?_eq_none_iff.mp found
    simp [show ¬ position < entry.batchSize.toNat by omega]
  | some word =>
    have same : deliveredWord entry.ackSetI64 (position / 64) = word := by
      simp [deliveredWord, ackSetI64, found]
    rw [found, Option.any_some] at bounded
    rw [same, Option.any_some, Bool.and_eq_right_iff_imp, decide_eq_true_iff]
    intro set
    have := bounded set
    omega

end WellFormed

end BatchAckEntry

end Magnetar.Proto.BatchAck
