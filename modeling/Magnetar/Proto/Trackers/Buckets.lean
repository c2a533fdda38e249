import Mathlib.Data.List.Nodup
import Magnetar.Library.Table
import Magnetar.Proto.Trackers.Unacked

/-!
Contract: the ids that the buckets of an acknowledgement-timeout tracker hold.

Owns: the deadline that a list of buckets gives an id, what changing one bucket does to it, the
agreement of a locator with the buckets it points into, and the ids that are due by a deadline of
their own.

Does not own: the calls that move ids (`Trackers.Located`).
-/

namespace Magnetar.Proto.Trackers.Unacked

open Library Pb UnackedMessageTracker

variable {buckets : List Bucket} {messageId : MessageId}

/-! ### Ids in buckets -/

variable (buckets messageId)

/-- The deadline of the first bucket that holds an id. -/
def bucketDue : Option Nat :=
  (buckets.find? fun bucket => decide (messageId ∈ bucket.ids)).map Bucket.deadline

/-- Some bucket with this deadline holds the id. -/
def Holds (due : Nat) : Prop :=
  ∃ bucket ∈ buckets, messageId ∈ bucket.ids ∧ bucket.deadline = due

def heldIds : List MessageId :=
  buckets.flatMap Bucket.ids

variable {buckets messageId}

theorem bucketDue_eq_none : bucketDue buckets messageId = none ↔ messageId ∉ heldIds buckets := by
  simp [bucketDue, heldIds]

theorem bucketDue_append (first second : List Bucket) (messageId : MessageId) :
    bucketDue (first ++ second) messageId =
      (bucketDue first messageId).or (bucketDue second messageId) := by
  rw [bucketDue, List.find?_append, Option.map_or, bucketDue, bucketDue]

theorem bucketDue_cons (bucket : Bucket) (rest : List Bucket) (messageId : MessageId) :
    bucketDue (bucket :: rest) messageId =
      if messageId ∈ bucket.ids then some bucket.deadline else bucketDue rest messageId := by
  by_cases inside : messageId ∈ bucket.ids <;> simp [bucketDue, inside]

theorem bucketDue_nil (messageId : MessageId) : bucketDue [] messageId = none :=
  rfl

theorem heldIds_cons (bucket : Bucket) (rest : List Bucket) :
    heldIds (bucket :: rest) = bucket.ids ++ heldIds rest := by
  simp [heldIds]

theorem heldIds_append (first second : List Bucket) :
    heldIds (first ++ second) = heldIds first ++ heldIds second := by
  simp [heldIds]

theorem holds_of_bucketDue {due : Nat}
    (found : bucketDue buckets messageId = some due) : Holds buckets messageId due := by
  obtain ⟨bucket, first, same⟩ := Option.map_eq_some_iff.mp found
  exact ⟨bucket, List.mem_of_find?_eq_some first, by simpa using List.find?_some first, same⟩

/-- An id that no two buckets hold has the deadline of the bucket that holds it. -/
theorem bucketDue_eq_some {due : Nat} (distinct : (heldIds buckets).Nodup) :
    bucketDue buckets messageId = some due ↔ Holds buckets messageId due := by
  induction buckets with
  | nil => simp [bucketDue, Holds]
  | cons bucket rest ih =>
    rw [heldIds_cons, List.nodup_append] at distinct
    obtain ⟨_, restDistinct, apart⟩ := distinct
    by_cases inside : messageId ∈ bucket.ids
    · have notLater : ∀ other ∈ rest, messageId ∉ other.ids := by
        intro other member again
        exact apart _ inside _ (List.mem_flatMap.mpr ⟨other, member, again⟩) rfl
      rw [bucketDue_cons, if_pos inside]
      simp only [Option.some.injEq, Holds, List.mem_cons, exists_eq_or_imp, inside, true_and]
      constructor
      · exact .inl
      · rintro (same | ⟨other, member, again, _⟩)
        · exact same
        · exact absurd again (notLater other member)
    · rw [bucketDue_cons, if_neg inside, ih restDistinct]
      simp [Holds, inside]

theorem modify_length_append {α : Type*} (earlier : List α) (place : α) (later : List α)
    (update : α → α) :
    (earlier ++ place :: later).modify earlier.length update = earlier ++ update place :: later := by
  rw [List.modify_eq_take_cons_drop (by simp)]
  simp

section Modify

variable (update : Bucket → Bucket)

theorem heldIds_modify (fewer : ∀ bucket, (update bucket).ids.Sublist bucket.ids)
    (buckets : List Bucket) (index : Nat) :
    (heldIds (buckets.modify index update)).Sublist (heldIds buckets) := by
  induction buckets generalizing index with
  | nil => simp [heldIds]
  | cons bucket _ ih =>
    cases index with
    | zero =>
      rw [List.modify_zero_cons, heldIds_cons, heldIds_cons]
      exact (fewer bucket).append (List.Sublist.refl _)
    | succ index =>
      rw [List.modify_succ_cons, heldIds_cons, heldIds_cons]
      exact (List.Sublist.refl _).append (ih index)

theorem bucketDue_modify (same : ∀ bucket, (update bucket).deadline = bucket.deadline)
    (others : ∀ bucket, messageId ∈ (update bucket).ids ↔ messageId ∈ bucket.ids)
    (buckets : List Bucket) (index : Nat) :
    bucketDue (buckets.modify index update) messageId = bucketDue buckets messageId := by
  induction buckets generalizing index with
  | nil => simp
  | cons _ _ ih =>
    cases index with
    | zero => simp [bucketDue_cons, same, others]
    | succ => simp [bucketDue_cons, ih]

theorem deadlines_modify (same : ∀ bucket, (update bucket).deadline = bucket.deadline)
    (buckets : List Bucket) (index : Nat) :
    (buckets.modify index update).map Bucket.deadline = buckets.map Bucket.deadline := by
  induction buckets generalizing index with
  | nil => simp
  | cons _ _ ih =>
    cases index with
    | zero => simp [same]
    | succ => simp [ih]

end Modify

/-! ### The locator -/

/-- The locator names the bucket of every id that is in one. -/
def Indexes (buckets : List Bucket) (locator : AList (fun _ : MessageId => Nat)) : Prop :=
  ∀ messageId index, locator.lookup messageId = some index ↔
    ∃ bucket, buckets[index]? = some bucket ∧ messageId ∈ bucket.ids

theorem Indexes.mem_iff {locator : AList (fun _ : MessageId => Nat)}
    (indexes : Indexes buckets locator) (messageId : MessageId) :
    messageId ∈ locator ↔ messageId ∈ heldIds buckets := by
  rw [← AList.lookup_isSome, Option.isSome_iff_exists]
  simp only [indexes messageId, heldIds, List.mem_flatMap]
  constructor
  · rintro ⟨index, bucket, found, inside⟩
    exact ⟨bucket, List.mem_of_getElem? found, inside⟩
  · rintro ⟨bucket, member, inside⟩
    obtain ⟨index, found⟩ := List.getElem?_of_mem member
    exact ⟨index, bucket, found, inside⟩

theorem lookup_foldl_insert (ids : List MessageId) (index : Nat)
    (locator : AList (fun _ : MessageId => Nat)) (messageId : MessageId) :
    (ids.foldl (fun kept id => kept.insert id index) locator).lookup messageId =
      if messageId ∈ ids then some index else locator.lookup messageId := by
  induction ids generalizing locator with
  | nil => simp
  | cons id rest ih =>
    rw [List.foldl_cons, ih]
    by_cases later : messageId ∈ rest
    · simp [later]
    · by_cases same : messageId = id
      · subst same
        simp [later]
      · simp [later, same, AList.lookup_insert_ne same]

/-- A rebuilt locator reads the buckets, the first of which stands at `index`. -/
theorem lookup_relocate (distinct : (heldIds buckets).Nodup)
    (index : Nat) (locator : AList (fun _ : MessageId => Nat)) (messageId : MessageId)
    (place : Nat) :
    (relocate index buckets locator).lookup messageId = some place ↔
      (∃ offset bucket, place = index + offset ∧ buckets[offset]? = some bucket ∧
        messageId ∈ bucket.ids) ∨
      (messageId ∉ heldIds buckets ∧ locator.lookup messageId = some place) := by
  induction buckets generalizing index locator with
  | nil => simp [relocate, heldIds]
  | cons bucket rest ih =>
    rw [heldIds_cons, List.nodup_append] at distinct
    obtain ⟨_, restDistinct, apart⟩ := distinct
    rw [relocate, ih restDistinct, lookup_foldl_insert,
      heldIds_cons, List.mem_append]
    constructor
    · rintro (⟨offset, other, rfl, found, inside⟩ | ⟨notLater, found⟩)
      · exact .inl ⟨offset + 1, other, by omega, found, inside⟩
      · by_cases here : messageId ∈ bucket.ids
        · rw [if_pos here, Option.some.injEq] at found
          exact .inl ⟨0, bucket, by omega, rfl, here⟩
        · rw [if_neg here] at found
          exact .inr ⟨fun either => either.elim here notLater, found⟩
    · rintro (⟨offset, other, rfl, found, inside⟩ | ⟨nowhere, found⟩)
      · cases offset with
        | zero =>
          have same : bucket = other := by simpa using found
          subst same
          have notLater : messageId ∉ heldIds rest := fun again => apart _ inside _ again rfl
          exact .inr ⟨notLater, by rw [if_pos inside, Nat.add_zero]⟩
        | succ offset => exact .inl ⟨offset, other, by omega, by simpa using found, inside⟩
      · rw [not_or] at nowhere
        exact .inr ⟨nowhere.2, by rw [if_neg nowhere.1]; exact found⟩

theorem relocate_indexes (distinct : (heldIds buckets).Nodup) :
    Indexes buckets (relocate 0 buckets ∅) := by
  intro messageId place
  rw [lookup_relocate distinct]
  constructor
  · rintro (⟨offset, bucket, rfl, found, inside⟩ | ⟨_, found⟩)
    · exact ⟨bucket, by simpa using found, inside⟩
    · simp at found
  · rintro ⟨bucket, found, inside⟩
    exact .inl ⟨place, bucket, by omega, found, inside⟩

/-! ### Deadlines of their own -/

theorem mem_dueIn {pending : AList (fun _ : MessageId => Nat)} {now : Nat} :
    messageId ∈ dueIn pending now ↔
      ((pending.lookup messageId).any fun due => decide (due ≤ now)) = true := by
  rw [dueIn, List.mem_filterMap, Option.any_eq_true]
  constructor
  · rintro ⟨⟨other, due⟩, member, elapsed⟩
    obtain ⟨late, rfl⟩ : due ≤ now ∧ other = messageId := by simpa using elapsed
    exact ⟨due, AList.mem_lookup_iff.mpr member, decide_eq_true late⟩
  · rintro ⟨due, found, elapsed⟩
    have late : due ≤ now := of_decide_eq_true elapsed
    exact ⟨⟨messageId, due⟩, AList.mem_lookup_iff.mp found, by simp [late]⟩

section

variable (pending : AList (fun _ : MessageId => Nat))

include pending

theorem dueIn_nodup (now : Nat) : (dueIn pending now).Nodup := by
  have keys : (dueIn pending now).Sublist pending.keys := by
    unfold dueIn AList.keys List.keys
    rw [← List.filterMap_eq_map]
    induction pending.entries with
    | nil => simp
    | cons entry _ ih =>
      by_cases late : entry.2 ≤ now
      · simpa [late] using ih
      · simpa [late] using ih.cons entry.1
  exact pending.keys_nodup.sublist keys

theorem count_dueIn (now : Nat) (messageId : MessageId) :
    (dueIn pending now).count messageId =
      if (pending.lookup messageId).any fun due => decide (due ≤ now) then 1
      else 0 := by
  rw [(dueIn_nodup pending now).count]
  simp only [mem_dueIn]

theorem lookup_erase_dueIn (now : Nat) (messageId : MessageId) :
    ((dueIn pending now).foldl (fun kept id => kept.erase id) pending).lookup
        messageId =
      (pending.lookup messageId).filter fun due => decide (now < due) := by
  rw [Table.lookup_foldl_erase]
  simp only [mem_dueIn]
  cases found : pending.lookup messageId with
  | none => simp
  | some due =>
    by_cases late : due ≤ now
    · have elapsed : ¬ now < due := by omega
      simp [late, Option.filter_some]
    · have ahead : now < due := by omega
      simp [late, ahead, Option.filter_some]

end

end Magnetar.Proto.Trackers.Unacked
