import Mathlib.Algebra.GroupWithZero.Nat
import Mathlib.Data.List.AList

/-!
Contract: finite tables with one value type.

Owns: updating the value at a key, updating every value, keeping the keys that pass a test, erasing
the keys of a list, what a lookup sees afterwards, properties of every value, and what the values
add up to.

Does not own: insertion and erasure of one key, which `AList` has.
-/

namespace Magnetar.Library

/-- A finite table, as a hash map holds it: at most one value per key. -/
abbrev Table (κ α : Type*) := AList (fun _ : κ => α)

namespace Table

variable {κ α : Type*} [DecidableEq κ]

omit [DecidableEq κ] in
private theorem keys_map_snd (update : κ → α → α) (entries : List ((_ : κ) × α)) :
    (entries.map fun entry => (⟨entry.1, update entry.1 entry.2⟩ : (_ : κ) × α)).keys =
      entries.keys := by
  simp [List.keys]

variable (table : Table κ α) (measure : α → Nat) (key : κ) (update : α → α)

/-- Apply `update` to every value.  The entries keep their order. -/
def mapWithKey (update : κ → α → α) : Table κ α where
  entries := table.entries.map fun entry => ⟨entry.1, update entry.1 entry.2⟩
  nodupKeys := by
    change (List.keys _).Nodup
    rw [keys_map_snd]
    exact table.keys_nodup

def mapValues : Table κ α :=
  mapWithKey table fun _ => update

/-- Apply `update` to the value at `key`, if there is one. -/
def modify : Table κ α :=
  mapWithKey table fun found => if found = key then update else id

theorem lookup_mapWithKey (update : κ → α → α) :
    (mapWithKey table update).lookup key = (table.lookup key).map (update key) := by
  change List.dlookup key
      (table.entries.map fun entry => (⟨entry.1, update entry.1 entry.2⟩ : (_ : κ) × α)) =
    Option.map (update key) (List.dlookup key table.entries)
  induction table.entries with
  | nil => rfl
  | cons entry _ ih =>
    obtain ⟨found, value⟩ := entry
    by_cases same : found = key
    · subst same
      simp
    · rw [List.map_cons, List.dlookup_cons_ne _ _ (Ne.symm same),
        List.dlookup_cons_ne _ _ (Ne.symm same), ih]

theorem lookup_mapValues : (mapValues table update).lookup key = (table.lookup key).map update :=
  lookup_mapWithKey table key _

theorem lookup_modify_self :
    (modify table key update).lookup key = (table.lookup key).map update := by
  rw [modify, lookup_mapWithKey, if_pos rfl]

theorem lookup_modify_ne {key other : κ} (update : α → α) (differs : other ≠ key) :
    (modify table key update).lookup other = table.lookup other := by
  rw [modify, lookup_mapWithKey, if_neg differs, Option.map_id_fun, id]

theorem lookup_foldl_erase (keys : List κ) (table : Table κ α) (key : κ) :
    (keys.foldl (fun kept erased => kept.erase erased) table).lookup key =
      if key ∈ keys then none else table.lookup key := by
  induction keys generalizing table with
  | nil => simp
  | cons erased rest ih =>
    rw [List.foldl_cons, ih]
    by_cases later : key ∈ rest
    · simp [later]
    · by_cases same : key = erased
      · subst same
        simp [later]
      · simp [later, same, AList.lookup_erase_ne same]

/-- Keep the keys that pass the test. -/
def retain (keep : κ → Bool) : Table κ α :=
  (table.keys.filter fun key => !keep key).foldl (fun kept erased => kept.erase erased) table

theorem lookup_retain (keep : κ → Bool) (key : κ) :
    (retain table keep).lookup key = if keep key then table.lookup key else none := by
  rw [retain, lookup_foldl_erase]
  cases kept : keep key with
  | true => simp [kept]
  | false =>
    by_cases inside : key ∈ table.keys
    · simp [kept, inside]
    · have absent : table.lookup key = none := AList.lookup_eq_none.mpr inside
      simp [absent]

/-- Every value has the property. -/
def Every (property : α → Prop) : Prop :=
  ∀ key value, table.lookup key = some value → property value

section

variable {table} {property : α → Prop} (every : Every table property)

include every

theorem Every.insert {value : α} (added : property value) :
    Every (table.insert key value) property := by
  intro other found stands
  by_cases same : other = key
  · subst same
    rw [AList.lookup_insert, Option.some.injEq] at stands
    exact stands ▸ added
  · rw [AList.lookup_insert_ne same] at stands
    exact every other found stands

theorem Every.erase : Every (table.erase key) property := by
  intro other found stands
  by_cases same : other = key
  · rw [same, AList.lookup_erase] at stands
    cases stands
  · rw [AList.lookup_erase_ne same] at stands
    exact every other found stands

theorem Every.retain (keep : κ → Bool) : Every (table.retain keep) property := by
  intro other found stands
  rw [lookup_retain, Option.ite_none_right_eq_some] at stands
  exact every other found stands.2

end

/-- What `measure` adds up to over the values. -/
def sumOf : Nat :=
  (table.entries.map fun entry => measure entry.2).sum

private theorem sum_kerase (entries : List ((_ : κ) × α)) :
    ((entries.kerase key).map fun entry => measure entry.2).sum +
        ((entries.dlookup key).map measure).getD 0 =
      (entries.map fun entry => measure entry.2).sum := by
  induction entries with
  | nil => rfl
  | cons entry rest ih =>
    obtain ⟨found, value⟩ := entry
    by_cases same : key = found
    · subst same
      simp [Nat.add_comm]
    · rw [List.kerase_cons_ne same, List.dlookup_cons_ne _ _ same, List.map_cons, List.map_cons,
        List.sum_cons, List.sum_cons, ← ih, Nat.add_assoc]

theorem sumOf_erase :
    sumOf (table.erase key) measure + ((table.lookup key).map measure).getD 0 =
      sumOf table measure :=
  sum_kerase measure key table.entries

theorem sumOf_insert (value : α) :
    sumOf (table.insert key value) measure + ((table.lookup key).map measure).getD 0 =
      sumOf table measure + measure value := by
  have inserted : sumOf (table.insert key value) measure =
      measure value + sumOf (table.erase key) measure := by
    rfl
  rw [inserted, ← sumOf_erase table measure key]
  omega

theorem sumOf_le_sumOf {measure measure' : α → Nat}
    (le : ∀ key value, table.lookup key = some value → measure value ≤ measure' value) :
    sumOf table measure ≤ sumOf table measure' := by
  have all : ∀ entry ∈ table.entries, measure entry.2 ≤ measure' entry.2 :=
    fun entry member => le entry.1 entry.2 (AList.mem_lookup_iff.mpr member)
  unfold sumOf
  generalize table.entries = entries at all ⊢
  induction entries with
  | nil => rfl
  | cons entry rest ih =>
    rw [List.forall_mem_cons] at all
    exact Nat.add_le_add all.1 (ih all.2)

end Table

end Magnetar.Library
