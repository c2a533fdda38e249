import Mathlib.Data.List.Range
import Mathlib.Order.Interval.Finset.Nat

/-!
Contract: the rotation of a partitioned producer over its children (`partitioned_producer.rs`).

Owns: `pick_round_robin`, and that consecutive picks visit each ready child once before they come
back to the first.

Does not own: keyed and custom routing, nor the picks of concurrent senders.
-/

namespace Magnetar.PartitionedProducer

variable (n : Nat) (isReady : Nat → Bool)

/-- The child a send goes to, of `n`, and the cursor after it.  Without a second sender nobody has
drawn the next ticket, so the exchange succeeds. -/
def pickRoundRobin (cursor : Nat) : Nat × Nat :=
  let next := (cursor + 1) % 2 ^ 64
  let start := cursor % n
  match (List.range n).find? fun offset => isReady ((start + offset) % n) with
  | some offset =>
    ((start + offset) % n, if offset ≠ 0 then (next + offset) % 2 ^ 64 else next)
  | none => (start, next)

/-- The children that consecutive sends go to. -/
def picks : (count cursor : Nat) → List Nat
  | 0, _ => []
  | count + 1, cursor =>
    let (index, cursor) := pickRoundRobin n isReady cursor
    index :: picks count cursor

/-- The ready children are in rotation, or all of them when none is. -/
def serves (index : Nat) : Bool :=
  isReady index || !(List.range n).any isReady

/-- A pick is the first child in rotation from the ticket on, and the cursor moves past it. -/
theorem pickRoundRobin_eq {cursor skipped : Nat}
    (passed : ∀ offset < skipped, serves n isReady ((cursor + offset) % n) = false)
    (inside : skipped < n) (bounded : cursor + skipped + 1 < 2 ^ 64)
    (serving : serves n isReady ((cursor + skipped) % n) = true) :
    pickRoundRobin n isReady cursor = ((cursor + skipped) % n, cursor + skipped + 1) := by
  have next : (cursor + 1) % 2 ^ 64 = cursor + 1 := Nat.mod_eq_of_lt (by omega)
  simp only [pickRoundRobin, Nat.mod_add_mod, next]
  cases busy : (List.range n).any isReady with
  | true =>
    simp only [serves, busy, Bool.not_true, Bool.or_false] at passed serving
    have found : (List.range n).find? (fun offset => isReady ((cursor + offset) % n)) =
        some skipped := by
      rw [List.find?_range_eq_some]
      exact ⟨serving, List.mem_range.mpr inside, fun offset before => by simp [passed offset before]⟩
    rw [found]
    dsimp only
    split
    · rw [Nat.add_right_comm, Nat.mod_eq_of_lt bounded]
    · congr 1
      omega
  | false =>
    -- Every child is in rotation, so none was passed over, and the search finds none.
    have first : skipped = 0 := by
      by_contra later
      simpa [serves, busy] using passed 0 (by omega)
    subst first
    rw [List.find?_eq_none.mpr]
    · rfl
    · intro offset _
      exact List.any_eq_false.mp busy _ (List.mem_range.mpr (Nat.mod_lt _ inside))

/-- By induction over the rest of the turn, with the tickets passed over so far. -/
theorem picks_window (cursor skipped window : Nat)
    (passed : ∀ offset < skipped, serves n isReady ((cursor + offset) % n) = false)
    (inside : skipped + window ≤ n)
    (bounded : cursor + skipped + window < 2 ^ 64) :
    ∀ served, served =
        ((List.range' (cursor + skipped) window).map (· % n)).filter (serves n isReady) →
      picks n isReady served.length cursor = served := by
  induction window generalizing cursor skipped with
  | zero =>
    rintro _ rfl
    rfl
  | succ window ih =>
    rintro _ rfl
    rw [List.range'_succ, List.map_cons]
    cases serving : serves n isReady ((cursor + skipped) % n) with
    | true =>
      rw [List.filter_cons_of_pos serving, List.length_cons, picks,
        pickRoundRobin_eq n isReady passed (by omega) (by omega) serving]
      exact congrArg _ (ih _ 0 (by simp) (by omega) (by omega) _ rfl)
    | false =>
      rw [List.filter_cons_of_neg (by simp [serving])]
      refine ih _ (skipped + 1) ?_ (by omega) (by omega) _ rfl
      intro offset before
      rcases Nat.lt_succ_iff_lt_or_eq.mp before with earlier | rfl
      · exact passed offset earlier
      · exact serving

/-- Of any number of children, which a `Vec` keeps below `2 ^ 63`, as many sends in a row as there
are ready ones go to each ready one once.  When none is ready, each child has its turn. -/
theorem round_robin_is_fair (n : Nat) (isReady : Nat → Bool) (cursor : Nat)
    (addressable : n < 2 ^ 63) (below : cursor < 2 ^ 63) :
    let ready := (List.range n).filter isReady
    (ready ≠ [] → (picks n isReady ready.length cursor).Perm ready) ∧
      (ready = [] → (picks n isReady n cursor).Perm (List.range n)) := by
  have turn : ((List.range' cursor n).map (· % n)).Perm (List.range n) := by
    rw [List.perm_ext_iff_of_nodup ?_ List.nodup_range]
    · intro index
      simpa [List.mem_range'_1] using Finset.ext_iff.mp (Nat.image_Ico_mod cursor n) index
    · refine List.Nodup.map_on ?_ List.nodup_range'
      intro one inOne two inTwo same
      exact Nat.mod_injOn_Ico cursor n (by simpa using inOne) (by simpa using inTwo) same
  have served := turn.filter (serves n isReady)
  have visits := picks_window n isReady cursor 0 n (by simp) (by omega) (by omega) _ rfl
  rw [Nat.add_zero, served.length_eq] at visits
  rw [← visits] at served
  constructor
  · intro some
    have busy : (List.range n).any isReady = true := by
      simpa [List.filter_eq_nil_iff] using some
    have all : serves n isReady = isReady := by
      funext index
      simp [serves, busy]
    rwa [all] at served
  · intro none
    have idle : (List.range n).any isReady = false := by
      simpa [List.filter_eq_nil_iff] using none
    have all : (List.range n).filter (serves n isReady) = List.range n := by
      simp [List.filter_eq_self, serves, idle]
    rwa [all, List.length_range] at served

theorem round_robin_is_fair_skipping :
    picks 4 (· != 2) 3 6 = [3, 0, 1] ∧ [3, 0, 1].Perm ((List.range 4).filter (· != 2)) :=
  ⟨by decide, (round_robin_is_fair 4 (· != 2) 6 (by decide) (by decide)).1 (by decide)⟩

end Magnetar.PartitionedProducer
