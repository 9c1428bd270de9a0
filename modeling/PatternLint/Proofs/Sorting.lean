import Mathlib.Data.List.Nodup
import Mathlib.Order.Lattice

namespace PatternLint.Sorting

variable {Item Key : Type} [LinearOrder Key] (key : Item → Key) (before : Item → Item → Bool)

def ByKey : Prop := ∀ one other, before one other = true ↔ key one ≤ key other

variable {key before}

theorem pairwise_le (byKey : ByKey key before) (items : List Item) :
    (items.mergeSort before).Pairwise fun one other => key one ≤ key other := by
  have sorted : (items.mergeSort before).Pairwise fun one other => before one other = true := by
    apply List.pairwise_mergeSort
    · intro one other third first second
      rw [byKey] at first second ⊢
      exact le_trans first second
    · intro one other
      rw [Bool.or_eq_true, byKey, byKey]
      exact le_total (key one) (key other)
  exact sorted.imp fun {one other} => (byKey one other).mp

theorem pairwise_lt (byKey : ByKey key before) {items : List Item}
    (distinct : (items.map key).Nodup) :
    (items.mergeSort before).Pairwise fun one other => key one < key other := by
  have keys : ((items.mergeSort before).map key).Nodup :=
    ((List.mergeSort_perm items before).map key).nodup_iff.mpr distinct
  have apart := List.pairwise_map.mp keys
  exact (pairwise_le byKey items).imp₂ (fun _ _ => lt_of_le_of_ne) apart

theorem eq_of_perm (byKey : ByKey key before) {items others : List Item}
    (distinct : (items.map key).Nodup) (same : others.Perm items) :
    others.mergeSort before = items.mergeSort before := by
  have reordered : (others.mergeSort before).Perm items :=
    (List.mergeSort_perm others before).trans same
  have sorted := (List.mergeSort_perm items before).symm
  refine List.Perm.eq_of_pairwise ?_ (pairwise_le byKey others) (pairwise_le byKey items)
    (reordered.trans sorted)
  intro one other first second below above
  apply List.inj_on_of_nodup_map distinct
  · exact reordered.mem_iff.mp first
  · exact sorted.mem_iff.mpr second
  · exact le_antisymm below above

end PatternLint.Sorting
