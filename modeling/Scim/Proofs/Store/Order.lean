import Mathlib.Data.Prod.Lex
import Scim.Proofs.Number.Value
import Scim.Store.Basic

/-!
# Sorted listings

Values of every kind can stand at the path that a listing is sorted by, and kinds are mixed freely.
Still there is one order behind it.  A value has a place in a linear order: the rank of its kind,
and behind it a rational number, a text or a boolean, whichever the kind has (`Collation.place`).
Values are compared by their places, so the comparison of documents is a total preorder under every
collation, and so is its reverse.  That is what a stable sort needs to do its work: the sorted
listing is the unsorted one rearranged, nothing stands in front of what should come before it, and
documents that are equal in the order stay as they were (`Store.find_sorted`).
-/

namespace Scim

/-! ## Places -/

namespace Collation

/-- The value of a number; other values have none. -/
def numberPlace : Json → WithBot ℚ
  | .num n => n.value
  | _ => ⊥

/-- The text by which a string is ordered; other values have none. -/
def textPlace (collation : Collation) : Json → String
  | .str s => collation.sortKey s
  | _ => ""

/-- The truth of a boolean; other values have none. -/
def flagPlace : Json → Bool
  | .bool b => b
  | _ => false

/-- The place of a value: its rank, and what its kind is ordered by within the rank. -/
def place (collation : Collation) (j : Json) : ℕ ×ₗ WithBot ℚ ×ₗ String ×ₗ Bool :=
  toLex (j.sortRank, toLex (numberPlace j, toLex (collation.textPlace j, flagPlace j)))

theorem compare_place (collation : Collation) (a b : Json) :
    Ord.compare (collation.place a) (collation.place b)
      = (Ord.compare a.sortRank b.sortRank).then ((Ord.compare (numberPlace a) (numberPlace b)).then
        ((Ord.compare (collation.textPlace a) (collation.textPlace b)).then
          (Ord.compare (flagPlace a) (flagPlace b)))) := by
  simp only [place, Prod.Lex.compare_def, compareLex, compareOn, ofLex_toLex]

/-- Values are compared by their places. -/
theorem compare_eq (collation : Collation) (a b : Json) :
    collation.compare a b = Ord.compare (collation.place a) (collation.place b) := by
  rw [compare_place]
  -- within a kind one part decides, and between kinds already the ranks do
  cases a <;> cases b <;>
    simp only [compare, Json.sortRank, numberPlace, textPlace, flagPlace, Number.compareValue_eq,
      Std.compare_self, Ordering.eq_then, Ordering.then_eq] <;> rfl

end Collation

/-! ## The order of documents -/

namespace SortSpec

/-- Order of documents in the direction that is asked for. -/
def ordering (spec : SortSpec) (collation : Collation) (a b : Json) : Ordering :=
  match spec.order with
  | .ascending => spec.compare collation a b
  | .descending => (spec.compare collation a b).swap

/-- The place of a document is that of the value it is ordered by. -/
def place (spec : SortSpec) (collation : Collation) (document : Json) :
    ℕ ×ₗ WithBot ℚ ×ₗ String ×ₗ Bool :=
  collation.place (spec.key document)

theorem compare_eq_compareOn (spec : SortSpec) (collation : Collation) :
    spec.compare collation = compareOn (spec.place collation) := by
  funext a b
  exact collation.compare_eq (spec.key a) (spec.key b)

/-- The order of documents is a total preorder. -/
theorem transCmp_compare (spec : SortSpec) (collation : Collation) :
    Std.TransCmp (spec.compare collation) := by
  rw [compare_eq_compareOn]
  infer_instance

/-- It is one in both directions. -/
theorem transCmp_ordering (spec : SortSpec) (collation : Collation) :
    Std.TransCmp (spec.ordering collation) := by
  have hcompare := spec.transCmp_compare collation
  cases horder : spec.order with
  | ascending =>
    have heq : spec.ordering collation = spec.compare collation := by
      funext a b
      simp only [ordering, horder]
    rwa [heq]
  | descending =>
    have heq : spec.ordering collation = fun a b => spec.compare collation b a := by
      funext a b
      simp only [ordering, horder]
      exact hcompare.eq_swap.symm
    rw [heq]
    exact Std.TransCmp.opposite

theorem ordering_eq_eq_iff (spec : SortSpec) (collation : Collation) (a b : Json) :
    spec.ordering collation a b = .eq ↔ spec.compare collation a b = .eq := by
  cases horder : spec.order <;> simp only [ordering, horder, Ordering.swap_eq_eq]

/-- What may stand in front of what is decided by the order. -/
theorem mayPrecede_eq (spec : SortSpec) (collation : Collation) (a b : Json) :
    spec.mayPrecede collation a b = (spec.ordering collation a b).isLE := by
  cases horder : spec.order <;> simp only [mayPrecede, ordering, horder] <;>
    cases spec.compare collation a b <;> rfl

end SortSpec

/-! ## Stable sorting -/

section Stable

variable {α : Type} (cmp : α → α → Ordering) [Std.TransCmp cmp]

theorem isLE_or_isLE (a b : α) : ((cmp a b).isLE || (cmp b a).isLE) = true := by
  have hswap : cmp b a = (cmp a b).swap := Std.OrientedCmp.eq_swap
  rw [hswap]
  cases cmp a b <;> rfl

/-- Nothing stands behind what it is smaller than. -/
theorem pairwise_mergeSort_ne_gt (xs : List α) :
    (xs.mergeSort fun x y => (cmp x y).isLE).Pairwise fun x y => cmp x y ≠ .gt := by
  have hsorted : (xs.mergeSort fun x y => (cmp x y).isLE).Pairwise fun x y => (cmp x y).isLE :=
    List.pairwise_mergeSort (fun _ _ _ => Std.TransCmp.isLE_trans) (isLE_or_isLE cmp) xs
  exact hsorted.imp fun h => Ordering.ne_gt_iff_isLE.mpr h

/-- A stable sort leaves elements that are equal in the order as they were. -/
theorem filter_mergeSort (a : α) (xs : List α) :
    (xs.mergeSort fun x y => (cmp x y).isLE).filter (cmp a · == .eq)
      = xs.filter (cmp a · == .eq) := by
  -- elements that are equal to `a` are sorted among themselves, so they come through in a row
  have hequal : (xs.filter (cmp a · == .eq)).Pairwise fun x y => (cmp x y).isLE = true := by
    refine List.pairwise_of_forall_mem_list fun x hx y hy => ?_
    have hax : cmp a x = .eq := by simpa using (List.mem_filter.mp hx).2
    have hay : cmp a y = .eq := by simpa using (List.mem_filter.mp hy).2
    have hxa : cmp x a = .eq := Std.OrientedCmp.eq_comm.mp hax
    rw [Std.TransCmp.eq_trans hxa hay]
    rfl
  have hsublist := List.sublist_mergeSort (fun _ _ _ => Std.TransCmp.isLE_trans)
    (isLE_or_isLE cmp) hequal List.filter_sublist
  have hkept : (xs.filter (cmp a · == .eq)).filter (cmp a · == .eq)
      = xs.filter (cmp a · == .eq) := by
    simp
  have hfiltered := hsublist.filter (cmp a · == .eq)
  rw [hkept] at hfiltered
  have hlength := ((List.mergeSort_perm xs fun x y => (cmp x y).isLE).filter
    (cmp a · == .eq)).length_eq
  exact (hfiltered.eq_of_length hlength.symm).symm

end Stable

/-! ## Listings -/

namespace SortSpec

variable {spec : SortSpec} {collation : Collation}

/-- Order of entries by their documents, ascending. -/
def compareEntries (spec : SortSpec) (collation : Collation) (e e' : Entry) : Ordering :=
  spec.compare collation (.obj e.body) (.obj e'.body)

/-- Order of entries by their documents in the direction that is asked for. -/
def orderEntries (spec : SortSpec) (collation : Collation) (e e' : Entry) : Ordering :=
  spec.ordering collation (.obj e.body) (.obj e'.body)

instance : Std.TransCmp (orderEntries spec collation) where
  eq_swap := (spec.transCmp_ordering collation).eq_swap
  isLE_trans := (spec.transCmp_ordering collation).isLE_trans

/-- A list of entries sorts another one: it has the same entries, nothing stands in front of what
is strictly smaller, or strictly greater in descending order, and entries that are equal in the
order follow one another as they did before. -/
structure Sorts (spec : SortSpec) (collation : Collation) (found sorted : List Entry) : Prop where
  perm : sorted.Perm found
  ascending : spec.order = .ascending →
    sorted.Pairwise fun e later => spec.compareEntries collation later e ≠ .lt
  descending : spec.order = .descending →
    sorted.Pairwise fun e later => spec.compareEntries collation later e ≠ .gt
  stable : ∀ e, sorted.filter (spec.compareEntries collation e · == .eq)
    = found.filter (spec.compareEntries collation e · == .eq)

theorem sorts_mergeSort (found : List Entry) :
    spec.Sorts collation found
      (found.mergeSort fun e e' => (spec.orderEntries collation e e').isLE) where
  perm := List.mergeSort_perm _ _
  ascending := by
    intro horder
    refine (pairwise_mergeSort_ne_gt (orderEntries spec collation) found).imp ?_
    intro e later h hlt
    have hgt := (spec.transCmp_compare collation).gt_iff_lt.mpr hlt
    exact h (by simpa only [orderEntries, ordering, horder] using hgt)
  descending := by
    intro horder
    refine (pairwise_mergeSort_ne_gt (orderEntries spec collation) found).imp ?_
    intro e later h hgt
    have hlt := (spec.transCmp_compare collation).gt_iff_lt.mp hgt
    exact h (by simp only [orderEntries, ordering, horder, hlt, Ordering.swap_lt])
  stable := by
    intro e
    have hequal : (spec.compareEntries collation e · == .eq)
        = (spec.orderEntries collation e · == .eq) := by
      funext e'
      rw [Bool.eq_iff_iff, beq_iff_eq, beq_iff_eq]
      exact (spec.ordering_eq_eq_iff collation _ _).symm
    rw [hequal, filter_mergeSort]

end SortSpec

/-- Sorted listings, for every collation and every specification.  Documents are compared by a total
preorder, in either direction.  And in every store, what is found without a skip and a limit sorts
the entries that match. -/
theorem Store.find_sorted (spec : SortSpec) (collation : Collation) :
    (∀ a, spec.ordering collation a a = .eq)
      ∧ (∀ a b, spec.ordering collation b a = (spec.ordering collation a b).swap)
      ∧ (∀ a b, (spec.ordering collation a b).isLE ∨ (spec.ordering collation b a).isLE)
      ∧ (∀ a b c, (spec.ordering collation a b).isLE → (spec.ordering collation b c).isLE →
        (spec.ordering collation a c).isLE)
      ∧ ∀ (store : Store) (collection : String) (p : Predicate),
        spec.Sorts collation ((store.entries collection).filter (matching p collation))
          (store.find collection p collation (some spec) 0 none) := by
  have hordering := spec.transCmp_ordering collation
  refine ⟨fun _ => Std.ReflCmp.compare_self, fun _ _ => hordering.eq_swap, fun a b => ?_,
    fun _ _ _ => hordering.isLE_trans, fun store collection p => ?_⟩
  · simpa using isLE_or_isLE (spec.ordering collation) a b
  · have hfind : store.find collection p collation (some spec) 0 none
        = ((store.entries collection).filter (matching p collation)).mergeSort
          fun e e' => (spec.orderEntries collation e e').isLE := by
      simp only [find, select, List.drop_zero, SortSpec.mayPrecede_eq, SortSpec.orderEntries]
    rw [hfind]
    exact SortSpec.sorts_mergeSort _

end Scim
