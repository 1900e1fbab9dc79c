import Scim.Proofs.Json.Ascending

/-!
# Values in order at any depth

A value is in order when every object in it lists its members in ascending order of their keys
(`Json.Sorted`).  Every value that was read from a text is.  The operations on members keep a
document in order as long as what they put into it is in order: for one change it suffices to look
at what its key holds afterwards (`Members.Sorted.alter`), and every other operation is put together
from changes.
-/

namespace Scim

namespace Json

theorem sortedItems_iff {items : List Json} : SortedItems items ↔ ∀ item ∈ items, item.Sorted := by
  induction items with
  | nil => simp [SortedItems]
  | cons item items ih => simp [SortedItems, ih]

theorem sortedMembers_iff {members : Members} :
    SortedMembers members ↔ ∀ member ∈ members, member.2.Sorted := by
  induction members with
  | nil => simp [SortedMembers]
  | cons member members ih =>
    obtain ⟨key, value⟩ := member
    simp [SortedMembers, ih]

mutual

def decidableSorted : (j : Json) → Decidable j.Sorted
  | arr items => decidableSortedItems items
  | obj members =>
    @instDecidableAnd _ _ (inferInstanceAs (Decidable (List.Pairwise _ _)))
      (decidableSortedMembers members)
  | null | bool _ | num _ | str _ => isTrue trivial

def decidableSortedItems : (items : List Json) → Decidable (SortedItems items)
  | [] => isTrue trivial
  | x :: xs => @instDecidableAnd _ _ (decidableSorted x) (decidableSortedItems xs)

def decidableSortedMembers : (members : List (String × Json)) → Decidable (SortedMembers members)
  | [] => isTrue trivial
  | (_, x) :: xs => @instDecidableAnd _ _ (decidableSorted x) (decidableSortedMembers xs)

end

instance : DecidablePred Json.Sorted := decidableSorted

end Json

namespace Members

/-- The members stand in ascending order, and what they hold is in order at any depth. -/
structure Sorted (members : Members) : Prop where
  ascending : Ascending members
  values : ∀ member ∈ members, member.2.Sorted

/-- What a key holds, if anything, is in order. -/
def SortedHeld (held : Option Json) : Prop :=
  ∀ value, held = some value → value.Sorted

end Members

theorem Json.sorted_obj_iff {members : Members} :
    (Json.obj members).Sorted ↔ Members.Sorted members := by
  rw [Json.Sorted, Json.sortedMembers_iff]
  exact ⟨fun h => ⟨h.1, h.2⟩, fun h => ⟨h.1, h.2⟩⟩

theorem Json.sorted_arr_iff {items : List Json} :
    (Json.arr items).Sorted ↔ ∀ item ∈ items, item.Sorted :=
  Json.sortedItems_iff

namespace Members

variable {key : String} {value : Json} {f : Option Json → Option Json} {members more : Members}

theorem sortedHeld_none : SortedHeld none := by
  intro value h
  cases h

theorem sortedHeld_some_iff : SortedHeld (some value) ↔ value.Sorted :=
  ⟨fun h => h value rfl, fun h _ hvalue => Option.some.inj hvalue ▸ h⟩

instance decidableSortedHeld : (held : Option Json) → Decidable (SortedHeld held)
  | none => isTrue sortedHeld_none
  | some _ => decidable_of_iff _ sortedHeld_some_iff.symm

theorem sorted_nil : Sorted [] where
  ascending := ascending_nil
  values := by simp

/-! ## Looking up and changing -/

theorem mem_of_find? (h : find? key members = some value) : (key, value) ∈ members := by
  induction members with
  | nil => cases h
  | cons head rest ih =>
    obtain ⟨k, v⟩ := head
    simp only [find?] at h
    split at h
    · next hk =>
      rw [hk, Option.some.inj h]
      exact List.mem_cons_self
    · split at h
      · cases h
      · exact List.mem_cons_of_mem _ (ih h)

/-- In ascending order every member is found under its key. -/
theorem Ascending.find?_of_mem (h : Ascending members) (hmem : (key, value) ∈ members) :
    find? key members = some value := by
  induction members with
  | nil => exact absurd hmem List.not_mem_nil
  | cons head rest ih =>
    obtain ⟨k, v⟩ := head
    obtain ⟨hbelow, hrest⟩ := ascending_cons_iff.mp h
    rcases List.mem_cons.mp hmem with heq | hmem
    · obtain ⟨rfl, rfl⟩ := Prod.mk.inj heq
      simp [Members.find?]
    · have hlt : k < key := hbelow key (List.mem_map_of_mem hmem)
      simp [Members.find?, hlt.ne, hlt.not_gt, ih hrest hmem]

theorem Sorted.find? (h : Sorted members) (key : String) : SortedHeld (find? key members) :=
  fun _ hvalue => h.values _ (mem_of_find? hvalue)

/-- A change leaves members that were there before, and what its key holds afterwards. -/
theorem mem_alter {member : String × Json} (h : member ∈ alter key f members) :
    member ∈ members ∨ ∃ value, f (Members.find? key members) = some value
      ∧ member = (key, value) := by
  induction members with
  | nil =>
    simp only [alter, Members.find?] at h ⊢
    split at h
    · next value hvalue =>
      exact Or.inr ⟨value, hvalue, List.mem_singleton.mp h⟩
    · exact Or.inl h
  | cons head rest ih =>
    obtain ⟨k, v⟩ := head
    simp only [alter, Members.find?] at h ⊢
    by_cases hk : k = key
    · simp only [hk, if_true] at h ⊢
      split at h
      · next value hvalue =>
        rcases List.mem_cons.mp h with rfl | hrest
        · exact Or.inr ⟨value, hvalue, rfl⟩
        · exact Or.inl (List.mem_cons_of_mem _ hrest)
      · exact Or.inl (List.mem_cons_of_mem _ h)
    · by_cases hlt : key < k
      · simp only [hk, hlt, if_true, if_false] at h ⊢
        split at h
        · next value hvalue =>
          rcases List.mem_cons.mp h with rfl | hrest
          · exact Or.inr ⟨value, hvalue, rfl⟩
          · exact Or.inl hrest
        · exact Or.inl h
      · simp only [hk, hlt, if_false] at h ⊢
        rcases List.mem_cons.mp h with rfl | hrest
        · exact Or.inl List.mem_cons_self
        · exact (ih hrest).imp_left (List.mem_cons_of_mem _)

theorem Sorted.alter (h : Sorted members) (key : String)
    (hf : SortedHeld (f (Members.find? key members))) : Sorted (alter key f members) where
  ascending := h.ascending.alter key f
  values := by
    intro member hmember
    rcases mem_alter hmember with hold | ⟨value, hvalue, rfl⟩
    · exact h.values member hold
    · exact hf value hvalue

theorem Sorted.insert (h : Sorted members) (key : String) (hvalue : value.Sorted) :
    Sorted (insert key value members) :=
  h.alter key (sortedHeld_some_iff.mpr hvalue)

theorem Sorted.erase (h : Sorted members) (key : String) : Sorted (erase key members) :=
  h.alter key sortedHeld_none

/-! ## Several changes -/

/-- A loop of changes, each of which keeps the order. -/
theorem Sorted.foldl {α : Type} {step : Members → α → Members} {items : List α}
    (h : Sorted members)
    (hstep : ∀ item ∈ items, ∀ members, Sorted members → Sorted (step members item)) :
    Sorted (items.foldl step members) := by
  induction items generalizing members with
  | nil => exact h
  | cons item items ih =>
    obtain ⟨hitem, hrest⟩ := List.forall_mem_cons.mp hstep
    exact ih (hitem members h) hrest

theorem Sorted.merge (h : Sorted members) (hmore : ∀ member ∈ more, member.2.Sorted) :
    Sorted (merge members more) :=
  h.foldl fun member hmember _ hbefore => hbefore.insert member.1 (hmore member hmember)

theorem sorted_ofList (hmore : ∀ member ∈ more, member.2.Sorted) : Sorted (ofList more) :=
  sorted_nil.merge hmore

end Members

/-! ## Values put together -/

theorem Json.sorted_ofPairs {pairs : List (String × Json)}
    (h : ∀ pair ∈ pairs, pair.2.Sorted) : (Json.ofPairs pairs).Sorted :=
  Json.sorted_obj_iff.mpr (Members.sorted_ofList h)

theorem Json.sorted_ofStrings (items : List String) : (Json.ofStrings items).Sorted := by
  rw [Json.ofStrings, Json.sorted_arr_iff]
  intro item hitem
  obtain ⟨s, -, rfl⟩ := List.mem_map.mp hitem
  trivial

/-- What a value in order holds under a key is in order. -/
theorem Json.Sorted.get? {j : Json} (h : j.Sorted) (key : String) :
    Members.SortedHeld (j.get? key) := by
  cases j with
  | obj members => exact (Json.sorted_obj_iff.mp h).find? key
  | null | bool | num | str | arr => exact Members.sortedHeld_none

end Scim
