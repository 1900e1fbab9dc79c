import Mathlib.Data.List.Induction
import Mathlib.Data.String.Basic
import Scim.Json.Basic

/-!
# The laws of members

`Members.alter` is the one way in which an object changes.  This module says what a change under one
key does to that key, to the others, and to an earlier change.

None of the laws asks for ascending keys.  A change that always leaves a member behind never removes
one, so it cannot bring to light a member that stands out of order, and every look-up under another
key stops where it stopped before.
-/

namespace Scim.Members

/-- A change that never removes the member that it is applied to. -/
def Stays (f : Option Json → Option Json) : Prop := ∀ held, (f held).isSome

/-! ## One change -/

/-- A change is felt only at what its key holds. -/
theorem alter_congr {key : String} {f g : Option Json → Option Json} {members : Members}
    (h : f (find? key members) = g (find? key members)) :
    alter key f members = alter key g members := by
  induction members with
  | nil => simp only [find?] at h; simp only [alter, h]
  | cons head rest ih =>
    obtain ⟨k, v⟩ := head
    simp only [find?] at h
    simp only [alter]
    by_cases hk : k = key
    · simp only [hk, if_true] at h ⊢
      rw [h]
    · by_cases hlt : key < k
      · simp only [hk, hlt, if_true, if_false] at h ⊢
        rw [h]
      · simp only [hk, hlt, if_false] at h ⊢
        rw [ih h]

theorem alter_id (key : String) (members : Members) :
    alter key (fun held => held) members = members := by
  induction members with
  | nil => rfl
  | cons head rest ih =>
    obtain ⟨k, v⟩ := head
    simp only [alter, ih]
    split <;> [rfl; split <;> rfl]

/-- A change that leaves what its key holds leaves everything. -/
theorem alter_eq_self {key : String} {f : Option Json → Option Json} {members : Members}
    (h : f (find? key members) = find? key members) : alter key f members = members :=
  (alter_congr h).trans (alter_id key members)

/-- A change that stays is invisible under every other key. -/
theorem find?_alter_of_ne {key other : String} (hne : other ≠ key) {f : Option Json → Option Json}
    (hf : Stays f) (members : Members) :
    find? other (alter key f members) = find? other members := by
  induction members with
  | nil =>
    obtain ⟨w, hw⟩ := Option.isSome_iff_exists.mp (hf none)
    simp [alter, find?, hw, hne.symm]
  | cons head rest ih =>
    obtain ⟨k, v⟩ := head
    by_cases hk : k = key
    · obtain ⟨w, hw⟩ := Option.isSome_iff_exists.mp (hf (some v))
      simp [alter, find?, hk, hw, hne.symm]
    · by_cases hlt : key < k
      · obtain ⟨w, hw⟩ := Option.isSome_iff_exists.mp (hf none)
        simp only [alter, hk, hlt, hw, if_true, if_false, find?, hne.symm]
        -- the new member stops the search only where the next one would have stopped it
        by_cases hbefore : other < key
        · have hkk : other < k := lt_trans hbefore hlt
          simp [hbefore, hkk, hkk.ne']
        · simp [hbefore]
      · simp only [alter, hk, hlt, if_false, find?, ih]

theorem find?_insert_of_ne {key other : String} (hne : other ≠ key) (value : Json)
    (members : Members) : find? other (insert key value members) = find? other members :=
  find?_alter_of_ne hne (fun _ => rfl) members

/-- A look-up sees an insertion under its own key, and no other. -/
theorem find?_insert (key : String) (value : Json) (members : Members) (other : String) :
    find? other (insert key value members)
      = if other = key then some value else find? other members := by
  split
  · next heq => rw [heq, find?_insert_self]
  · next hne => exact find?_insert_of_ne hne value members

/-! ## Two changes -/

/-- Two changes under one key are one change. -/
theorem alter_alter {key : String} {f : Option Json → Option Json} (hf : Stays f)
    (g : Option Json → Option Json) (members : Members) :
    alter key g (alter key f members) = alter key (fun held => g (f held)) members := by
  induction members with
  | nil =>
    obtain ⟨w, hw⟩ := Option.isSome_iff_exists.mp (hf none)
    simp [alter, hw]
  | cons head rest ih =>
    obtain ⟨k, v⟩ := head
    by_cases hk : k = key
    · obtain ⟨w, hw⟩ := Option.isSome_iff_exists.mp (hf (some v))
      simp [alter, hk, hw]
    · by_cases hlt : key < k
      · obtain ⟨w, hw⟩ := Option.isSome_iff_exists.mp (hf none)
        simp [alter, hk, hlt, hw]
      · simp only [alter, hk, hlt, if_false, ih]

/-- Of two insertions under one key the later wins. -/
theorem insert_insert (key : String) (first second : Json) (members : Members) :
    insert key second (insert key first members) = insert key second members :=
  alter_alter (fun _ => rfl) _ members

/-- Rewriting a member that is present commutes with an insertion under another key. -/
theorem insert_comm {key other : String} (hne : other ≠ key) {members : Members}
    (hpresent : (find? other members).isSome) (value written : Json) :
    insert key value (insert other written members)
      = insert other written (insert key value members) := by
  induction members with
  | nil => simp [find?] at hpresent
  | cons head rest ih =>
    obtain ⟨k, v⟩ := head
    by_cases hother : k = other
    · subst hother
      by_cases hlt : key < k
      · simp [insert, alter, hne, hne.symm, hlt, hlt.not_gt]
      · simp [insert, alter, hne, hlt]
    · have hnot : ¬ other < k := by
        intro hlt
        simp [find?, hother, hlt] at hpresent
      have hrest : (find? other rest).isSome := by simpa [find?, hother, hnot] using hpresent
      by_cases hk : k = key
      · subst hk
        simp [insert, alter, hother, hnot]
      · by_cases hlt : key < k
        · have hnot' : ¬ other < key := fun h => hnot (lt_trans h hlt)
          simp [insert, alter, hother, hnot, hk, hlt, hne.symm, hnot']
        · have := ih hrest
          simp only [insert] at this
          simp [insert, alter, hother, hnot, hk, hlt, this]

/-! ## Merging -/

theorem merge_cons (base : Members) (key : String) (value : Json) (extra : Members) :
    merge base ((key, value) :: extra) = merge (insert key value base) extra := rfl

theorem merge_append (base first second : Members) :
    merge base (first ++ second) = merge (merge base first) second := by
  simp [merge, List.foldl_append]

/-- Merging leaves alone what the merged members do not name. -/
theorem find?_merge_of_not_mem {key : String} {extra : Members} (h : key ∉ extra.map Prod.fst)
    (base : Members) : find? key (merge base extra) = find? key base := by
  induction extra generalizing base with
  | nil => rfl
  | cons head extra ih =>
    obtain ⟨k, v⟩ := head
    simp only [List.map_cons, List.mem_cons, not_or] at h
    rw [merge_cons, ih h.2, find?_insert_of_ne h.1]

theorem isSome_find?_insert {key : String} {members : Members} (h : (find? key members).isSome)
    (other : String) (value : Json) : (find? key (insert other value members)).isSome := by
  by_cases hne : key = other
  · subst hne
    simp
  · rwa [find?_insert_of_ne hne]

theorem isSome_find?_merge {key : String} {members : Members} (h : (find? key members).isSome)
    (extra : Members) : (find? key (merge members extra)).isSome := by
  induction extra generalizing members with
  | nil => exact h
  | cons head extra ih => exact ih (isSome_find?_insert h head.1 head.2)

/-- Every key that is merged is present afterwards. -/
theorem isSome_find?_merge_of_mem {key : String} {extra : Members} (h : key ∈ extra.map Prod.fst)
    (base : Members) : (find? key (merge base extra)).isSome := by
  induction extra generalizing base with
  | nil => simp at h
  | cons head extra ih =>
    obtain ⟨k, v⟩ := head
    rw [merge_cons]
    rcases List.mem_cons.mp h with rfl | h
    · exact isSome_find?_merge (by simp) extra
    · exact ih h _

/-- An insertion in front of a merge that only rewrites is undone by one behind it. -/
theorem insert_merge_insert {key : String} {extra members : Members}
    (hall : ∀ k ∈ extra.map Prod.fst, (find? k members).isSome) (first value : Json) :
    insert key value (merge (insert key first members) extra)
      = insert key value (merge members extra) := by
  induction extra generalizing members first with
  | nil => exact insert_insert key first value members
  | cons head extra ih =>
    obtain ⟨k, v⟩ := head
    have hk : (find? k members).isSome := hall k (by simp)
    have hall' : ∀ l ∈ extra.map Prod.fst, (find? l (insert k v members)).isSome := by
      intro l hl
      exact isSome_find?_insert (hall l (List.mem_cons_of_mem k hl)) k v
    rw [merge_cons, merge_cons]
    by_cases hne : k = key
    · subst hne
      rw [insert_insert]
    · rw [← insert_comm hne hk, ih hall']

/-- Merging the same members again changes nothing. -/
theorem merge_merge (base extra : Members) : merge (merge base extra) extra = merge base extra := by
  induction extra using List.reverseRecOn with
  | nil => rfl
  | append_singleton extra last ih =>
    obtain ⟨key, value⟩ := last
    have hlast (members : Members) :
        merge members (extra ++ [(key, value)]) = insert key value (merge members extra) := by
      rw [merge_append]
      rfl
    have hall : ∀ k ∈ extra.map Prod.fst, (find? k (merge base extra)).isSome :=
      fun k hk => isSome_find?_merge_of_mem hk base
    rw [hlast, hlast, insert_merge_insert hall, ih]

end Scim.Members
