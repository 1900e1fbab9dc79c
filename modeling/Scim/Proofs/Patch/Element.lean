import Scim.Patch.Apply

/-!
# Changing the element that a filter selects

Add and replace reach one element of an array: the first that the filter selects, or a fresh one at
the end.  This module says when that element is found again after the change.  Two facts carry it.
A filter that was read from a path selects its own fresh element, and a change that the filter does
not notice keeps the first selected element the first.
-/

namespace Scim

/-! ## Filters and the elements they select -/

namespace ElementFilter

/-- The value of a filter that was read from a path is a scalar, and equals itself. -/
theorem sameScalar_comparableValue (raw : String) :
    sameScalar (comparableValue raw) (comparableValue raw) = true := by
  unfold comparableValue
  simp only
  split
  · simp [sameScalar]
  · split
    · simp [sameScalar]
    · split
      · simp [sameScalar, Number.sameValue_self]
      · simp [sameScalar, Text.eqIgnoreCase]

/-- A filter that was read from a path selects its fresh element. -/
theorem selects_seed_of_ofChars? {cs : List Char} {f : ElementFilter} (h : ofChars? cs = some f) :
    f.selects (.obj f.seed) = true := by
  simp only [ofChars?] at h
  split at h
  · simp at h
  · obtain ⟨rest, -, hvalue⟩ := Option.bind_eq_some_iff.mp h
    obtain ⟨value, -, rfl⟩ := Option.map_eq_some_iff.mp hvalue
    simp [selects, seed, Json.get?, Members.find?, sameScalar_comparableValue]

/-- Only objects are selected. -/
theorem exists_members_of_selects {f : ElementFilter} {item : Json} (h : f.selects item = true) :
    ∃ members, item = .obj members := by
  cases item with
  | obj members => exact ⟨members, rfl⟩
  | _ => simp [selects, Json.get?] at h

/-- A filter looks at nothing but its own sub-attribute. -/
theorem selects_congr {f : ElementFilter} {first second : Members}
    (h : Members.find? f.name first = Members.find? f.name second) :
    f.selects (.obj first) = f.selects (.obj second) := by
  simp only [selects, Json.get?, h]

end ElementFilter

theorem Segment.selects_seed_of_ofText {raw : String} {f : ElementFilter}
    (h : (Segment.ofText raw).filter = some f) : f.selects (.obj f.seed) = true := by
  unfold Segment.ofText at h
  split at h
  · exact ElementFilter.selects_seed_of_ofChars? h
  · simp at h

theorem Segment.selects_seed_of_mem_ofPath {path : String} {segment : Segment}
    (hmem : segment ∈ Segment.ofPath path) {f : ElementFilter} (h : segment.filter = some f) :
    f.selects (.obj f.seed) = true := by
  obtain ⟨raw, -, rfl⟩ := List.mem_map.mp hmem
  exact Segment.selects_seed_of_ofText h

/-! ## Changes that a filter does not notice -/

namespace Patch

/-- A change after which a filter selects an element exactly when it did before. -/
def Unnoticed (f : ElementFilter) (change : Members → Members) : Prop :=
  ∀ members, f.selects (.obj (change members)) = f.selects (.obj members)

variable {f : ElementFilter} {change first second : Members → Members}

theorem changeFirst_cons_of_selects {members : Members} (h : f.selects (.obj members) = true)
    (items : List Json) :
    changeFirst f change (.obj members :: items) = .obj (change members) :: items := by
  simp [changeFirst, h]

theorem changeFirst_cons_of_not {item : Json} (h : f.selects item = false) (items : List Json) :
    changeFirst f change (item :: items) = item :: changeFirst f change items := by
  cases item <;> simp [changeFirst, h]

/-- A selected element behind others that are not is the one that changes. -/
theorem changeFirst_append {items : List Json} (hnone : items.any f.selects = false)
    {members : Members} (h : f.selects (.obj members) = true) (more : List Json) :
    changeFirst f change (items ++ .obj members :: more)
      = items ++ .obj (change members) :: more := by
  induction items with
  | nil => exact changeFirst_cons_of_selects h more
  | cons item items ih =>
    rw [List.any_cons, Bool.or_eq_false_iff] at hnone
    rw [List.cons_append, changeFirst_cons_of_not hnone.1, ih hnone.2, List.cons_append]

/-- An array splits at the first selected element. -/
theorem exists_first_selected {items : List Json} (h : items.any f.selects = true) :
    ∃ before members after, items = before ++ .obj members :: after ∧
      before.any f.selects = false ∧ f.selects (.obj members) = true := by
  induction items with
  | nil => simp at h
  | cons item items ih =>
    cases hitem : f.selects item with
    | true =>
      obtain ⟨members, rfl⟩ := ElementFilter.exists_members_of_selects hitem
      exact ⟨[], members, items, rfl, rfl, hitem⟩
    | false =>
      rw [List.any_cons, hitem, Bool.false_or] at h
      obtain ⟨before, members, after, rfl, hbefore, hmembers⟩ := ih h
      exact ⟨item :: before, members, after, rfl, by simp [hitem, hbefore], hmembers⟩

theorem find?_append_selected {before : List Json} (hbefore : before.any f.selects = false)
    {members : Members} (h : f.selects (.obj members) = true) (after : List Json) :
    (before ++ .obj members :: after).find? f.selects = some (.obj members) := by
  have hnone : before.find? f.selects = none := by
    simpa [List.find?_eq_none] using hbefore
  rw [List.find?_append, hnone, List.find?_cons_of_pos h, Option.none_or]

/-- What add and replace make of an array, said by where the first selected element stands. -/
theorem changeOrAppend_append {before : List Json} (hbefore : before.any f.selects = false)
    {members : Members} (h : f.selects (.obj members) = true) (after : List Json) :
    changeOrAppend f change (before ++ .obj members :: after)
      = before ++ .obj (change members) :: after := by
  have hany : (before ++ .obj members :: after).any f.selects = true := by simp [h]
  rw [changeOrAppend, if_pos hany, changeFirst_append hbefore h]

theorem changeOrAppend_of_none {items : List Json} (h : items.any f.selects = false) :
    changeOrAppend f change items = items ++ [.obj (change f.seed)] := by
  simp [changeOrAppend, h]

/-- The members that add and replace change: those of the first selected element, or the fresh
ones. -/
def membersToChange (f : ElementFilter) (items : List Json) : Members :=
  ((items.find? f.selects).bind Json.members?).getD f.seed

/-- After an unnoticed change the changed element is the first that the filter selects. -/
theorem find?_changeOrAppend (hkept : Unnoticed f change) (hseed : f.selects (.obj f.seed) = true)
    (items : List Json) :
    (changeOrAppend f change items).find? f.selects
      = some (.obj (change (membersToChange f items))) := by
  cases hany : items.any f.selects with
  | false =>
    have hfresh : f.selects (.obj (change f.seed)) = true := by rw [hkept, hseed]
    have hnone : items.find? f.selects = none := by simpa [List.find?_eq_none] using hany
    rw [changeOrAppend_of_none hany, find?_append_selected hany hfresh, membersToChange, hnone]
    rfl
  | true =>
    obtain ⟨before, members, after, rfl, hbefore, hmembers⟩ := exists_first_selected hany
    have hchanged : f.selects (.obj (change members)) = true := by rw [hkept, hmembers]
    rw [changeOrAppend_append hbefore hmembers, find?_append_selected hbefore hchanged,
      membersToChange, find?_append_selected hbefore hmembers]
    rfl

/-- Of two changes of the same element the first is lost when the second overwrites it; no second
element is appended. -/
theorem changeOrAppend_changeOrAppend (hkept : Unnoticed f first)
    (hseed : f.selects (.obj f.seed) = true)
    (hover : ∀ members, second (first members) = second members) (items : List Json) :
    changeOrAppend f second (changeOrAppend f first items) = changeOrAppend f second items := by
  cases hany : items.any f.selects with
  | false =>
    have hfresh : f.selects (.obj (first f.seed)) = true := by rw [hkept, hseed]
    rw [changeOrAppend_of_none hany, changeOrAppend_of_none hany,
      changeOrAppend_append hany hfresh, hover]
  | true =>
    obtain ⟨before, members, after, rfl, hbefore, hmembers⟩ := exists_first_selected hany
    have hchanged : f.selects (.obj (first members)) = true := by rw [hkept, hmembers]
    rw [changeOrAppend_append hbefore hmembers, changeOrAppend_append hbefore hmembers,
      changeOrAppend_append hbefore hchanged, hover]

end Patch

end Scim
