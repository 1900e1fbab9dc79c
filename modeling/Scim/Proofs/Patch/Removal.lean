import Scim.Proofs.Json.Part
import Scim.Proofs.Patch.Exchange

/-!
# What a removal deletes

A removal creates nothing and rewrites nothing.  At the root it deletes members.  Along a path it
goes on to the members that hold the last key and there deletes the key, or elements of the array
under it; where it cannot go on it changes nothing (`Patch.along_remove_of_unreached`).  So what is
left is a part of the document, and differs from it only along the path
(`PatchOperation.removal_deletes`).

Which elements go is exact for a path that ends in a filter: those that the filter selects, and they
all do (`PatchOperation.filtered_removal_exact`).  But a filter speaks of elements, and where the
key holds no array the removal deletes the key, with a value of which the filter selects nothing
(`PatchOperation.filtered_removal_drops_scalar`).
-/

namespace Scim

open Segment (walk)

namespace Patch

variable {value : Option Json} {parent : Option String} {segment last : Segment}
  {before rest : List Segment} {members : Members} {filter : Option ElementFilter}
  {f : ElementFilter} {change : Members → Members}

/-! ## Where a removal stops -/

theorem changeFirst_of_none {items : List Json} (h : items.any f.selects = false) :
    changeFirst f change items = items := by
  induction items with
  | nil => rfl
  | cons item items ih =>
    rw [List.any_cons, Bool.or_eq_false_iff] at h
    rw [changeFirst_cons_of_not h.1, ih h.2]

/-- A removal goes on only into objects, where a key has no filter. -/
theorem passRemoving_of_not_object {held : Option Json}
    (h : ∀ child, held ≠ some (.obj child)) : passRemoving none change held = held := by
  match held with
  | some (.obj child) => exact absurd rfl (h child)
  | none | some .null | some (.bool _) | some (.num _) | some (.str _) | some (.arr _) => rfl

/-- A removal goes on only into elements that are selected, where a key has a filter. -/
theorem passRemoving_of_none {held : Option Json} (h : (itemsOf held).any f.selects = false) :
    passRemoving (some f) change held = held := by
  match held with
  | some (.arr items) => exact congrArg (fun kept => some (Json.arr kept)) (changeFirst_of_none h)
  | none | some .null | some (.bool _) | some (.num _) | some (.str _) | some (.obj _) => rfl

/-- Where the walk cannot be continued a removal leaves everything. -/
theorem along_remove_of_not_enter (h : ∀ child, segment.enter (.obj members) ≠ some (.obj child))
    (hrest : rest ≠ []) : along .remove value parent (segment :: rest) members = members := by
  rw [along_cons, atFirst_of_ne_nil hrest]
  apply Members.alter_eq_self
  rw [pass]
  cases hfilter : segment.filter with
  | none =>
    rw [Segment.enter_unfiltered hfilter] at h
    exact passRemoving_of_not_object h
  | some f =>
    rw [Segment.enter_filtered hfilter] at h
    apply passRemoving_of_none
    rw [Bool.eq_false_iff]
    intro hany
    -- what a filter selects is an object, which could be entered
    obtain ⟨first, child, after, hitems, hfirst, hchild⟩ := exists_first_selected hany
    rw [hitems] at h
    exact h child (find?_append_selected hfirst hchild after)

/-- A removal whose path does not lead to members that could hold the last key changes nothing. -/
theorem along_remove_of_unreached
    (h : ∀ inner, walk before (.obj members) ≠ some (.obj inner)) :
    along .remove value parent (before ++ [last]) members = members := by
  obtain ⟨_, segment, rest, inner, _, -, -, hbreak, hexchanges⟩ :=
    exists_exchanges_break h last .remove value parent
  rw [along_remove_of_not_enter hbreak (by simp)] at hexchanges
  exact hexchanges.eq_iff.mpr rfl

/-- Otherwise it changes what the last key holds. -/
theorem exchanges_along_remove {inner : Members}
    (h : walk before (.obj members) = some (.obj inner)) (value : Option Json)
    (parent : Option String) (last : Segment) :
    Members.Exchanges inner (Members.alter last.key (clear last.filter value) inner) before members
      (along .remove value parent (before ++ [last]) members) :=
  exchanges_along h (List.cons_ne_nil last []) .remove value parent

/-! ## What a removal leaves under the last key -/

/-- Under the last key nothing is left, or some of the elements of an array. -/
theorem clear_cases (filter : Option ElementFilter) (value held : Option Json) :
    clear filter value held = none ∨ ∃ items kept, held = some (.arr items)
      ∧ List.Sublist kept items ∧ clear filter value held = some (.arr kept) := by
  unfold clear
  split
  · next items =>
    right
    split
    · exact ⟨items, _, rfl, List.filter_sublist, rfl⟩
    · exact ⟨items, items, rfl, List.Sublist.refl items, rfl⟩
    · exact ⟨items, items, rfl, List.Sublist.refl items, rfl⟩
    · exact ⟨items, _, rfl, List.filter_sublist, rfl⟩
    · exact ⟨items, _, rfl, List.filter_sublist, rfl⟩
  · exact .inl rfl

/-- The members that hold the last key lose it, or some of the elements under it. -/
theorem alter_clear_cases (filter : Option ElementFilter) (value : Option Json) (key : String)
    (members : Members) :
    Members.alter key (clear filter value) members = Members.erase key members
      ∨ ∃ items kept, Members.find? key members = some (.arr items) ∧ List.Sublist kept items
        ∧ Members.alter key (clear filter value) members
          = Members.insert key (.arr kept) members := by
  rcases clear_cases filter value (Members.find? key members) with
    hnone | ⟨items, kept, hheld, hkept, hclear⟩
  · exact .inl (Members.alter_congr hnone)
  · exact .inr ⟨items, kept, hheld, hkept, Members.alter_congr hclear⟩

theorem partMembers_alter_clear (filter : Option ElementFilter) (value : Option Json)
    (key : String) (members : Members) :
    Json.PartMembers (Members.alter key (clear filter value) members) members := by
  rcases alter_clear_cases filter value key members with heq | ⟨items, kept, hheld, hkept, heq⟩
  · rw [heq]
    exact .erase key members
  · rw [heq]
    exact .insert hheld (.arr (.of_sublist hkept))

end Patch

/-- If a part is left inside, a part is left outside. -/
theorem Members.Exchanges.part {inner inner' members members' : Members} {segments : List Segment}
    (h : Exchanges inner inner' segments members members')
    (hinner : Json.PartMembers inner' inner) : Json.PartMembers members' members := by
  induction h with
  | here => exact hinner
  | underKey unfiltered held below ih => exact .insert held (.obj ih)
  | inElement filtered held first selected below ih =>
    exact .insert held (.arr (.middle (.obj ih) _ _))

/-! ## Removals at the root -/

namespace Members

variable {key : String} {member : String × Json} {members : Members}

theorem erase_sublist (key : String) (members : Members) :
    List.Sublist (erase key members) members := by
  induction members with
  | nil => exact List.Sublist.refl []
  | cons head rest ih =>
    obtain ⟨k, v⟩ := head
    simp only [erase, alter] at ih ⊢
    split
    · exact List.sublist_cons_self _ rest
    · split
      · exact List.Sublist.refl _
      · exact ih.cons_cons _

theorem mem_erase_of_ne (hmem : member ∈ members) (hne : member.1 ≠ key) :
    member ∈ erase key members := by
  induction members with
  | nil => exact hmem
  | cons head rest ih =>
    obtain ⟨k, v⟩ := head
    simp only [erase, alter] at ih ⊢
    rcases List.mem_cons.mp hmem with rfl | hmem
    · rw [if_neg hne]
      split <;> exact List.mem_cons_self
    · split
      · exact hmem
      · split
        · exact List.mem_cons_of_mem _ hmem
        · exact List.mem_cons_of_mem _ (ih hmem)

theorem foldl_erase_sublist (fields members : Members) :
    List.Sublist (fields.foldl (fun ms field => erase field.1 ms) members) members := by
  induction fields generalizing members with
  | nil => exact List.Sublist.refl members
  | cons field fields ih => exact (ih _).trans (erase_sublist field.1 members)

theorem mem_foldl_erase {fields : Members} (hmem : member ∈ members)
    (hne : member.1 ∉ fields.map Prod.fst) :
    member ∈ fields.foldl (fun ms field => erase field.1 ms) members := by
  induction fields generalizing members with
  | nil => exact hmem
  | cons field fields ih =>
    rw [List.map_cons, List.mem_cons, not_or] at hne
    exact ih (mem_erase_of_ne hmem hne.1) hne.2

end Members

namespace Patch

variable {value : Option Json} {members : Members}

theorem atRoot_remove_sublist (value : Option Json) (members : Members) :
    List.Sublist (atRoot .remove value members) members := by
  unfold atRoot
  split
  · exact Members.foldl_erase_sublist _ members
  · exact List.Sublist.refl members

/-- A member stays whose key is not named. -/
theorem mem_atRoot_remove {member : String × Json} (hmem : member ∈ members)
    (hne : ∀ fields, value = some (.obj fields) → member.1 ∉ fields.map Prod.fst) :
    member ∈ atRoot .remove value members := by
  unfold atRoot
  split
  · next fields => exact Members.mem_foldl_erase hmem (hne fields rfl)
  · exact hmem

end Patch

/-! ## Removals -/

namespace PatchOperation

open Members (Exchanges)

section Filtered

variable {op : PatchOperation} (hkind : op.kind = .remove) {path : String}
  (hop : op.path = some path) {before : List Segment} {last : Segment}
  (hsegments : Segment.ofPath path = before ++ [last])
include hkind hop hsegments

theorem apply_remove (members : Members) :
    op.apply members = Patch.along .remove op.value none (before ++ [last]) members := by
  have hpath : path ≠ "" := by
    rintro rfl
    exact List.append_ne_nil_of_right_ne_nil before (List.cons_ne_nil last []) hsegments.symm
  rw [apply_of_path hop hpath, hkind, hsegments]

/-- A path leads a removal to the members that hold the last key, or nothing changes. -/
theorem apply_remove_cases (members : Members) :
    op.apply members = members ∨ ∃ inner, Exchanges inner
      (Members.alter last.key (Patch.clear last.filter op.value) inner) before members
      (op.apply members) := by
  rw [apply_remove hkind hop hsegments]
  by_cases h : ∃ inner, walk before (.obj members) = some (.obj inner)
  · obtain ⟨inner, hwalk⟩ := h
    exact .inr ⟨inner, Patch.exchanges_along_remove hwalk op.value none last⟩
  · exact .inl (Patch.along_remove_of_unreached (not_exists.mp h))

/-- A removal whose path ends in a filter is exact, for every document.  Where the walk leads to
members with an array under the last key, the array keeps the elements that the filter does not
select, in their order, and nothing else changes.  Where it leads to members without the key, or to
no members, nothing changes.  What is no array goes as a whole. -/
theorem filtered_removal_exact {f : ElementFilter} (hfilter : last.filter = some f)
    (members : Members) :
    (∀ inner items, walk before (.obj members) = some (.obj inner) →
        Members.find? last.key inner = some (.arr items) →
        Exchanges inner
          (Members.insert last.key (.arr (items.filter fun item => !f.selects item)) inner)
          before members (op.apply members)) ∧
      (∀ inner, walk before (.obj members) = some (.obj inner) →
        Members.find? last.key inner = none → op.apply members = members) ∧
      ((∀ inner, walk before (.obj members) ≠ some (.obj inner)) → op.apply members = members) ∧
      (∀ inner held, walk before (.obj members) = some (.obj inner) →
        Members.find? last.key inner = some held → held.isArray = false →
        Exchanges inner (Members.erase last.key inner) before members (op.apply members)) := by
  rw [apply_remove hkind hop hsegments]
  have hreached : ∀ inner, walk before (.obj members) = some (.obj inner) →
      Exchanges inner (Members.alter last.key (Patch.clear (some f) op.value) inner) before members
        (Patch.along .remove op.value none (before ++ [last]) members) :=
    fun inner hwalk => hfilter ▸ Patch.exchanges_along_remove hwalk op.value none last
  refine ⟨?_, ?_, Patch.along_remove_of_unreached, ?_⟩
  · intro inner items hwalk hheld
    have hclear : Patch.clear (some f) op.value (Members.find? last.key inner)
        = some (.arr (items.filter fun item => !f.selects item)) := by
      rw [hheld]
      rfl
    have hexchanges := hreached inner hwalk
    rwa [Members.alter_congr (g := fun _ => _) hclear] at hexchanges
  · intro inner hwalk hheld
    have hsame : Members.alter last.key (Patch.clear (some f) op.value) inner = inner := by
      apply Members.alter_eq_self
      rw [hheld]
      rfl
    exact (hreached inner hwalk).eq_iff.mpr hsame
  · intro inner held hwalk hheld hplain
    have hclear : Patch.clear (some f) op.value (Members.find? last.key inner) = none := by
      rw [hheld]
      cases held with
      | arr items => cases hplain
      | null | bool | num | str | obj => rfl
    have hexchanges := hreached inner hwalk
    rwa [Members.alter_congr (g := fun _ => none) hclear] at hexchanges

end Filtered

/-- Removes the work addresses. -/
def removingWorkAddresses : PatchOperation where
  kind := .remove
  path := some "emails[type eq \"work\"]"

theorem ofPath_workAddresses : Segment.ofPath "emails[type eq \"work\"]"
    = [] ++ [⟨"emails[type eq \"work\"]", "emails", some ⟨"type", .str "work"⟩⟩] := rfl

/-- Of three addresses the two at work go, in whatever case they say so. -/
theorem filtered_removal_exact_of_emails :
    removingWorkAddresses.apply [("emails", .arr [.obj [("type", .str "work")],
        .obj [("type", .str "home")], .obj [("type", .str "WORK")]]), ("userName", .str "ada")]
      = [("emails", .arr [.obj [("type", .str "home")]]), ("userName", .str "ada")] := by
  have hkind : removingWorkAddresses.kind = .remove := rfl
  have hexchanges := (filtered_removal_exact hkind rfl
    ofPath_workAddresses rfl [("emails", .arr [.obj [("type", .str "work")],
      .obj [("type", .str "home")], .obj [("type", .str "WORK")]]), ("userName", .str "ada")]).1
    _ _ rfl rfl
  cases hexchanges with
  | here => rfl

/-- An address that is no array goes with the work addresses, although the filter selects nothing
of it. -/
theorem filtered_removal_drops_scalar :
    Members.find? "emails" [("emails", .str "ada@home")] = some (.str "ada@home")
      ∧ removingWorkAddresses.apply [("emails", .str "ada@home")] = [] :=
  ⟨rfl, rfl⟩

/-- What a removal leaves is a part of the document. -/
theorem part_apply {op : PatchOperation} (hkind : op.kind = .remove) (members : Members) :
    Json.Part (.obj (op.apply members)) (.obj members) := by
  refine .obj ?_
  rcases op.targetsRoot_or_path with htargets | ⟨path, hop, hpath⟩
  · rw [apply_of_targetsRoot htargets, hkind]
    exact .of_sublist (Patch.atRoot_remove_sublist op.value members)
  · obtain ⟨before, last, hsegments⟩ := Segment.exists_ofPath_eq_concat hpath
    rcases apply_remove_cases hkind hop hsegments members with hsame | ⟨inner, hexchanges⟩
    · rw [hsame]
      exact .refl members
    · exact hexchanges.part (Patch.partMembers_alter_clear last.filter op.value last.key inner)

/-- So is what is left of it after any number of removals. -/
theorem part_applyAll {ops : List PatchOperation} (hkinds : ∀ op ∈ ops, op.kind = .remove)
    (members : Members) : Json.Part (.obj (applyAll ops members)) (.obj members) := by
  induction ops generalizing members with
  | nil => exact .same _
  | cons op ops ih =>
    obtain ⟨hkind, hrest⟩ := List.forall_mem_cons.mp hkinds
    exact (ih hrest (op.apply members)).trans (part_apply hkind members)

/-- A removal deletes and does nothing else, for every document, value and path.  What is left is a
part of the document.  At the root members go and those stay whose keys are not named.  Along a path
nothing changes but the members that the walk leads to, which lose the last key, or elements of the
array under it. -/
theorem removal_deletes {op : PatchOperation} (hkind : op.kind = .remove) (members : Members) :
    Json.Part (.obj (op.apply members)) (.obj members) ∧
      (op.targetsRoot = true → List.Sublist (op.apply members) members ∧
        ∀ member ∈ members,
          (∀ fields, op.value = some (.obj fields) → member.1 ∉ fields.map Prod.fst) →
          member ∈ op.apply members) ∧
      (∀ path, op.path = some path → path ≠ "" →
        ∃ before last, Segment.ofPath path = before ++ [last] ∧
          (op.apply members = members ∨ ∃ inner inner',
            Exchanges inner inner' before members (op.apply members) ∧
              (inner' = Members.erase last.key inner ∨ ∃ items kept,
                Members.find? last.key inner = some (.arr items) ∧ List.Sublist kept items ∧
                  inner' = Members.insert last.key (.arr kept) inner))) := by
  refine ⟨part_apply hkind members, ?_, ?_⟩
  · intro htargets
    rw [apply_of_targetsRoot htargets, hkind]
    exact ⟨Patch.atRoot_remove_sublist op.value members,
      fun member hmem hne => Patch.mem_atRoot_remove hmem hne⟩
  · intro path hop hpath
    obtain ⟨before, last, hsegments⟩ := Segment.exists_ofPath_eq_concat hpath
    refine ⟨before, last, hsegments, ?_⟩
    rcases apply_remove_cases hkind hop hsegments members with hsame | ⟨inner, hexchanges⟩
    · exact .inl hsame
    · exact .inr ⟨inner, _, hexchanges,
        Patch.alter_clear_cases last.filter op.value last.key inner⟩

/-- Removes what the work address is displayed as. -/
def removingWorkDisplay : PatchOperation where
  kind := .remove
  path := some "emails[type eq \"work\"].display"

/-- Of an address and a user one member goes. -/
theorem removal_deletes_of_display :
    removingWorkDisplay.kind = .remove ∧
      removingWorkDisplay.apply [("emails", .arr [.obj [("display", .str "Ada"),
          ("type", .str "work")]]), ("userName", .str "ada")]
        = [("emails", .arr [.obj [("type", .str "work")]]), ("userName", .str "ada")] ∧
      Json.Part (.obj (removingWorkDisplay.apply [("emails", .arr [.obj [("display", .str "Ada"),
          ("type", .str "work")]]), ("userName", .str "ada")]))
        (.obj [("emails", .arr [.obj [("display", .str "Ada"), ("type", .str "work")]]),
          ("userName", .str "ada")]) :=
  ⟨rfl, rfl, (removal_deletes rfl _).1⟩

end PatchOperation

end Scim
