import Scim.Proofs.Json.Ascending
import Scim.Proofs.Patch.Dropped

/-!
# What a write leaves alone

An add or replace operation changes a document along its path and nowhere else.  At every level that
its walk comes to, the other keys hold what they held; of an array one element changes, the first
that the filter selects, or one is appended where there is none (`Segment.Changes`).  Level by level
this is what stands between a document before and after a write (`Members.ChangedAlong`).

At the end of the path the value arrives (`PatchOperation.Arrives`): by the same rules where the
last segment has a filter, and otherwise under the last key, where an array that grows keeps its
elements in front.  A write whose way is barred changes nothing at all
(`PatchOperation.write_confined`).
-/

namespace Scim

open Segment (landing IsBarred)

/-- What the key of a segment holds before and after a write changes `child` to `child'` there. -/
inductive Segment.Changes (segment : Segment) (child child' : Members) :
    Option Json → Option Json → Prop
  /-- The object under a key. -/
  | object (unfiltered : segment.filter = none) :
      Changes segment child child' (some (.obj child)) (some (.obj child'))
  /-- An object that is made under a key, in the place of nothing or of a scalar. -/
  | made {held : Option Json} (unfiltered : segment.filter = none)
      (scalar : ∀ j, held = some j → j.isObject = false ∧ j.isArray = false) (empty : child = []) :
      Changes segment child child' held (some (.obj child'))
  /-- The first element that the filter selects.  Those before and behind it stay as they are. -/
  | element {f : ElementFilter} {before after : List Json} (filtered : segment.filter = some f)
      (first : before.any f.selects = false) (selected : f.selects (.obj child) = true) :
      Changes segment child child' (some (.arr (before ++ .obj child :: after)))
        (some (.arr (before ++ .obj child' :: after)))
  /-- An element that is made behind all others, of which the filter selects none.  What is no array
  counts as an empty one. -/
  | appended {held : Option Json} {f : ElementFilter} (filtered : segment.filter = some f)
      (unselected : (Patch.itemsOf held).any f.selects = false) (seeded : child = f.seed) :
      Changes segment child child' held (some (.arr (Patch.itemsOf held ++ [.obj child'])))

/-- Members before and after a write along the segments has changed `inner` to `inner'` at their
end. -/
inductive Members.ChangedAlong (inner inner' : Members) : List Segment → Members → Members → Prop
  | here : ChangedAlong inner inner' [] inner inner'
  | behind {segment : Segment} {rest : List Segment} {members members' child child' : Members}
      (apart : AgreeApartFrom segment.key members members')
      (changed : segment.Changes child child' (find? segment.key members)
        (find? segment.key members'))
      (below : ChangedAlong inner inner' rest child child') :
      ChangedAlong inner inner' (segment :: rest) members members'

/-- The elements by which an array grows when a value is added to it. -/
def Patch.addedItems : Json → List Json
  | .arr items => items
  | value => [value]

/-- What a write makes of the members that hold the last key of its path. -/
structure PatchOperation.Arrives (op : PatchOperation) (last : Segment) (inner inner' : Members) :
    Prop where
  apart : Members.AgreeApartFrom last.key inner inner'
  valueless : op.value = none → inner' = inner
  /-- Behind a filter the value is merged into an element. -/
  filtered : ∀ f value, last.filter = some f → op.value = some value →
    last.Changes (last.goOn inner) (Patch.mergeValue value (last.goOn inner))
      (Members.find? last.key inner) (Members.find? last.key inner')
  /-- An array that something is added to keeps its elements in front. -/
  grown : ∀ items value, last.filter = none → op.kind = .add → op.value = some value →
    Members.find? last.key inner = some (.arr items) →
    Members.find? last.key inner' = some (.arr (items ++ Patch.addedItems value))

namespace Patch

variable {kind : PatchKind} {value : Option Json} {segment last : Segment} {before : List Segment}
  {members inner : Members} {op : PatchOperation}

/-! ## One level -/

/-- A write that passes through a key changes the members with which it goes on. -/
theorem changes_passCreating (hopen : segment.filter = none →
      ∀ items, Members.find? segment.key members ≠ some (.arr items))
    (change : Members → Members) :
    segment.Changes (segment.goOn members) (change (segment.goOn members))
      (Members.find? segment.key members)
      (passCreating segment.filter change (Members.find? segment.key members)) := by
  by_cases henter : ∃ child, segment.enter (.obj members) = some (.obj child)
  · obtain ⟨child, henter⟩ := henter
    rw [Segment.goOn_of_enter henter]
    cases hfilter : segment.filter with
    | none =>
      rw [Segment.enter_unfiltered hfilter] at henter
      rw [henter]
      exact .object hfilter
    | some f =>
      obtain ⟨before, child, after, ⟨⟩, hheld, hbefore, hchild⟩ :=
        Segment.exists_element_of_enter hfilter henter
      rw [hheld, passCreating, itemsOf, changeOrAppend_append hbefore hchild]
      exact .element hfilter hbefore hchild
  · rcases Segment.isMissing_or_barred (not_exists.mp henter) with
      hmissing | ⟨hfilter, items, hheld⟩
    · rw [passCreating_of_isMissing hmissing, Segment.goOn_of_not_enter hmissing.not_enter,
        Segment.made, Segment.fresh]
      unfold Segment.IsMissing at hmissing
      cases hfilter : segment.filter with
      | none =>
        simp only [hfilter] at hmissing
        exact .made hfilter hmissing rfl
      | some f =>
        simp only [hfilter] at hmissing
        exact .appended hfilter hmissing rfl
    · exact absurd hheld (hopen hfilter items)

/-! ## Along a path -/

/-- A write whose way is open changes the members at its end, and on the way nothing else. -/
theorem exists_changedAlong_along (hkind : kind ≠ .remove) (parent : Option String)
    (hopen : ¬ IsBarred (before ++ [last]) members) :
    ∃ within, Members.ChangedAlong (landing before members)
      (along kind value within [last] (landing before members)) before members
      (along kind value parent (before ++ [last]) members) := by
  induction before generalizing members parent with
  | nil => exact ⟨parent, .here⟩
  | cons segment before ih =>
    have hne : before ++ [last] ≠ [] := List.append_ne_nil_of_right_ne_nil before (by simp)
    rw [List.cons_append, Segment.isBarred_cons_iff, not_or] at hopen
    obtain ⟨hfirst, hbehind⟩ := hopen
    obtain ⟨within, hbelow⟩ := ih (some segment.raw) hbehind
    refine ⟨within, .behind (fun other hother => find?_along_of_ne hkind hother) ?_ hbelow⟩
    rw [List.cons_append, find?_along_self hkind, atFirst_of_ne_nil hne, pass_of_ne_remove hkind]
    exact changes_passCreating
      (fun hfilter items hheld => hfirst ⟨hne, hfilter, items, hheld⟩) _

/-- At the end of its path the value of a write arrives. -/
theorem arrives_along (hkind : op.kind ≠ .remove) (last : Segment) (inner : Members)
    (within : Option String) :
    op.Arrives last inner (along op.kind op.value within [last] inner) where
  apart := fun other hother => find?_along_of_ne hkind hother
  valueless := by
    intro hvalue
    rw [hvalue]
    exact Members.alter_eq_self (arrive_none hkind within last _)
  filtered := by
    intro f value hfilter hvalue
    rw [hvalue, find?_along_self hkind, atFirst, arrive_some hkind, write, hfilter]
    have hchanges : last.Changes (last.goOn inner) (mergeValue value (last.goOn inner))
        (Members.find? last.key inner)
        (passCreating last.filter (mergeValue value) (Members.find? last.key inner)) :=
      changes_passCreating
        (fun hnone => absurd (hfilter.symm.trans hnone) (Option.some_ne_none f)) _
    rwa [hfilter] at hchanges
  grown := by
    intro items value hfilter hadd hvalue hheld
    rw [hvalue, find?_along_self hkind, atFirst, arrive_some hkind, write, hfilter, hadd, hheld]
    cases value <;> rfl

end Patch

/-! ## Writes along a path -/

namespace PatchOperation

/-- An add or replace touches nothing off its path, for every document.  Where an array bars the way
the document stays as it is.  Otherwise its members change along the path, down to those that hold
the last key, and there the value arrives. -/
theorem write_confined {op : PatchOperation} (hkind : op.kind ≠ .remove) {path : String}
    (hop : op.path = some path) (hpath : path ≠ "") (members : Members) :
    ∃ before last, Segment.ofPath path = before ++ [last] ∧
      (IsBarred (before ++ [last]) members → op.apply members = members) ∧
      (¬ IsBarred (before ++ [last]) members → ∃ inner',
        Members.ChangedAlong (landing before members) inner' before members (op.apply members) ∧
          op.Arrives last (landing before members) inner') := by
  obtain ⟨before, last, hsegments⟩ := Segment.exists_ofPath_eq_concat hpath
  have hseeds : Segment.SelectsSeeds (before ++ [last]) :=
    hsegments ▸ Segment.selectsSeeds_ofPath path
  refine ⟨before, last, hsegments, ?_, ?_⟩
  · intro hbarred
    rw [apply_of_path hop hpath, hsegments]
    exact Patch.along_of_meetsArray hkind op.value none
      ((Segment.meetsArray_iff_isBarred hseeds).mpr hbarred)
  · intro hopen
    rw [apply_of_path hop hpath, hsegments]
    obtain ⟨within, hchanged⟩ := Patch.exists_changedAlong_along hkind none hopen
    exact ⟨_, hchanged, Patch.arrives_along hkind last _ within⟩

/-- Adds a tag to the work address. -/
def addingWorkTag : PatchOperation where
  kind := .add
  path := some "emails[type eq \"work\"].tags"
  value := some (.str "lamp")

/-- The segment that leads to the work address. -/
def workAddress : Segment :=
  ⟨"emails[type eq \"work\"]", "emails", some ⟨"type", .str "work"⟩⟩

theorem ofPath_workTags : Segment.ofPath "emails[type eq \"work\"].tags"
    = [workAddress] ++ [⟨"tags", "tags", none⟩] := rfl

/-- The tag is added behind the other one, and the address stays a work address. -/
theorem write_confined_of_workTag :
    addingWorkTag.kind ≠ .remove ∧ ∃ address,
      Members.ChangedAlong (landing [workAddress] taggedAddresses) address [workAddress]
          taggedAddresses (addingWorkTag.apply taggedAddresses)
        ∧ Members.find? "type" address = some (.str "work")
        ∧ Members.find? "tags" address = some (.arr [.str "desk", .str "lamp"]) := by
  have hkind : addingWorkTag.kind ≠ .remove := by decide
  obtain ⟨before, last, hsegments, -, hchanges⟩ :=
    write_confined hkind rfl (by decide) taggedAddresses
  obtain ⟨rfl, hlast⟩ := List.append_inj' (ofPath_workTags.symm.trans hsegments) rfl
  obtain rfl := List.singleton_inj.mp hlast
  have hopen : ¬ IsBarred (Segment.ofPath "emails[type eq \"work\"].tags") taggedAddresses := by
    rw [← Segment.meetsArray_iff_isBarred (Segment.selectsSeeds_ofPath _)]
    decide
  obtain ⟨address, hchanged, harrives⟩ := hchanges hopen
  exact ⟨hkind, address, hchanged, harrives.apart "type" (by decide),
    harrives.grown _ _ rfl rfl rfl rfl⟩

end PatchOperation

end Scim
