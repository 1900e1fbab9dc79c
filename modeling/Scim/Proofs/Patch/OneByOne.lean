import Scim.Proofs.Patch.Removal

/-!
# Removing elements one by one

A removal with a list of values takes from an array what the same removals take from it that name
the values one at a time, in any order (`PatchOperation.list_removed_one_by_one`).  On the array
itself this is a law of filtering.  What needs an argument is the way to it: every single removal
has to find the array that the one before has left.  It does so because filters look at scalars
only, and on the way to an array nothing but arrays and objects is exchanged.
-/

namespace Scim

open Segment (walk)

/-! ## Exchanges that filters do not notice -/

namespace ElementFilter

theorem sameScalar_obj (members : Members) (value : Json) :
    sameScalar (.obj members) value = false := by
  cases value <;> rfl

theorem sameScalar_arr (items : List Json) (value : Json) :
    sameScalar (.arr items) value = false := by
  cases value <;> rfl

/-- A filter does not notice that a value is exchanged for one that is equal to the same scalars. -/
theorem selects_insert {f : ElementFilter} {key : String} {held written : Json} {members : Members}
    (hheld : Members.find? key members = some held)
    (hsame : ∀ value, sameScalar written value = sameScalar held value) :
    f.selects (.obj (Members.insert key written members)) = f.selects (.obj members) := by
  by_cases hname : f.name = key
  · simp only [selects, Json.get?, hname, Members.find?_insert_self, hheld, hsame]
  · exact selects_congr (Members.find?_insert_of_ne hname written members)

end ElementFilter

namespace Members

/-- Two values of an object between which no filter tells the difference. -/
def AlikeToFilters (first second : Members) : Prop :=
  ∀ f : ElementFilter, f.selects (.obj first) = f.selects (.obj second)

variable {inner inner' members members' : Members} {segments : List Segment}

/-- What filters do not notice inside they do not notice outside. -/
theorem Exchanges.alikeToFilters (h : Exchanges inner inner' segments members members')
    (hinner : AlikeToFilters inner' inner) : AlikeToFilters members' members := by
  intro f
  cases h with
  | here => exact hinner f
  | underKey unfiltered held below =>
    refine ElementFilter.selects_insert held fun value => ?_
    rw [ElementFilter.sameScalar_obj, ElementFilter.sameScalar_obj]
  | inElement filtered held first selected below =>
    refine ElementFilter.selects_insert held fun value => ?_
    rw [ElementFilter.sameScalar_arr, ElementFilter.sameScalar_arr]

/-- The walk leads to what was put in. -/
theorem Exchanges.walk_eq (h : Exchanges inner inner' segments members members')
    (hinner : AlikeToFilters inner' inner) :
    walk segments (.obj members') = some (.obj inner') := by
  induction h with
  | here => rfl
  | @underKey segment rest members child child' unfiltered held below ih =>
    rw [walk, Segment.enter_unfiltered unfiltered, find?_insert_self, Option.bind_some, ih]
  | @inElement segment rest f members child child' before after filtered held first selected
      below ih =>
    -- the element that was exchanged is still the first that the filter selects
    have hchild : f.selects (.obj child') = true := by rw [below.alikeToFilters hinner f, selected]
    rw [walk, Segment.enter_filtered filtered, find?_insert_self, Patch.itemsOf,
      Patch.find?_append_selected first hchild, Option.bind_some, ih]

end Members

/-- There is one first selected element, so an array splits at it in one way. -/
theorem Patch.eq_of_append_selected {f : ElementFilter} {child other : Members}
    {before before' after after' : List Json} (hbefore : before.any f.selects = false)
    (hchild : f.selects (.obj child) = true) (hbefore' : before'.any f.selects = false)
    (hother : f.selects (.obj other) = true)
    (h : before ++ .obj child :: after = before' ++ .obj other :: after') :
    child = other ∧ ∀ written : Members,
      before ++ .obj written :: after = before' ++ .obj written :: after' := by
  constructor
  · have hfound := find?_append_selected hbefore hchild after
    rw [h, find?_append_selected hbefore' hother] at hfound
    exact (Json.obj.inj (Option.some.inj hfound)).symm
  · intro written
    have hchanged : changeFirst f (fun _ => written) (before ++ .obj child :: after)
        = before ++ .obj written :: after := changeFirst_append hbefore hchild after
    rw [h, changeFirst_append hbefore' hother] at hchanged
    exact hchanged.symm

namespace Members

variable {inner inner' inner'' members members' members'' : Members} {segments : List Segment}

/-- An exchange is determined by what is put in. -/
theorem Exchanges.unique (h : Exchanges inner inner' segments members members')
    (h' : Exchanges inner inner' segments members members'') : members' = members'' := by
  induction h generalizing members'' with
  | here =>
    cases h'
    rfl
  | underKey unfiltered held below ih =>
    cases h' with
    | underKey unfiltered' held' below' =>
      rw [held] at held'
      obtain rfl := Json.obj.inj (Option.some.inj held')
      rw [ih below']
    | inElement filtered' => cases unfiltered.symm.trans filtered'
  | inElement filtered held first selected below ih =>
    cases h' with
    | underKey unfiltered' => cases unfiltered'.symm.trans filtered
    | inElement filtered' held' first' selected' below' =>
      obtain rfl := Option.some.inj (filtered.symm.trans filtered')
      rw [held] at held'
      obtain ⟨rfl, hwritten⟩ := Patch.eq_of_append_selected first selected first' selected'
        (Json.arr.inj (Option.some.inj held'))
      rw [ih below', hwritten]

/-- Of two exchanges in a row the later remains. -/
theorem Exchanges.trans (h : Exchanges inner inner' segments members members')
    (hinner : AlikeToFilters inner' inner)
    (h' : Exchanges inner' inner'' segments members' members'') :
    Exchanges inner inner'' segments members members'' := by
  induction h generalizing members'' with
  | here =>
    cases h'
    exact .here
  | underKey unfiltered held below ih =>
    cases h' with
    | underKey unfiltered' held' below' =>
      rw [find?_insert_self] at held'
      obtain rfl := Json.obj.inj (Option.some.inj held')
      rw [insert_insert]
      exact .underKey unfiltered held (ih below')
    | inElement filtered' => cases unfiltered.symm.trans filtered'
  | @inElement segment rest f members child child' before after filtered held first selected below
      ih =>
    cases h' with
    | underKey unfiltered' => cases unfiltered'.symm.trans filtered
    | inElement filtered' held' first' selected' below' =>
      obtain rfl := Option.some.inj (filtered.symm.trans filtered')
      rw [find?_insert_self] at held'
      have hchild : f.selects (.obj child') = true := by
        rw [below.alikeToFilters hinner f, selected]
      obtain ⟨rfl, hwritten⟩ := Patch.eq_of_append_selected first hchild first' selected'
        (Json.arr.inj (Option.some.inj held'))
      rw [insert_insert, ← hwritten]
      exact .inElement filtered held first selected (ih below')

end Members

/-! ## Arrays without the elements that are named -/

namespace Patch

theorem withoutNamed_nil (items : List Json) : withoutNamed [] items = items :=
  List.filter_eq_self.mpr fun _ _ => rfl

/-- Two lists of removals in a row are one list of removals. -/
theorem withoutNamed_append (first second items : List Json) :
    withoutNamed (first ++ second) items = withoutNamed second (withoutNamed first items) := by
  rw [withoutNamed, withoutNamed, withoutNamed, List.filter_filter]
  refine List.filter_congr fun item _ => ?_
  rw [List.any_append, Bool.not_or, Bool.and_comm]

/-- The order of the removals does not matter. -/
theorem withoutNamed_perm {first second : List Json} (h : first.Perm second) (items : List Json) :
    withoutNamed first items = withoutNamed second items := by
  refine List.filter_congr fun item _ => ?_
  rw [h.any_eq]

/-- A value that a removal takes for the name of elements, and not for a list of names or for
none. -/
def IsName (value : Json) : Prop :=
  value.isNull = false ∧ value.isArray = false

theorem clear_of_isName {value : Json} (h : IsName value) (items : List Json) :
    clear none (some value) (some (.arr items)) = some (.arr (withoutNamed [value] items)) := by
  cases value with
  | null => cases h.1
  | arr => cases h.2
  | bool | num | str | obj => rfl

end Patch

/-! ## Removals one by one -/

namespace PatchOperation

open Members (Exchanges AlikeToFilters)
open Patch (IsName withoutNamed)

/-- Removes what a path leads to; from an array, the elements that a value names. -/
def removing (path : String) (value : Json) : PatchOperation where
  kind := .remove
  path := some path
  value := some value

section Array

variable {path : String} {before : List Segment} {last : Segment}
  (hsegments : Segment.ofPath path = before ++ [last]) (hfilter : last.filter = none)
  {members inner : Members} {items : List Json}
  (hwalk : walk before (.obj members) = some (.obj inner))
  (hheld : Members.find? last.key inner = some (.arr items))
include hsegments hfilter hwalk hheld

/-- The walk to an array leads a removal to it. -/
theorem exchanges_removing {value : Json} {kept : List Json}
    (hclear : Patch.clear none (some value) (some (.arr items)) = some (.arr kept)) :
    Exchanges inner (Members.insert last.key (.arr kept) inner) before members
      ((removing path value).apply members) := by
  have hinner : Members.alter last.key (Patch.clear last.filter (some value)) inner
      = Members.insert last.key (.arr kept) inner :=
    Members.alter_congr (by rw [hfilter, hheld, hclear])
  rw [apply_remove rfl rfl hsegments, ← hinner]
  exact Patch.exchanges_along_remove hwalk (some value) none last

/-- Removals that name one value each leave the elements that none of them names. -/
theorem exchanges_removing_each {order : List Json} (hnames : ∀ value ∈ order, IsName value) :
    Exchanges inner (Members.insert last.key (.arr (withoutNamed order items)) inner) before members
      (applyAll (order.map (removing path)) members) := by
  -- each removal finds the array that is left of the one before
  induction order generalizing members inner items with
  | nil =>
    have hnone : Patch.clear none (some (.arr [])) (some (.arr items)) = some (.arr items) :=
      congrArg (fun kept => some (Json.arr kept)) (Patch.withoutNamed_nil items)
    have hexchanges := exchanges_removing hsegments hfilter hwalk hheld hnone
    have hsame : Members.insert last.key (.arr items) inner = inner :=
      Members.alter_eq_self hheld.symm
    rw [hexchanges.eq_iff.mpr hsame] at hexchanges
    rwa [Patch.withoutNamed_nil]
  | cons value order ih =>
    obtain ⟨hvalue, hnames⟩ := List.forall_mem_cons.mp hnames
    have hfirst := exchanges_removing hsegments hfilter hwalk hheld
      (Patch.clear_of_isName hvalue items)
    have halike : AlikeToFilters
        (Members.insert last.key (.arr (withoutNamed [value] items)) inner) inner := by
      intro f
      refine ElementFilter.selects_insert hheld fun other => ?_
      rw [ElementFilter.sameScalar_arr, ElementFilter.sameScalar_arr]
    have hrest := ih (hfirst.walk_eq halike) (Members.find?_insert_self _ _ _) hnames
    have hboth := hfirst.trans halike hrest
    rwa [Members.insert_insert, ← Patch.withoutNamed_append, List.singleton_append] at hboth

end Array

/-- Where a path without a filter at its end leads to an array, there are members that hold it. -/
theorem exists_members_of_walk_eq_arr {before : List Segment} {last : Segment}
    (hfilter : last.filter = none) {j : Json} {items : List Json}
    (h : walk (before ++ [last]) j = some (.arr items)) :
    ∃ inner, walk before j = some (.obj inner)
      ∧ Members.find? last.key inner = some (.arr items) := by
  induction before generalizing j with
  | nil =>
    obtain ⟨held, henter, hheld⟩ := Option.bind_eq_some_iff.mp h
    obtain rfl : held = .arr items := Option.some.inj hheld
    unfold Segment.enter at henter
    rw [hfilter] at henter
    cases j with
    | obj inner => exact ⟨inner, rfl, henter⟩
    | null | bool | num | str | arr => cases henter
  | cons segment before ih =>
    obtain ⟨next, henter, hnext⟩ := Option.bind_eq_some_iff.mp h
    obtain ⟨inner, hwalk, hheld⟩ := ih hnext
    exact ⟨inner, by rw [walk, henter, Option.bind_some, hwalk], hheld⟩

/-- A removal with a list of values is the same as removals of the values one by one, in any order,
for every document and every path without a filter at its end that leads to an array.  Both leave
the elements that none of the values names, in the order in which they stood, and change nothing
else.  The values are of any kind but `null` and arrays, by which a removal names no element. -/
theorem list_removed_one_by_one {path : String} {before : List Segment} {last : Segment}
    (hsegments : Segment.ofPath path = before ++ [last]) (hfilter : last.filter = none)
    {members : Members} {items : List Json}
    (hwalk : walk (Segment.ofPath path) (.obj members) = some (.arr items))
    {removals order : List Json} (hnames : ∀ value ∈ removals, IsName value)
    (horder : order.Perm removals) :
    (removing path (.arr removals)).apply members = applyAll (order.map (removing path)) members
      ∧ ∃ inner kept, kept = items.filter (fun item => !removals.any (Patch.isRemoved · item))
        ∧ List.Sublist kept items
        ∧ Exchanges inner (Members.insert last.key (.arr kept) inner) before members
          ((removing path (.arr removals)).apply members) := by
  rw [hsegments] at hwalk
  obtain ⟨inner, hwalk, hheld⟩ := exists_members_of_walk_eq_arr hfilter hwalk
  have hclear : Patch.clear none (some (.arr removals)) (some (.arr items))
      = some (.arr (withoutNamed removals items)) := rfl
  have hlist := exchanges_removing hsegments hfilter hwalk hheld hclear
  have heach := exchanges_removing_each hsegments hfilter hwalk hheld
    fun value hvalue => hnames value (horder.mem_iff.mp hvalue)
  rw [Patch.withoutNamed_perm horder] at heach
  exact ⟨hlist.unique heach, inner, _, rfl, List.filter_sublist, hlist⟩

/-- A user with one direct group, whose members are known by a value, an identifier or a number. -/
def directGroup : Members :=
  [("groups", .arr [.obj [("type", .str "indirect")], .obj [("members", .arr [
    .obj [("value", .str "u1")], .obj [("id", .str "u2")], .num (.int 3), .bool true]),
    ("type", .str "direct")]])]

/-- The path of the members of the direct group. -/
def directMembers : String :=
  "groups[type eq \"direct\"].members"

theorem ofPath_directMembers : Segment.ofPath directMembers
    = [⟨"groups[type eq \"direct\"]", "groups", some ⟨"type", .str "direct"⟩⟩]
      ++ [⟨"members", "members", none⟩] := rfl

/-- The member with an identifier and the number go, in whatever order they are named. -/
theorem list_removed_one_by_one_of_directGroup :
    (removing directMembers (.arr [.str "3", .obj [("value", .str "u2")]])).apply directGroup
      = applyAll [removing directMembers (.obj [("value", .str "u2")]),
          removing directMembers (.str "3")] directGroup
    ∧ (removing directMembers (.arr [.str "3", .obj [("value", .str "u2")]])).apply directGroup
      = [("groups", .arr [.obj [("type", .str "indirect")], .obj [("members", .arr [
          .obj [("value", .str "u1")], .bool true]), ("type", .str "direct")]])] := by
  have hnames : ∀ value ∈ [Json.str "3", Json.obj [("value", .str "u2")]], IsName value := by
    simp [IsName, Json.isNull, Json.isArray, Json.items?]
  have hwalk : walk (Segment.ofPath directMembers) (.obj directGroup) = some (.arr [
      .obj [("value", .str "u1")], .obj [("id", .str "u2")], .num (.int 3), .bool true]) := rfl
  have hsame := list_removed_one_by_one ofPath_directMembers rfl hwalk hnames
    (List.Perm.swap _ _ [])
  exact ⟨hsame.1, rfl⟩

end PatchOperation

end Scim
