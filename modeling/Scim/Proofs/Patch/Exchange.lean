import Scim.Proofs.Patch.Replace

/-!
# What an operation changes below a walk

Along the part of a path that leads through objects and selected elements, an operation of any kind
does nothing but go on: it exchanges the members that the walk leads to for what the rest of the
path makes of them, and nothing else changes (`Patch.exchanges_along`).  Where the walk leads to no
members there is a first segment that cannot be entered (`Segment.exists_break`), and it remains to
look at what the operation does there.
-/

namespace Scim

open Segment (walk meetsArray)

/-- Members before and after something below them has changed: the segments lead to `inner`, which
becomes `inner'`, every other key on the way holds what it held, and every other element of an array
on the way stays where it was. -/
inductive Members.Exchanges (inner inner' : Members) : List Segment → Members → Members → Prop
  | here : Exchanges inner inner' [] inner inner'
  | underKey {segment : Segment} {rest : List Segment} {members child child' : Members}
      (unfiltered : segment.filter = none)
      (held : find? segment.key members = some (.obj child))
      (below : Exchanges inner inner' rest child child') :
      Exchanges inner inner' (segment :: rest) members (insert segment.key (.obj child') members)
  | inElement {segment : Segment} {rest : List Segment} {f : ElementFilter}
      {members child child' : Members} {before after : List Json}
      (filtered : segment.filter = some f)
      (held : find? segment.key members = some (.arr (before ++ .obj child :: after)))
      (first : before.any f.selects = false) (selected : f.selects (.obj child) = true)
      (below : Exchanges inner inner' rest child child') :
      Exchanges inner inner' (segment :: rest) members
        (insert segment.key (.arr (before ++ .obj child' :: after)) members)

namespace Members

variable {inner inner' members members' : Members} {segments : List Segment}

/-- Something changes on the outside exactly if something changes inside. -/
theorem Exchanges.eq_iff (h : Exchanges inner inner' segments members members') :
    members' = members ↔ inner' = inner := by
  induction h with
  | here => exact Iff.rfl
  | @underKey segment rest members child child' unfiltered held below ih =>
    rw [← ih]
    constructor
    · intro heq
      -- unchanged members hold under the key what was written there
      have hsame := find?_insert_self segment.key (.obj child') members
      rw [heq, held] at hsame
      simpa using hsame.symm
    · rintro rfl
      exact alter_eq_self held.symm
  | @inElement segment rest f members child child' before after filtered held first selected
      below ih =>
    rw [← ih]
    constructor
    · intro heq
      have hsame := find?_insert_self segment.key (.arr (before ++ .obj child' :: after)) members
      rw [heq, held] at hsame
      simpa using hsame.symm
    · rintro rfl
      exact alter_eq_self held.symm

end Members

/-! ## Walks that lead to members -/

namespace Patch

variable {held : Option Json}

/-- Only an array holds elements. -/
theorem eq_arr_itemsOf (h : itemsOf held ≠ []) : held = some (.arr (itemsOf held)) := by
  match held with
  | some (.arr items) => rfl
  | none | some .null | some (.bool _) | some (.num _) | some (.str _) | some (.obj _) =>
    exact absurd rfl h

theorem itemsOf_of_not_array (h : ∀ items, held ≠ some (.arr items)) : itemsOf held = [] :=
  by_contra fun hne => h _ (eq_arr_itemsOf hne)

end Patch

namespace Segment

variable {segment : Segment} {rest reached : List Segment} {members inner : Members} {j : Json}

/-- A path that is not empty has a last segment. -/
theorem exists_ofPath_eq_concat {path : String} (hpath : path ≠ "") :
    ∃ before last, ofPath path = before ++ [last] :=
  ⟨_, _, (List.dropLast_concat_getLast (ofPath_ne_nil hpath)).symm⟩

/-- Only objects are on the way to members. -/
theorem exists_members_of_walk {segments : List Segment} (h : walk segments j = some (.obj inner)) :
    ∃ members, j = .obj members := by
  cases segments with
  | nil => exact ⟨inner, Option.some.inj h⟩
  | cons segment rest =>
    obtain ⟨next, henter, -⟩ := Option.bind_eq_some_iff.mp h
    cases j with
    | obj members => exact ⟨members, rfl⟩
    | null | bool | num | str | arr =>
      unfold enter at henter
      split at henter <;> cases henter

/-- A segment with a filter leads to the first selected element of the array under its key. -/
theorem enter_filtered {f : ElementFilter} (hfilter : segment.filter = some f) :
    segment.enter (.obj members)
      = (Patch.itemsOf (Members.find? segment.key members)).find? f.selects := by
  simp only [enter, hfilter, Json.get?, Patch.bind_items?_find?]

theorem enter_unfiltered (hfilter : segment.filter = none) :
    segment.enter (.obj members) = Members.find? segment.key members := by
  simp only [enter, hfilter, Json.get?]

/-- Where a filtered segment leads to members, they belong to the first element that is selected. -/
theorem exists_element_of_enter {f : ElementFilter} (hfilter : segment.filter = some f)
    (h : segment.enter (.obj members) = some j) :
    ∃ before child after, j = .obj child
      ∧ Members.find? segment.key members = some (.arr (before ++ .obj child :: after))
      ∧ before.any f.selects = false ∧ f.selects (.obj child) = true := by
  rw [enter_filtered hfilter] at h
  have hany : (Patch.itemsOf (Members.find? segment.key members)).any f.selects = true :=
    List.any_eq_true.mpr ⟨j, List.mem_of_find?_eq_some h, List.find?_some h⟩
  obtain ⟨before, child, after, hitems, hbefore, hchild⟩ := Patch.exists_first_selected hany
  have hj : j = .obj child := by
    rw [hitems, Patch.find?_append_selected hbefore hchild] at h
    exact (Option.some.inj h).symm
  have hne : Patch.itemsOf (Members.find? segment.key members) ≠ [] := by simp [hitems]
  refine ⟨before, child, after, hj, ?_, hbefore, hchild⟩
  rw [← hitems]
  exact Patch.eq_arr_itemsOf hne

/-- A walk that leads to no members breaks off at a first segment. -/
theorem exists_break {segments : List Segment}
    (h : ∀ inner, walk segments (.obj members) ≠ some (.obj inner)) :
    ∃ reached segment rest inner, segments = reached ++ segment :: rest
      ∧ walk reached (.obj members) = some (.obj inner)
      ∧ ∀ child, segment.enter (.obj inner) ≠ some (.obj child) := by
  induction segments generalizing members with
  | nil => exact absurd rfl (h members)
  | cons segment segments ih =>
    by_cases hchild : ∃ child, segment.enter (.obj members) = some (.obj child)
    · obtain ⟨child, hchild⟩ := hchild
      have hbelow : ∀ inner, walk segments (.obj child) ≠ some (.obj inner) := by
        intro inner hinner
        exact h inner (by simp [walk, hchild, hinner])
      obtain ⟨reached, broken, rest, inner, rfl, hwalk, hbreak⟩ := ih hbelow
      exact ⟨segment :: reached, broken, rest, inner, rfl, by simp [walk, hchild, hwalk], hbreak⟩
    · exact ⟨[], segment, segments, members, rfl, rfl, not_exists.mp hchild⟩

/-- On the way to members there is no array in the way. -/
theorem meetsArray_append_of_walk (h : walk reached (.obj members) = some (.obj inner))
    (hrest : rest ≠ []) : meetsArray (reached ++ rest) (.obj members)
      = meetsArray rest (.obj inner) := by
  induction reached generalizing members with
  | nil => rw [Option.some.inj h, List.nil_append]
  | cons segment reached ih =>
    obtain ⟨j, henter, hwalk⟩ := Option.bind_eq_some_iff.mp h
    obtain ⟨child, rfl⟩ := exists_members_of_walk hwalk
    have hne : reached ++ rest ≠ [] := List.append_ne_nil_of_right_ne_nil reached hrest
    rw [List.cons_append, meetsArray_cons hne, henter, Option.any_some, ih hwalk]
    cases hfilter : segment.filter with
    | some f => rfl
    | none =>
      rw [enter_unfiltered hfilter] at henter
      simp [Json.get?, henter, Json.isArray, Json.items?]

end Segment

/-! ## The first key of a path -/

namespace Patch

variable {kind : PatchKind} {value : Option Json} {parent : Option String} {segment : Segment}
  {rest reached : List Segment} {members inner child : Members} {f : ElementFilter}

/-- What an operation makes of the first key of a path. -/
def atFirst (kind : PatchKind) (value : Option Json) (parent : Option String) (segment : Segment) :
    List Segment → Option Json → Option Json
  | [] => arrive kind value parent segment
  | next :: rest => pass kind segment.filter (along kind value (some segment.raw) (next :: rest))

theorem along_cons (kind : PatchKind) (value : Option Json) (parent : Option String)
    (segment : Segment) (rest : List Segment) (members : Members) :
    along kind value parent (segment :: rest) members
      = Members.alter segment.key (atFirst kind value parent segment rest) members := by
  cases rest <;> rfl

theorem atFirst_of_ne_nil (hrest : rest ≠ []) : atFirst kind value parent segment rest
    = pass kind segment.filter (along kind value (some segment.raw) rest) := by
  cases rest with
  | nil => exact absurd rfl hrest
  | cons next rest => rfl

theorem pass_of_ne_remove (hkind : kind ≠ .remove) (filter : Option ElementFilter)
    (change : Members → Members) : pass kind filter change = passCreating filter change := by
  cases kind with
  | remove => exact absurd rfl hkind
  | add | replace => rfl

theorem arrive_none (hkind : kind ≠ .remove) (parent : Option String) (segment : Segment)
    (held : Option Json) : arrive kind none parent segment held = held := by
  cases kind with
  | remove => exact absurd rfl hkind
  | add | replace => rfl

section FirstKey

variable (hkind : kind ≠ .remove)
include hkind

theorem arrive_some (value : Json) (parent : Option String) (segment : Segment) :
    arrive kind (some value) parent segment = write (kind == .add) segment parent value := by
  cases kind with
  | remove => exact absurd rfl hkind
  | add | replace => rfl

/-- Add and replace remove no member. -/
theorem atFirst_eq_self_or_stays (value : Option Json) (parent : Option String)
    (segment : Segment) (rest : List Segment) :
    (∀ held, atFirst kind value parent segment rest held = held)
      ∨ Members.Stays (atFirst kind value parent segment rest) := by
  match rest, value with
  | [], none => exact .inl (arrive_none hkind parent segment)
  | [], some value =>
    right
    intro held
    rw [atFirst, arrive_some hkind, write]
    cases segment.filter <;> rfl
  | next :: rest, value =>
    right
    rw [atFirst, pass_of_ne_remove hkind]
    exact stays_passCreating _ _

theorem find?_along_self :
    Members.find? segment.key (along kind value parent (segment :: rest) members)
      = atFirst kind value parent segment rest (Members.find? segment.key members) := by
  rw [along_cons]
  rcases atFirst_eq_self_or_stays hkind value parent segment rest with hself | hstays
  · rw [Members.alter_eq_self (hself _), hself]
  · exact Members.find?_alter_of_stays hstays members

theorem find?_along_of_ne {key : String} (hne : key ≠ segment.key) :
    Members.find? key (along kind value parent (segment :: rest) members)
      = Members.find? key members := by
  rw [along_cons]
  rcases atFirst_eq_self_or_stays hkind value parent segment rest with hself | hstays
  · rw [Members.alter_eq_self (hself _)]
  · exact Members.find?_alter_of_ne hne hstays members

end FirstKey

/-! ## Operations along a walk -/

/-- An operation of any kind passes through an object that it finds. -/
theorem pass_obj (kind : PatchKind) (change : Members → Members) (child : Members) :
    pass kind none change (some (.obj child)) = some (.obj (change child)) := by
  cases kind <;> rfl

/-- An operation of any kind passes through the first element that is selected. -/
theorem pass_element (kind : PatchKind) (change : Members → Members) {before : List Json}
    (hbefore : before.any f.selects = false) (hchild : f.selects (.obj child) = true)
    (after : List Json) :
    pass kind (some f) change (some (.arr (before ++ .obj child :: after)))
      = some (.arr (before ++ .obj (change child) :: after)) := by
  cases kind with
  | remove => simp only [pass, passRemoving, Option.map_some, changeFirst_append hbefore hchild]
  | add | replace => simp only [pass, passCreating, itemsOf, changeOrAppend_append hbefore hchild]

/-- Along a walk that leads to members an operation exchanges these for what the rest of its path
makes of them. -/
theorem exchanges_along (h : walk reached (.obj members) = some (.obj inner)) (hrest : rest ≠ [])
    (kind : PatchKind) (value : Option Json) (parent : Option String) :
    Members.Exchanges inner
      (along kind value ((reached.getLast?.map Segment.raw).or parent) rest inner) reached members
      (along kind value parent (reached ++ rest) members) := by
  -- the induction follows the walk; the parent of the rest is the last segment that was entered
  induction reached generalizing members parent with
  | nil =>
    obtain rfl : members = inner := by simpa [walk] using h
    exact .here
  | cons segment reached ih =>
    obtain ⟨j, henter, hwalk⟩ := Option.bind_eq_some_iff.mp h
    have hne : reached ++ rest ≠ [] := List.append_ne_nil_of_right_ne_nil reached hrest
    rw [Segment.getLast?_raw_cons, List.cons_append, along_cons, atFirst_of_ne_nil hne]
    cases hfilter : segment.filter with
    | none =>
      obtain ⟨child, rfl⟩ := Segment.exists_members_of_walk hwalk
      rw [Segment.enter_unfiltered hfilter] at henter
      have hpass := pass_obj kind (along kind value (some segment.raw) (reached ++ rest)) child
      rw [← henter] at hpass
      rw [Members.alter_congr (g := fun _ => _) hpass]
      exact .underKey hfilter henter (ih hwalk (some segment.raw))
    | some f =>
      obtain ⟨before, child, after, rfl, hheld, hbefore, hchild⟩ :=
        Segment.exists_element_of_enter hfilter henter
      have hpass := pass_element kind (along kind value (some segment.raw) (reached ++ rest))
        hbefore hchild after
      rw [← hheld] at hpass
      rw [Members.alter_congr (g := fun _ => _) hpass]
      exact .inElement hfilter hheld hbefore hchild (ih hwalk (some segment.raw))

/-- Along a walk that breaks off, an operation exchanges the members that were reached for what the
path makes of them from the segment on that cannot be entered. -/
theorem exists_exchanges_break {before : List Segment}
    (h : ∀ inner, walk before (.obj members) ≠ some (.obj inner)) (last : Segment)
    (kind : PatchKind) (value : Option Json) (parent : Option String) :
    ∃ reached segment rest inner within, before = reached ++ segment :: rest
      ∧ walk reached (.obj members) = some (.obj inner)
      ∧ (∀ child, segment.enter (.obj inner) ≠ some (.obj child))
      ∧ Members.Exchanges inner (along kind value within (segment :: (rest ++ [last])) inner)
        reached members (along kind value parent (before ++ [last]) members) := by
  obtain ⟨reached, segment, rest, inner, rfl, hwalk, hbreak⟩ := Segment.exists_break h
  have hexchanges := exchanges_along hwalk (List.cons_ne_nil segment (rest ++ [last])) kind value
    parent
  rw [← List.cons_append, ← List.append_assoc] at hexchanges
  exact ⟨reached, segment, rest, inner, _, rfl, hwalk, hbreak, hexchanges⟩

end Patch

/-! ## Operations with and without a path -/

namespace PatchOperation

variable {op : PatchOperation} {path : String}

theorem targetsRoot_or_path (op : PatchOperation) :
    op.targetsRoot = true ∨ ∃ path, op.path = some path ∧ path ≠ "" := by
  cases hop : op.path with
  | none => exact .inl (by simp [targetsRoot, hop])
  | some path =>
    by_cases hpath : path = ""
    · exact .inl (by simp [targetsRoot, hop, hpath])
    · exact .inr ⟨path, rfl, hpath⟩

theorem apply_of_targetsRoot (h : op.targetsRoot = true) (members : Members) :
    op.apply members = Patch.atRoot op.kind op.value members := by
  unfold apply
  split
  · rfl
  · next path hpath =>
    rw [targetsRoot, hpath, Option.all_some] at h
    exact if_pos h

theorem apply_of_ne_empty {path : String} (hpath : path ≠ "") (kind : PatchKind)
    (value : Option Json) (members : Members) :
    (⟨kind, some path, value⟩ : PatchOperation).apply members
      = Patch.along kind value none (Segment.ofPath path) members :=
  if_neg (by simpa using hpath)

theorem apply_of_path (hop : op.path = some path) (hpath : path ≠ "") (members : Members) :
    op.apply members = Patch.along op.kind op.value none (Segment.ofPath path) members := by
  obtain ⟨kind, _, value⟩ := op
  cases hop
  exact apply_of_ne_empty hpath kind value members

end PatchOperation

end Scim
