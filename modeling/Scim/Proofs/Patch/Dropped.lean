import Scim.Proofs.Patch.Valueless

/-!
# Writes that are dropped

An add or replace operation makes its way as it goes: it turns scalars on the way into objects and
appends elements where a filter selects none.  Only an array under an unfiltered key bars the way
(`Segment.IsBarred`).  The operation is dropped then, in the middle of its walk, and one would
expect to find in the document what it has made up to there.

But nothing has been made by then.  What a write makes holds scalars at most, and so does everything
that it goes on to make in there (`Segment.IsFresh`), so there is no array behind the first missing
part of the way (`Segment.not_isBarred_of_isFresh`).  A write is barred on the part of its way that
was there before, or not at all, and where it is barred the document stays as it is.  Every other
write changes the document with some value (`PatchOperation.dropped_iff`).
-/

namespace Scim

open Segment (walk meetsArray SelectsSeeds)

namespace Segment

variable {segment : Segment} {rest segments : List Segment} {members child : Members}
  {f : ElementFilter}

/-! ## The walk of a write -/

/-- The members that a write makes behind a segment that leads to none. -/
def fresh (segment : Segment) : Members :=
  match segment.filter with
  | none => []
  | some f => f.seed

/-- The members with which a write goes on behind a segment: those of the object under the key, or
of the first element there that the filter selects, and fresh ones if there are none. -/
def goOn (segment : Segment) (members : Members) : Members :=
  ((segment.enter (.obj members)).bind Json.members?).getD segment.fresh

/-- The members to which the walk of a write comes along the segments. -/
def landing : List Segment → Members → Members
  | [], members => members
  | segment :: rest, members => landing rest (segment.goOn members)

/-- An array bars the way of a write: short of the last segment, its walk comes to an unfiltered one
whose key holds an array. -/
def IsBarred (segments : List Segment) (members : Members) : Prop :=
  ∃ before segment rest, segments = before ++ segment :: rest ∧ rest ≠ [] ∧ segment.filter = none
    ∧ ∃ items, Members.find? segment.key (landing before members) = some (.arr items)

theorem goOn_of_enter (h : segment.enter (.obj members) = some (.obj child)) :
    segment.goOn members = child := by
  rw [goOn, h]
  rfl

theorem goOn_of_not_enter (h : ∀ child, segment.enter (.obj members) ≠ some (.obj child)) :
    segment.goOn members = segment.fresh := by
  rw [goOn]
  match henter : segment.enter (.obj members) with
  | some (.obj child) => exact absurd henter (h child)
  | none | some .null | some (.bool _) | some (.num _) | some (.str _) | some (.arr _) => rfl

theorem not_isBarred_nil (members : Members) : ¬ IsBarred [] members := by
  rintro ⟨before, segment, rest, heq, -⟩
  exact List.append_ne_nil_of_right_ne_nil before (List.cons_ne_nil segment rest) heq.symm

/-- The way is barred at its first key, or behind it. -/
theorem isBarred_cons_iff : IsBarred (segment :: rest) members
    ↔ (rest ≠ [] ∧ segment.filter = none
        ∧ ∃ items, Members.find? segment.key members = some (.arr items))
      ∨ IsBarred rest (segment.goOn members) := by
  constructor
  · rintro ⟨before, barred, behind, heq, hbehind, hfilter, items, hheld⟩
    cases before with
    | nil =>
      obtain ⟨rfl, rfl⟩ := List.cons.inj heq
      exact .inl ⟨hbehind, hfilter, items, hheld⟩
    | cons first before =>
      obtain ⟨rfl, rfl⟩ := List.cons.inj heq
      exact .inr ⟨before, barred, behind, rfl, hbehind, hfilter, items, hheld⟩
  · rintro (⟨hrest, hfilter, items, hheld⟩ | ⟨before, barred, behind, rfl, hbarred⟩)
    · exact ⟨[], segment, rest, rfl, hrest, hfilter, items, hheld⟩
    · exact ⟨segment :: before, barred, behind, rfl, hbarred⟩

/-! ## Nothing bars the way in what a write makes -/

/-- Whatever way leads on from the members has to be made. -/
def IsFresh (members : Members) : Prop :=
  ∀ segment : Segment, segment.IsMissing members

theorem isFresh_fresh (hseed : ∀ f, segment.filter = some f → f.selects (.obj f.seed) = true) :
    IsFresh segment.fresh := by
  intro next
  unfold fresh
  cases hfilter : segment.filter with
  | none => exact isMissing_nil next
  | some f => exact isMissing_seed (hseed f hfilter) next

/-- A way that has to be made leads to no members. -/
theorem IsMissing.not_enter (h : segment.IsMissing members) (child : Members) :
    segment.enter (.obj members) ≠ some (.obj child) := by
  intro henter
  unfold IsMissing at h
  cases hfilter : segment.filter with
  | none =>
    simp only [hfilter] at h
    rw [enter_unfiltered hfilter] at henter
    exact Bool.noConfusion (h _ henter).1
  | some f =>
    simp only [hfilter] at h
    rw [enter_filtered hfilter] at henter
    have hselected : (Patch.itemsOf (Members.find? segment.key members)).any f.selects = true :=
      List.any_eq_true.mpr ⟨_, List.mem_of_find?_eq_some henter, List.find?_some henter⟩
    exact Bool.noConfusion (h.symm.trans hselected)

/-- An array holds elements, and is not missing. -/
theorem IsMissing.find?_ne_arr (h : segment.IsMissing members) (hfilter : segment.filter = none)
    (items : List Json) : Members.find? segment.key members ≠ some (.arr items) := by
  intro hheld
  unfold IsMissing at h
  simp only [hfilter] at h
  exact Bool.noConfusion (h _ hheld).2

/-- Nothing bars the way of a write once it has to be made: behind fresh members there are fresh
members. -/
theorem not_isBarred_of_isFresh (hfresh : IsFresh members) (hseeds : SelectsSeeds segments) :
    ¬ IsBarred segments members := by
  induction segments generalizing members with
  | nil => exact not_isBarred_nil members
  | cons segment rest ih =>
    rw [isBarred_cons_iff, goOn_of_not_enter (hfresh segment).not_enter]
    rintro (⟨-, hfilter, items, hheld⟩ | hbehind)
    · exact (hfresh segment).find?_ne_arr hfilter items hheld
    · exact ih (isFresh_fresh (hseeds segment List.mem_cons_self)) hseeds.tail hbehind

/-- So the walk of a write is barred exactly if the walk through what is there meets an array. -/
theorem meetsArray_iff_isBarred (hseeds : SelectsSeeds segments) :
    meetsArray segments (.obj members) = true ↔ IsBarred segments members := by
  induction segments generalizing members with
  | nil => exact iff_of_false Bool.false_ne_true (not_isBarred_nil members)
  | cons segment rest ih =>
    by_cases hrest : rest = []
    · subst hrest
      rw [isBarred_cons_iff]
      simp [meetsArray, not_isBarred_nil]
    · by_cases henter : ∃ child, segment.enter (.obj members) = some (.obj child)
      · obtain ⟨child, henter⟩ := henter
        have hwalk : walk [segment] (.obj members) = some (.obj child) := by simp [walk, henter]
        have hmeets : meetsArray (segment :: rest) (.obj members)
            = meetsArray rest (.obj child) := meetsArray_append_of_walk hwalk hrest
        have hobject : ¬ (segment.filter = none
            ∧ ∃ items, Members.find? segment.key members = some (.arr items)) := by
          rintro ⟨hfilter, items, hheld⟩
          rw [enter_unfiltered hfilter, hheld] at henter
          cases henter
        rw [hmeets, isBarred_cons_iff, goOn_of_enter henter, ih hseeds.tail]
        exact ⟨.inr, fun h => h.resolve_left fun harray => hobject harray.2⟩
      · rcases isMissing_or_barred (not_exists.mp henter) with hmissing | ⟨hfilter, items, hheld⟩
        · have hopen : ¬ IsBarred (segment :: rest) members := by
            rw [isBarred_cons_iff, goOn_of_not_enter hmissing.not_enter]
            rintro (⟨-, hfilter, items, hheld⟩ | hbehind)
            · exact hmissing.find?_ne_arr hfilter items hheld
            · exact not_isBarred_of_isFresh
                (isFresh_fresh (hseeds segment List.mem_cons_self)) hseeds.tail hbehind
          rw [meetsArray_of_isMissing hmissing]
          exact iff_of_false Bool.false_ne_true hopen
        · exact iff_of_true (meetsArray_of_barred hfilter hheld hrest)
            (isBarred_cons_iff.mpr (.inl ⟨hrest, hfilter, items, hheld⟩))

end Segment

/-! ## Every other write writes something -/

namespace Patch

variable {kind : PatchKind} {parent : Option String} {segment last : Segment}
  {before : List Segment} {members inner : Members} {f : ElementFilter}

/-- Two booleans, written into an element, are two elements. -/
theorem changeOrAppend_bool_ne (f : ElementFilter) (items : List Json) :
    changeOrAppend f (mergeValue (.bool true)) items
      ≠ changeOrAppend f (mergeValue (.bool false)) items := by
  have hmerged (members : Members) :
      mergeValue (.bool true) members ≠ mergeValue (.bool false) members := by
    intro heq
    have hheld := congrArg (Members.find? "value") heq
    simp [mergeValue] at hheld
  cases hany : items.any f.selects with
  | false =>
    rw [changeOrAppend_of_none hany, changeOrAppend_of_none hany]
    simpa using hmerged f.seed
  | true =>
    obtain ⟨first, members, after, rfl, hfirst, hmembers⟩ := exists_first_selected hany
    rw [changeOrAppend_append hfirst hmembers, changeOrAppend_append hfirst hmembers]
    simpa using hmerged members

/-- Whatever the last key holds, two booleans that are written there leave two things. -/
theorem write_bool_ne (adding : Bool) (segment : Segment) (parent : Option String)
    (held : Option Json) :
    write adding segment parent (.bool true) held
      ≠ write adding segment parent (.bool false) held := by
  have hfresh : complexValue segment.key parent (.bool true)
      ≠ complexValue segment.key parent (.bool false) := by
    simp only [complexValue, Json.isObject, Json.members?, Option.isSome_none, Bool.not_false,
      and_true]
    split <;> simp
  unfold write
  cases segment.filter with
  | some f => simpa using changeOrAppend_bool_ne f (itemsOf held)
  | none =>
    cases adding with
    | false => simpa using hfresh
    | true =>
      cases held with
      | none => simpa [addTo] using hfresh
      | some j =>
        cases j with
        | arr items => simp [addTo]
        | null | bool | num | str | obj => simpa [addTo] using hfresh

/-- Where the walk leads to members that can hold the last key, some value is written there. -/
theorem exists_along_ne_self (hkind : kind ≠ .remove)
    (h : walk before (.obj members) = some (.obj inner)) (parent : Option String) :
    ∃ value, along kind (some value) parent (before ++ [last]) members ≠ members := by
  by_contra hnone
  rw [not_exists] at hnone
  have hheld (value : Json) :
      write (kind == .add) last ((before.getLast?.map Segment.raw).or parent) value
          (Members.find? last.key inner)
        = Members.find? last.key inner := by
    have hexchanges := exchanges_along h (List.cons_ne_nil last []) kind (some value) parent
    have hinner := hexchanges.eq_iff.mp (not_not.mp (hnone value))
    rw [← arrive_some hkind]
    exact (find?_along_self hkind).symm.trans (congrArg (Members.find? last.key) hinner)
  exact write_bool_ne _ last _ _ ((hheld (.bool true)).trans (hheld (.bool false)).symm)

end Patch

/-! ## Operations along barred ways -/

namespace PatchOperation

open Segment (IsBarred)

/-- A write is without effect, whatever its value and with none, exactly if an array bars its way.
Then the document stays as it is, with nothing left in it of what the write makes on its way. -/
theorem dropped_iff {kind : PatchKind} (hkind : kind ≠ .remove) {path : String} (hpath : path ≠ "")
    (members : Members) :
    IsBarred (Segment.ofPath path) members
      ↔ ∀ value, (⟨kind, some path, value⟩ : PatchOperation).apply members = members := by
  obtain ⟨before, last, hsegments⟩ := Segment.exists_ofPath_eq_concat hpath
  have hseeds : SelectsSeeds (before ++ [last]) := hsegments ▸ Segment.selectsSeeds_ofPath path
  simp only [apply_of_ne_empty hpath, hsegments]
  rw [← Segment.meetsArray_iff_isBarred hseeds]
  constructor
  · intro hbarred value
    exact Patch.along_of_meetsArray hkind value none hbarred
  · intro hsame
    rw [← Bool.not_eq_false]
    intro hopen
    by_cases hwalk : ∃ inner, walk before (.obj members) = some (.obj inner)
    · obtain ⟨inner, hwalk⟩ := hwalk
      have hwrites : ∃ value,
          Patch.along kind (some value) none (before ++ [last]) members ≠ members :=
        Patch.exists_along_ne_self hkind hwalk none
      obtain ⟨value, hne⟩ := hwrites
      exact hne (hsame (some value))
    · -- the way is made, even without a value
      have hbefore : SelectsSeeds before :=
        fun segment hsegment => hseeds segment (List.mem_append_left [last] hsegment)
      obtain ⟨reached, segment, rest, inner, -, -, hmissing, hexchanges⟩ :=
        Patch.exists_exchanges_scaffold hkind none hbefore (not_exists.mp hwalk) hopen
      exact Segment.scaffold_ne_self hmissing (hexchanges.eq_iff.mp (hsame none))

/-- The path to a first tag of the work address. -/
def workTagPath : String :=
  "emails[type eq \"work\"].tags.first"

theorem ofPath_workTagPath : Segment.ofPath workTagPath
    = [⟨"emails[type eq \"work\"]", "emails", some ⟨"type", .str "work"⟩⟩,
      ⟨"tags", "tags", none⟩, ⟨"first", "first", none⟩] := rfl

/-- Two addresses, of which the second has a list of tags. -/
def taggedAddresses : Members :=
  [("emails", .arr [.obj [("type", .str "home")],
    .obj [("tags", .arr [.str "desk"]), ("type", .str "work")]])]

/-- The list bars the way to a first tag. -/
theorem dropped_iff_of_workTag :
    PatchKind.add ≠ .remove ∧ workTagPath ≠ "" ∧
      IsBarred (Segment.ofPath workTagPath) taggedAddresses ∧
      ∀ value, (⟨.add, some workTagPath, value⟩ : PatchOperation).apply taggedAddresses
        = taggedAddresses := by
  have hkind : PatchKind.add ≠ .remove := by decide
  have hpath : workTagPath ≠ "" := by decide
  have hbarred : IsBarred (Segment.ofPath workTagPath) taggedAddresses := by
    rw [ofPath_workTagPath]
    exact ⟨[_], _, [_], rfl, List.cons_ne_nil _ _, rfl, [.str "desk"], rfl⟩
  exact ⟨hkind, hpath, hbarred, (dropped_iff hkind hpath taggedAddresses).mp hbarred⟩

end PatchOperation

end Scim
