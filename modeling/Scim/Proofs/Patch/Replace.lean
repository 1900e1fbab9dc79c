import Mathlib.Data.List.Chain
import Scim.Proofs.Json.Members
import Scim.Proofs.Patch.Element

/-!
# Replacing what a path leads to

A path is walked from a document by its segments: under an unfiltered key to what the key holds,
under a filtered one to the first element there that the filter selects.  This module proves the
laws that replacing shares with an assignment:

* the walk finds what was written,
* of two writes to one path the second remains,
* writing into a selected element twice is writing once.

The laws need that no write on the way turns a filter away from its own element, which is so when
the key behind a filtered segment is not the sub-attribute that the filter looks at.
-/

namespace Scim

/-! ## Walking -/

namespace Segment

/-- What one segment leads to: what its key holds, or the first element there that its filter
selects. -/
def enter (segment : Segment) (j : Json) : Option Json :=
  match segment.filter with
  | none => j.get? segment.key
  | some f => ((j.get? segment.key).bind Json.items?).bind fun items => items.find? f.selects

/-- What a list of segments leads to. -/
def walk : List Segment → Json → Option Json
  | [], j => some j
  | segment :: rest, j => (segment.enter j).bind (walk rest)

/-- Whether the walk, short of its end, comes through an unfiltered key that holds an array. -/
def meetsArray : List Segment → Json → Bool
  | [], _ => false
  | [_], _ => false
  | segment :: next :: rest, j =>
    (segment.filter.isNone && (j.get? segment.key).any Json.isArray)
      || (segment.enter j).any (meetsArray (next :: rest))

/-- The key behind every filtered segment differs from the sub-attribute that the filter looks
at. -/
def KeepsFilters (segments : List Segment) : Prop :=
  segments.IsChain fun segment next => ∀ f, segment.filter = some f → next.key ≠ f.name

/-- Every filter of the segments selects its own fresh element. -/
def SelectsSeeds (segments : List Segment) : Prop :=
  ∀ segment ∈ segments, ∀ f, segment.filter = some f → f.selects (.obj f.seed) = true

theorem selectsSeeds_ofPath (path : String) : SelectsSeeds (ofPath path) :=
  fun _ hmem _ hf => selects_seed_of_mem_ofPath hmem hf

theorem SelectsSeeds.tail {segment : Segment} {rest : List Segment}
    (h : SelectsSeeds (segment :: rest)) : SelectsSeeds rest :=
  fun s hs => h s (List.mem_cons_of_mem segment hs)

theorem meetsArray_cons {rest : List Segment} (hrest : rest ≠ []) (segment : Segment) (j : Json) :
    meetsArray (segment :: rest) j
      = ((segment.filter.isNone && (j.get? segment.key).any Json.isArray)
        || (segment.enter j).any (meetsArray rest)) := by
  cases rest with
  | nil => exact absurd rfl hrest
  | cons next rest => rfl

/-- Behind a segment, that segment is the parent unless a later one is. -/
theorem getLast?_raw_cons (segment : Segment) (rest : List Segment) (parent : Option String) :
    ((segment :: rest).getLast?.map raw).or parent
      = (rest.getLast?.map raw).or (some segment.raw) := by
  rw [List.getLast?_cons]
  cases rest.getLast? <;> rfl

/-- Where the first key is missing, the walk meets nothing. -/
theorem meetsArray_of_get?_eq_none {next : Segment} {j : Json} (h : j.get? next.key = none)
    (rest : List Segment) : meetsArray (next :: rest) j = false := by
  have henter : next.enter j = none := by
    unfold enter
    split <;> simp [h]
  cases rest with
  | nil => rfl
  | cons _ _ => simp [meetsArray, h, henter]

end Segment

/-! ## What replacing does under one key -/

namespace Patch

open Segment (walk meetsArray KeepsFilters SelectsSeeds)

variable {f : ElementFilter} {first second : Members → Members} {v w : Json}

theorem stays_arrive_replace (value : Json) (parent : Option String) (segment : Segment) :
    Members.Stays (arrive .replace (some value) parent segment) := by
  intro held
  unfold arrive write
  cases segment.filter <;> rfl

theorem stays_passCreating (filter : Option ElementFilter) (change : Members → Members) :
    Members.Stays (passCreating filter change) := by
  intro held
  unfold passCreating
  split
  · rfl
  · split <;> rfl

/-- The members of an object; anything else counts as an empty one. -/
def membersOf (held : Option Json) : Members :=
  (held.bind Json.members?).getD []

theorem bind_get?_eq (key : String) (held : Option Json) :
    held.bind (Json.get? key) = Members.find? key (membersOf held) := by
  match held with
  | some (.obj _) => rfl
  | none | some .null | some (.bool _) | some (.num _) | some (.str _) | some (.arr _) => rfl

/-- Through an unfiltered key that holds no array a write passes on to the object there, or to a
fresh one. -/
theorem passCreating_unfiltered {held : Option Json} (h : held.any Json.isArray = false)
    (change : Members → Members) :
    passCreating none change held = some (.obj (change (membersOf held))) := by
  match held with
  | some (.arr _) => cases h
  | some (.obj _) => rfl
  | none | some .null | some (.bool _) | some (.num _) | some (.str _) => rfl

/-- Behind an unfiltered segment a write does not depend on what was there. -/
theorem arrive_replace_of_unfiltered {segment : Segment} (h : segment.filter = none)
    (value : Json) (parent : Option String) (held : Option Json) :
    arrive .replace (some value) parent segment held
      = some (complexValue segment.key parent value) := by
  simp [arrive, write, h]

/-- Behind a filtered segment a write changes an element of the array. -/
theorem arrive_replace_of_filtered {segment : Segment} (h : segment.filter = some f)
    (value : Json) (parent : Option String) (held : Option Json) :
    arrive .replace (some value) parent segment held
      = some (.arr (changeOrAppend f (mergeValue value) (itemsOf held))) := by
  simp [arrive, write, h]

/-- The first selected element under a key, whatever the key holds. -/
theorem bind_items?_find? (held : Option Json) (p : Json → Bool) :
    ((held.bind Json.items?).bind fun items => items.find? p) = (itemsOf held).find? p := by
  match held with
  | none => rfl
  | some (.arr _) => rfl
  | some (.obj _) => rfl
  | some .null => rfl
  | some (.bool _) => rfl
  | some (.num _) => rfl
  | some (.str _) => rfl

/-- Two passages through one key are one, if the second change overwrites the first and no filter
notices the first. -/
theorem passCreating_passCreating {filter : Option ElementFilter}
    (hkept : ∀ f, filter = some f → Unnoticed f first)
    (hseed : ∀ f, filter = some f → f.selects (.obj f.seed) = true)
    (hover : ∀ members, second (first members) = second members) (held : Option Json) :
    passCreating filter second (passCreating filter first held)
      = passCreating filter second held := by
  cases filter with
  | some f =>
    simp only [passCreating, itemsOf]
    rw [changeOrAppend_changeOrAppend (hkept f rfl) (hseed f rfl) hover]
  | none =>
    match held with
    | none => simp [passCreating, hover]
    | some (.arr _) => rfl
    | some (.obj _) => simp [passCreating, hover]
    | some .null => simp [passCreating, hover]
    | some (.bool _) => simp [passCreating, hover]
    | some (.num _) => simp [passCreating, hover]
    | some (.str _) => simp [passCreating, hover]

/-! ## What replacing does along a path -/

theorem along_replace_cons {rest : List Segment} (hrest : rest ≠ []) (value : Option Json)
    (parent : Option String) (segment : Segment) (members : Members) :
    along .replace value parent (segment :: rest) members
      = Members.alter segment.key
          (passCreating segment.filter (along .replace value (some segment.raw) rest)) members := by
  cases rest with
  | nil => exact absurd rfl hrest
  | cons next rest => rfl

/-- A write along a path is felt under the first key only. -/
theorem find?_along_replace_of_ne {key : String} {next : Segment} (hne : key ≠ next.key)
    (value : Json) (parent : Option String) (rest : List Segment) (members : Members) :
    Members.find? key (along .replace (some value) parent (next :: rest) members)
      = Members.find? key members := by
  cases rest with
  | nil => exact Members.find?_alter_of_ne hne (stays_arrive_replace value parent next) members
  | cons _ _ => exact Members.find?_alter_of_ne hne (stays_passCreating _ _) members

theorem unnoticed_along_replace {next : Segment} (hne : next.key ≠ f.name) (value : Json)
    (parent : Option String) (rest : List Segment) :
    Unnoticed f (along .replace (some value) parent (next :: rest)) := by
  intro members
  exact ElementFilter.selects_congr (find?_along_replace_of_ne hne.symm value parent rest members)

/-- A later write along a path overwrites an earlier one, if it does so at the last key. -/
theorem along_replace_replace {segments : List Segment} (hkeep : KeepsFilters segments)
    (hseed : SelectsSeeds segments)
    (hlast : ∀ last ∈ segments.getLast?, ∀ parent held,
      arrive .replace (some w) parent last (arrive .replace (some v) parent last held)
        = arrive .replace (some w) parent last held)
    (parent : Option String) (members : Members) :
    along .replace (some w) parent segments (along .replace (some v) parent segments members)
      = along .replace (some w) parent segments members := by
  induction segments generalizing parent members with
  | nil => rfl
  | cons segment rest ih =>
    cases rest with
    | nil =>
      simp only [along]
      rw [Members.alter_alter (stays_arrive_replace v parent segment)]
      exact Members.alter_congr (hlast segment rfl parent _)
    | cons next rest =>
      obtain ⟨hnext, hkeep⟩ := List.isChain_cons_cons.mp hkeep
      have hover : ∀ inner, along .replace (some w) (some segment.raw) (next :: rest)
          (along .replace (some v) (some segment.raw) (next :: rest) inner)
            = along .replace (some w) (some segment.raw) (next :: rest) inner :=
        ih hkeep hseed.tail (by simpa using hlast) (some segment.raw)
      have hkept : ∀ f, segment.filter = some f →
          Unnoticed f (along .replace (some v) (some segment.raw) (next :: rest)) :=
        fun f hf => unnoticed_along_replace (hnext f hf) v _ rest
      -- two passages through the key are one, with the second write inside
      rw [along_replace_cons (List.cons_ne_nil _ _), along_replace_cons (List.cons_ne_nil _ _),
        along_replace_cons (List.cons_ne_nil _ _), Members.alter_alter (stays_passCreating _ _)]
      exact Members.alter_congr
        (passCreating_passCreating hkept (hseed segment List.mem_cons_self) hover _)

/-- Inside the object that a write changes the walk meets no array, if it meets none behind what is
there: a fresh object holds nothing. -/
theorem meetsArray_membersOf {next : Segment} {rest : List Segment} {held : Option Json}
    (hbehind : held.any (meetsArray (next :: rest)) = false) :
    meetsArray (next :: rest) (.obj (membersOf held)) = false := by
  match held with
  | some (.obj _) => exact hbehind
  | none | some .null | some (.bool _) | some (.num _) | some (.str _) | some (.arr _) =>
    exact Segment.meetsArray_of_get?_eq_none rfl rest

/-- Inside the element that a write changes the walk meets no array, if it meets none behind the
element that is there: a fresh element holds nothing but what its filter looks at. -/
theorem meetsArray_membersToChange {next : Segment} {rest : List Segment} {items : List Json}
    (hnext : next.key ≠ f.name)
    (hbehind : (items.find? f.selects).any (meetsArray (next :: rest)) = false) :
    meetsArray (next :: rest) (.obj (membersToChange f items)) = false := by
  cases hfound : items.find? f.selects with
  | none =>
    have hmissing : Json.get? next.key (.obj f.seed) = none := by
      simp [Json.get?, ElementFilter.seed, Members.find?, hnext.symm]
    rw [membersToChange, hfound]
    exact Segment.meetsArray_of_get?_eq_none hmissing rest
  | some item =>
    obtain ⟨inner, rfl⟩ := ElementFilter.exists_members_of_selects (List.find?_some hfound)
    rw [hfound] at hbehind
    rwa [membersToChange, hfound]

/-- A segment that a write has passed leads to the members that were changed there, and if no array
bars the way behind the segment, none bars it inside of them. -/
theorem exists_enter_passCreating {segment next : Segment} {rest : List Segment}
    {change : Members → Members} {members : Members}
    (hkept : ∀ f, segment.filter = some f → Unnoticed f change)
    (hseed : ∀ f, segment.filter = some f → f.selects (.obj f.seed) = true)
    (hnext : ∀ f, segment.filter = some f → next.key ≠ f.name)
    (hopen : meetsArray (segment :: next :: rest) (.obj members) = false) :
    ∃ inner,
      segment.enter (.obj (Members.alter segment.key (passCreating segment.filter change) members))
          = some (.obj (change inner))
        ∧ meetsArray (next :: rest) (.obj inner) = false := by
  rw [meetsArray, Bool.or_eq_false_iff] at hopen
  obtain ⟨hcrossed, hbehind⟩ := hopen
  simp only [Segment.enter, Json.get?] at hcrossed hbehind ⊢
  rw [Members.find?_alter_of_stays (stays_passCreating _ _)]
  cases hf : segment.filter with
  | none =>
    simp only [hf, Option.isNone_none, Bool.true_and] at hcrossed hbehind
    exact ⟨_, passCreating_unfiltered hcrossed change, meetsArray_membersOf hbehind⟩
  | some f =>
    -- the element that was changed is still the first that the filter selects
    simp only [hf, bind_items?_find?] at hbehind
    exact ⟨_, find?_changeOrAppend (hkept f hf) (hseed f hf) _,
      meetsArray_membersToChange (hnext f hf) hbehind⟩

/-- The walk finds what was written. -/
theorem walk_along_replace {before : List Segment} {last : Segment} (hlast : last.filter = none)
    (hkeep : KeepsFilters (before ++ [last])) (hseed : SelectsSeeds (before ++ [last]))
    (parent : Option String) {members : Members}
    (hopen : meetsArray (before ++ [last]) (.obj members) = false) :
    walk (before ++ [last]) (.obj (along .replace (some v) parent (before ++ [last]) members))
      = some (complexValue last.key ((before.getLast?.map Segment.raw).or parent) v) := by
  induction before generalizing parent members with
  | nil =>
    simp only [List.nil_append, along, walk, Segment.enter, hlast, Json.get?]
    rw [Members.find?_alter_of_stays (stays_arrive_replace v parent last),
      arrive_replace_of_unfiltered hlast]
    rfl
  | cons segment before ih =>
    obtain ⟨next, rest, hrest⟩ := List.exists_cons_of_ne_nil
      (List.append_ne_nil_of_right_ne_nil before (List.cons_ne_nil last []))
    rw [List.cons_append] at hkeep hseed hopen ⊢
    rw [hrest] at ih hkeep hseed hopen ⊢
    obtain ⟨hnext, hkeep⟩ := List.isChain_cons_cons.mp hkeep
    have hkept : ∀ f, segment.filter = some f →
        Unnoticed f (along .replace (some v) (some segment.raw) (next :: rest)) :=
      fun f hf => unnoticed_along_replace (hnext f hf) v _ rest
    obtain ⟨inner, henter, hinside⟩ :=
      exists_enter_passCreating hkept (hseed segment List.mem_cons_self) hnext hopen
    rw [along_replace_cons (List.cons_ne_nil _ _), walk, henter, Segment.getLast?_raw_cons]
    exact ih hkeep hseed.tail (some segment.raw) hinside

/-! ## Merging into an element -/

end Patch

/-- Whether merging a value into an element rewrites the sub-attribute that a filter looks at: an
object does when it has that member, and a scalar when the sub-attribute is `value`. -/
def ElementFilter.IsRewrittenBy (f : ElementFilter) : Json → Prop
  | .obj members => f.name ∈ members.map Prod.fst
  | .null => False
  | _ => f.name = "value"

namespace Patch

open Segment (walk meetsArray KeepsFilters SelectsSeeds)

variable {f : ElementFilter}

/-- Merging a value again changes nothing. -/
theorem mergeValue_mergeValue (value : Json) (element : Members) :
    mergeValue value (mergeValue value element) = mergeValue value element := by
  cases value with
  | obj members => exact Members.merge_merge element members
  | null => rfl
  | _ => exact Members.insert_insert "value" _ _ element

theorem unnoticed_mergeValue {value : Json} (h : ¬ f.IsRewrittenBy value) :
    Unnoticed f (mergeValue value) := by
  intro members
  apply ElementFilter.selects_congr
  cases value with
  | obj extra => exact Members.find?_merge_of_not_mem h members
  | null => rfl
  | _ => exact Members.find?_insert_of_ne h _ members

end Patch

/-! ## The laws of replacing -/

namespace Path

theorem splitFrom_ne_nil {current cs : List Char} (h : current ≠ [] ∨ cs ≠ []) (depth : Nat)
    (inSchema : Bool) : splitFrom current depth inSchema cs ≠ [] := by
  induction cs generalizing current depth inSchema with
  | nil => simpa [splitFrom] using h
  | cons c cs ih =>
    simp only [splitFrom]
    split
    · exact ih (.inl (List.cons_ne_nil _ _)) _ _
    · split
      · exact ih (.inl (List.cons_ne_nil _ _)) _ _
      · split
        · exact List.cons_ne_nil _ _
        · exact ih (.inl (List.cons_ne_nil _ _)) _ _

theorem normalizeChars_ne_nil {cs : List Char} (h : cs ≠ []) : normalizeChars cs ≠ [] := by
  unfold normalizeChars
  split
  · split
    · simp [schemaStart]
    · exact h
  · exact h

end Path

/-- A path that is not empty has a segment. -/
theorem Segment.ofPath_ne_nil {path : String} (h : path ≠ "") : Segment.ofPath path ≠ [] := by
  have hchars : path.toList ≠ [] := by simpa using h
  simpa [Segment.ofPath, Path.split, Path.splitChars, Path.normalize] using
    Path.splitFrom_ne_nil (.inr (Path.normalizeChars_ne_nil hchars)) 0 false

namespace PatchOperation

open Segment (walk meetsArray KeepsFilters)

/-- The operation that replaces what a path leads to. -/
def replacing (path : String) (value : Json) : PatchOperation where
  kind := .replace
  path := some path
  value := some value

theorem apply_replacing {path : String} (h : path ≠ "") (value : Json) (members : Members) :
    (replacing path value).apply members
      = Patch.along .replace (some value) none (Segment.ofPath path) members := by
  simp [apply, replacing, h]

/-- Behind an open path that ends without a filter the walk finds what was written. -/
theorem walk_apply_replacing {path : String} (hpath : path ≠ "")
    (hkeep : KeepsFilters (Segment.ofPath path)) {before : List Segment} {last : Segment}
    (hsegments : Segment.ofPath path = before ++ [last]) (hfilter : last.filter = none)
    {members : Members} (hopen : meetsArray (Segment.ofPath path) (.obj members) = false)
    (value : Json) :
    walk (Segment.ofPath path) (.obj ((replacing path value).apply members))
      = some (Patch.complexValue last.key (before.getLast?.map Segment.raw) value) := by
  have hseed := Segment.selectsSeeds_ofPath path
  rw [apply_replacing hpath]
  rw [hsegments] at hkeep hopen hseed ⊢
  rw [Patch.walk_along_replace hfilter hkeep hseed none hopen, Option.or_none]

/-- Of two writes along one path the second remains, if it does so at the last key. -/
theorem apply_replacing_replacing {path : String} (hpath : path ≠ "")
    (hkeep : KeepsFilters (Segment.ofPath path)) {before : List Segment} {last : Segment}
    (hsegments : Segment.ofPath path = before ++ [last]) {v w : Json}
    (hlast : ∀ parent held,
      Patch.arrive .replace (some w) parent last (Patch.arrive .replace (some v) parent last held)
        = Patch.arrive .replace (some w) parent last held) (members : Members) :
    (replacing path w).apply ((replacing path v).apply members)
      = (replacing path w).apply members := by
  rw [apply_replacing hpath, apply_replacing hpath, apply_replacing hpath]
  refine Patch.along_replace_replace hkeep (Segment.selectsSeeds_ofPath path) ?_ none members
  intro s hs
  rw [hsegments, List.getLast?_concat, Option.mem_some_iff] at hs
  exact hs ▸ hlast

/-- The laws of replacing, for every document and every path whose writes keep its filters.  Where
the path ends without a filter, the walk finds what was written unless an array stood in the way,
and a second write leaves nothing of the first.  Where it ends in a filter, writing a value that
keeps the filter again changes nothing. -/
theorem replacing_laws {path : String} (hpath : path ≠ "")
    (hkeep : KeepsFilters (Segment.ofPath path)) (members : Members) :
    ∃ before last, Segment.ofPath path = before ++ [last] ∧
      (last.filter = none → meetsArray (Segment.ofPath path) (.obj members) = false →
        ∀ value, walk (Segment.ofPath path) (.obj ((replacing path value).apply members))
          = some (if last.key = "manager"
                ∧ before.getLast?.map Segment.raw = some Schemas.enterpriseUser
                ∧ value.isObject = false
              then .obj [("value", value)] else value)) ∧
      (last.filter = none →
        ∀ first second, (replacing path second).apply ((replacing path first).apply members)
          = (replacing path second).apply members) ∧
      (∀ f, last.filter = some f → ∀ value, ¬ f.IsRewrittenBy value →
        (replacing path value).apply ((replacing path value).apply members)
          = (replacing path value).apply members) := by
  have hsegments := (List.dropLast_concat_getLast (Segment.ofPath_ne_nil hpath)).symm
  refine ⟨_, _, hsegments, ?_, ?_, ?_⟩
  · intro hfilter hopen value
    rw [walk_apply_replacing hpath hkeep hsegments hfilter hopen, Patch.complexValue]
    simp only [Bool.not_eq_true']
  · intro hfilter first second
    refine apply_replacing_replacing hpath hkeep hsegments ?_ members
    intro parent held
    rw [Patch.arrive_replace_of_unfiltered hfilter, Patch.arrive_replace_of_unfiltered hfilter]
  · intro f hfilter value hvalue
    refine apply_replacing_replacing hpath hkeep hsegments ?_ members
    intro parent held
    have hseed : f.selects (.obj f.seed) = true :=
      Segment.selectsSeeds_ofPath path _ (List.getLast_mem _) f hfilter
    simp only [Patch.arrive_replace_of_filtered hfilter, Patch.itemsOf]
    rw [Patch.changeOrAppend_changeOrAppend (Patch.unnoticed_mergeValue hvalue) hseed
      (Patch.mergeValue_mergeValue value)]

theorem ofPath_workAddress : Segment.ofPath "emails[type eq \"work\"].value"
    = [⟨"emails[type eq \"work\"]", "emails", some ⟨"type", .str "work"⟩⟩,
      ⟨"value", "value", none⟩] := rfl

/-- In a document with a home address alone, two writes of the work address leave the later one. -/
theorem replacing_laws_workAddress :
    KeepsFilters (Segment.ofPath "emails[type eq \"work\"].value") ∧
    walk (Segment.ofPath "emails[type eq \"work\"].value")
      (.obj ((replacing "emails[type eq \"work\"].value" (.str "b@x")).apply
        ((replacing "emails[type eq \"work\"].value" (.str "a@x")).apply
          [("emails", .arr [.obj [("type", .str "home")]])])))
      = some (.str "b@x") := by
  have hkeep : KeepsFilters (Segment.ofPath "emails[type eq \"work\"].value") := by
    simp [KeepsFilters, ofPath_workAddress]
  refine ⟨hkeep, ?_⟩
  have hpath : "emails[type eq \"work\"].value" ≠ "" := by decide
  obtain ⟨before, last, hsegments, hwalk, hlater, -⟩ := replacing_laws hpath hkeep
    [("emails", .arr [.obj [("type", .str "home")]])]
  obtain rfl : ⟨"value", "value", none⟩ = last := by
    simpa using congrArg List.getLast? (ofPath_workAddress.symm.trans hsegments)
  rw [hlater rfl, hwalk rfl rfl]
  simp

end PatchOperation

end Scim
