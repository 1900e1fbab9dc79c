import Scim.Proofs.Patch.Exchange

/-!
# Writes without a value

An add or replace operation that has no value writes nothing under the last key of its path, but it
goes there as any write does.  If its way is there, or is barred by an array, the document stays as
it is.  Otherwise the missing part of the way is made (`Segment.scaffold`): from the first segment
that leads to no members on, an object under every unfiltered key, which takes the place of a scalar
that stood there, and a fresh element under every filtered one.  Nothing else changes.

So such an operation is without effect exactly if its way is there or barred
(`PatchOperation.valueless_writes`).
-/

namespace Scim

open Segment (walk meetsArray SelectsSeeds)

/-! ## Ways that are made -/

namespace Segment

variable {segment : Segment} {rest : List Segment} {members inner : Members} {f : ElementFilter}
  {change change' : Members → Members}

/-- What a write makes of a key that does not lead on: an object, or behind the elements of an array
a fresh one. -/
def made (segment : Segment) (change : Members → Members) (held : Option Json) : Json :=
  match segment.filter with
  | none => .obj (change [])
  | some f => .arr (Patch.itemsOf held ++ [.obj (change f.seed)])

/-- Members with the way along the segments made in them. -/
def scaffold : List Segment → Members → Members
  | [], members => members
  | segment :: rest, members =>
    Members.insert segment.key
      (segment.made (scaffold rest) (Members.find? segment.key members)) members

/-- Whether a write has to make the way: the key of the segment holds neither an object nor an
array, or its filter selects nothing there. -/
def IsMissing (segment : Segment) (members : Members) : Prop :=
  match segment.filter with
  | none => ∀ j, Members.find? segment.key members = some j → j.isObject = false ∧ j.isArray = false
  | some f => (Patch.itemsOf (Members.find? segment.key members)).any f.selects = false

theorem isMissing_nil (segment : Segment) : IsMissing segment [] := by
  unfold IsMissing
  split
  · intro j h
    cases h
  · rfl

/-- The fresh element of a filter holds nothing but a scalar. -/
theorem isMissing_seed (hseed : f.selects (.obj f.seed) = true) (segment : Segment) :
    IsMissing segment f.seed := by
  have hscalar (j : Json) (h : Members.find? segment.key f.seed = some j) :
      j.isObject = false ∧ j.isArray = false := by
    have hvalue : f.value = j := by
      simp only [ElementFilter.seed, Members.find?] at h
      split at h
      · exact Option.some.inj h
      · split at h <;> cases h
    simp only [ElementFilter.selects, ElementFilter.seed, Json.get?, Members.find?, if_true,
      hvalue] at hseed
    cases j with
    | null | bool | num | str => exact ⟨rfl, rfl⟩
    | arr | obj => cases hseed
  unfold IsMissing
  split
  · exact hscalar
  · rw [Patch.itemsOf_of_not_array fun items hheld => Bool.noConfusion (hscalar _ hheld).2]
    rfl

/-- Where a walk breaks off, the way is missing or an array bars it. -/
theorem isMissing_or_barred (h : ∀ child, segment.enter (.obj members) ≠ some (.obj child)) :
    IsMissing segment members ∨ segment.filter = none
      ∧ ∃ items, Members.find? segment.key members = some (.arr items) := by
  unfold IsMissing
  cases hfilter : segment.filter with
  | none =>
    rw [enter_unfiltered hfilter] at h
    match hheld : Members.find? segment.key members with
    | some (.arr items) => exact .inr ⟨rfl, items, rfl⟩
    | some (.obj child) => exact absurd hheld (h child)
    | none => exact .inl fun j hj => nomatch hj
    | some .null | some (.bool _) | some (.num _) | some (.str _) =>
      exact .inl fun j hj => Option.some.inj hj ▸ ⟨rfl, rfl⟩
  | some f =>
    left
    rw [enter_filtered hfilter] at h
    simp only [Bool.eq_false_iff]
    intro hany
    obtain ⟨before, child, after, hitems, hbefore, hchild⟩ := Patch.exists_first_selected hany
    exact h child (by rw [hitems, Patch.find?_append_selected hbefore hchild])

/-- Where the way is missing no array bars it. -/
theorem meetsArray_of_isMissing (h : IsMissing segment members) (rest : List Segment) :
    meetsArray (segment :: rest) (.obj members) = false := by
  cases rest with
  | nil => rfl
  | cons next rest =>
    rw [meetsArray_cons (List.cons_ne_nil next rest), Bool.or_eq_false_iff]
    unfold IsMissing at h
    cases hfilter : segment.filter with
    | none =>
      simp only [hfilter] at h
      rw [enter_unfiltered hfilter, Json.get?]
      cases hheld : Members.find? segment.key members with
      | none => exact ⟨rfl, rfl⟩
      | some j =>
        obtain ⟨hobject, harray⟩ := h j hheld
        have hnone : j.get? next.key = none := by
          cases j with
          | obj => cases hobject
          | null | bool | num | str | arr => rfl
        exact ⟨by simp [harray], meetsArray_of_get?_eq_none hnone rest⟩
    | some f =>
      simp only [hfilter] at h
      have hnone : (Patch.itemsOf (Members.find? segment.key members)).find? f.selects = none := by
        simpa [List.find?_eq_none] using h
      rw [enter_filtered hfilter, hnone]
      exact ⟨rfl, rfl⟩

theorem meetsArray_of_barred (hfilter : segment.filter = none) {items : List Json}
    (hheld : Members.find? segment.key members = some (.arr items)) (hrest : rest ≠ []) :
    meetsArray (segment :: rest) (.obj members) = true := by
  rw [meetsArray_cons hrest, hfilter, Json.get?, hheld]
  rfl

theorem made_congr (hfresh : change [] = change' [])
    (hseed : ∀ f, segment.filter = some f → change f.seed = change' f.seed) (held : Option Json) :
    segment.made change held = segment.made change' held := by
  unfold made
  cases hfilter : segment.filter with
  | none => simp only [hfresh]
  | some f => simp only [hseed f hfilter]

/-- Making a way that is missing changes something. -/
theorem scaffold_ne_self (h : IsMissing segment members) :
    scaffold (segment :: rest) members ≠ members := by
  intro heq
  have hheld := Members.find?_insert_self segment.key
    (segment.made (scaffold rest) (Members.find? segment.key members)) members
  rw [← scaffold, heq] at hheld
  unfold IsMissing at h
  cases hfilter : segment.filter with
  | none =>
    simp only [hfilter] at h
    have hplain := (h _ hheld).1
    simp [made, hfilter, Json.isObject, Json.members?] at hplain
  | some f =>
    -- the array would be one element longer than itself
    have hlonger := congrArg (fun held => (Patch.itemsOf held).length) hheld
    simp [made, hfilter, Patch.itemsOf] at hlonger

end Segment

/-! ## What a write without a value does along its path -/

namespace Patch

variable {kind : PatchKind} {segment last : Segment} {rest before segments : List Segment}
  {members : Members} {change : Members → Members}

theorem passCreating_of_isMissing (h : segment.IsMissing members) :
    passCreating segment.filter change (Members.find? segment.key members)
      = some (segment.made change (Members.find? segment.key members)) := by
  unfold Segment.IsMissing at h
  cases hfilter : segment.filter with
  | none =>
    simp only [hfilter] at h
    simp only [Segment.made, hfilter]
    match hheld : Members.find? segment.key members with
    | none | some .null | some (.bool _) | some (.num _) | some (.str _) => rfl
    | some (.arr items) => exact absurd (h _ hheld).2 (by simp [Json.isArray, Json.items?])
    | some (.obj child) => exact absurd (h _ hheld).1 (by simp [Json.isObject, Json.members?])
  | some f =>
    simp only [hfilter] at h
    simp only [passCreating, Segment.made, hfilter, changeOrAppend_of_none h]

/-- From a missing segment on, a write without a value makes the way and nothing else. -/
theorem along_none_of_isMissing (hkind : kind ≠ .remove) (parent : Option String)
    (hseeds : SelectsSeeds segments)
    (hmissing : ∀ segment ∈ segments.head?, segment.IsMissing members) :
    along kind none parent (segments ++ [last]) members = Segment.scaffold segments members := by
  induction segments generalizing members parent with
  | nil => exact Members.alter_eq_self (arrive_none hkind parent last _)
  | cons segment rest ih =>
    have hbelow (inner : Members) (hinner : ∀ next ∈ rest.head?, next.IsMissing inner) :
        along kind none (some segment.raw) (rest ++ [last]) inner = Segment.scaffold rest inner :=
      ih (some segment.raw) hseeds.tail hinner
    have hmade : segment.made (along kind none (some segment.raw) (rest ++ [last]))
        (Members.find? segment.key members)
          = segment.made (Segment.scaffold rest) (Members.find? segment.key members) := by
      apply Segment.made_congr
      · exact hbelow [] fun next _ => Segment.isMissing_nil next
      · intro f hf
        exact hbelow f.seed fun next _ =>
          Segment.isMissing_seed (hseeds segment List.mem_cons_self f hf) next
    rw [List.cons_append, along_cons, atFirst_of_ne_nil (by simp), pass_of_ne_remove hkind,
      Segment.scaffold, ← hmade]
    exact Members.alter_congr (passCreating_of_isMissing (hmissing segment rfl))

/-- An array without a filter bars the way of a write. -/
theorem along_of_barred (hkind : kind ≠ .remove) (value : Option Json) (parent : Option String)
    (hfilter : segment.filter = none) {items : List Json}
    (hheld : Members.find? segment.key members = some (.arr items)) (hrest : rest ≠ []) :
    along kind value parent (segment :: rest) members = members := by
  rw [along_cons, atFirst_of_ne_nil hrest, pass_of_ne_remove hkind, hfilter]
  apply Members.alter_eq_self
  rw [hheld]
  rfl

/-- A write that meets an array on its way changes nothing. -/
theorem along_of_meetsArray (hkind : kind ≠ .remove) (value : Option Json) (parent : Option String)
    (h : meetsArray (before ++ [last]) (.obj members) = true) :
    along kind value parent (before ++ [last]) members = members := by
  have hunreached : ∀ inner, walk before (.obj members) ≠ some (.obj inner) := by
    intro inner hwalk
    rw [Segment.meetsArray_append_of_walk hwalk (List.cons_ne_nil last [])] at h
    cases h
  obtain ⟨reached, segment, rest, inner, within, rfl, hwalk, hbreak, hexchanges⟩ :=
    exists_exchanges_break hunreached last kind value parent
  rw [List.append_assoc, Segment.meetsArray_append_of_walk hwalk (by simp)] at h
  rcases Segment.isMissing_or_barred hbreak with hmissing | ⟨hfilter, items, hheld⟩
  · rw [List.cons_append, Segment.meetsArray_of_isMissing hmissing] at h
    cases h
  · rw [along_of_barred hkind value _ hfilter hheld (by simp)] at hexchanges
    exact hexchanges.eq_iff.mpr rfl

/-- A write without a value whose way is there changes nothing. -/
theorem along_none_of_walk (hkind : kind ≠ .remove) (parent : Option String) {inner : Members}
    (h : walk before (.obj members) = some (.obj inner)) :
    along kind none parent (before ++ [last]) members = members := by
  have hexchanges := exchanges_along h (List.cons_ne_nil last []) kind none parent
  have hsame (parent : Option String) : along kind none parent [last] inner = inner :=
    Members.alter_eq_self (arrive_none hkind parent last _)
  rw [hsame] at hexchanges
  exact hexchanges.eq_iff.mpr rfl

/-- Otherwise, where nothing bars its way, it makes what is missing of it. -/
theorem exists_exchanges_scaffold (hkind : kind ≠ .remove) (parent : Option String)
    (hseeds : SelectsSeeds before)
    (hunreached : ∀ inner, walk before (.obj members) ≠ some (.obj inner))
    (hopen : meetsArray (before ++ [last]) (.obj members) = false) :
    ∃ reached segment rest inner, before = reached ++ segment :: rest
      ∧ walk reached (.obj members) = some (.obj inner) ∧ segment.IsMissing inner
      ∧ Members.Exchanges inner (Segment.scaffold (segment :: rest) inner) reached members
        (along kind none parent (before ++ [last]) members) := by
  obtain ⟨reached, segment, rest, inner, within, rfl, hwalk, hbreak, hexchanges⟩ :=
    exists_exchanges_break hunreached last kind none parent
  rw [List.append_assoc, Segment.meetsArray_append_of_walk hwalk (by simp)] at hopen
  rcases Segment.isMissing_or_barred hbreak with hmissing | ⟨hfilter, items, hheld⟩
  · have hbelow : SelectsSeeds (segment :: rest) :=
      fun s hs => hseeds s (List.mem_append_right reached hs)
    rw [← List.cons_append, along_none_of_isMissing hkind _ hbelow (by simpa using hmissing)]
      at hexchanges
    exact ⟨reached, segment, rest, inner, rfl, hwalk, hmissing, hexchanges⟩
  · rw [List.cons_append, Segment.meetsArray_of_barred hfilter hheld (by simp)] at hopen
    cases hopen

theorem atRoot_none (kind : PatchKind) (members : Members) : atRoot kind none members = members :=
  rfl

end Patch

/-! ## Operations without a value -/

namespace PatchOperation

open Members (Exchanges)

/-- Add and replace without a value, for every document.  At the root nothing changes.  Along a path
nothing changes exactly if the walk leads to members that could hold the last key, or meets an array
on its way.  Otherwise the way is made from the first segment on where it is missing, and nothing
else changes. -/
theorem valueless_writes {op : PatchOperation} (hkind : op.kind ≠ .remove)
    (hvalue : op.value = none) (members : Members) :
    (op.targetsRoot = true → op.apply members = members) ∧
      (∀ path, op.path = some path → path ≠ "" →
        ∃ before last, Segment.ofPath path = before ++ [last] ∧
          (op.apply members = members ↔
            (∃ inner, walk before (.obj members) = some (.obj inner))
              ∨ meetsArray (before ++ [last]) (.obj members) = true) ∧
          (op.apply members ≠ members → ∃ reached segment rest inner,
            before = reached ++ segment :: rest ∧
              walk reached (.obj members) = some (.obj inner) ∧ segment.IsMissing inner ∧
              Exchanges inner (Segment.scaffold (segment :: rest) inner) reached members
                (op.apply members))) := by
  refine ⟨?_, ?_⟩
  · intro htargets
    rw [apply_of_targetsRoot htargets, hvalue, Patch.atRoot_none]
  · intro path hop hpath
    obtain ⟨before, last, hsegments⟩ := Segment.exists_ofPath_eq_concat hpath
    have hseeds : SelectsSeeds before := by
      intro segment hsegment
      have hmem : segment ∈ Segment.ofPath path := hsegments ▸ List.mem_append_left [last] hsegment
      exact Segment.selectsSeeds_ofPath path segment hmem
    have happly : op.apply members
        = Patch.along op.kind none none (before ++ [last]) members := by
      rw [apply_of_path hop hpath, hvalue, hsegments]
    rw [happly]
    have hsame : (∃ inner, walk before (.obj members) = some (.obj inner))
        ∨ meetsArray (before ++ [last]) (.obj members) = true →
          Patch.along op.kind none none (before ++ [last]) members = members := by
      rintro (⟨inner, hwalk⟩ | hmeets)
      · exact Patch.along_none_of_walk hkind none hwalk
      · exact Patch.along_of_meetsArray hkind none none hmeets
    have hmakes (h : ¬ ((∃ inner, walk before (.obj members) = some (.obj inner))
        ∨ meetsArray (before ++ [last]) (.obj members) = true)) :=
      Patch.exists_exchanges_scaffold hkind none hseeds (not_exists.mp (not_or.mp h).1)
        (Bool.eq_false_iff.mpr (not_or.mp h).2)
    refine ⟨before, last, hsegments, ⟨?_, hsame⟩, ?_⟩
    · intro hunchanged
      by_contra hneither
      obtain ⟨reached, segment, rest, inner, -, -, hmissing, hexchanges⟩ := hmakes hneither
      exact Segment.scaffold_ne_self hmissing (hexchanges.eq_iff.mp hunchanged)
    · intro hchanged
      exact hmakes fun h => hchanged (hsame h)

/-- Replaces a given name by no value. -/
def replacingGivenName : PatchOperation where
  kind := .replace
  path := some "name.givenName"

theorem ofPath_givenName : Segment.ofPath "name.givenName"
    = [⟨"name", "name", none⟩] ++ [⟨"givenName", "givenName", none⟩] := rfl

/-- In a document with a name nothing changes. -/
theorem valueless_writes_of_givenName :
    replacingGivenName.kind ≠ .remove ∧ replacingGivenName.value = none ∧
      replacingGivenName.apply [("name", .obj [("familyName", .str "Lovelace")])]
        = [("name", .obj [("familyName", .str "Lovelace")])] := by
  have hkind : replacingGivenName.kind ≠ .remove := by decide
  obtain ⟨before, last, hsegments, hiff, -⟩ := (valueless_writes hkind rfl
    [("name", .obj [("familyName", .str "Lovelace")])]).2 _ rfl (by decide)
  obtain ⟨rfl, -⟩ := List.append_inj' (ofPath_givenName.symm.trans hsegments) rfl
  exact ⟨hkind, rfl, hiff.mpr (.inl ⟨_, rfl⟩)⟩

/-- A name that is a text is lost to an operation without a value. -/
theorem not_forall_valueless_unchanged :
    ¬ ∀ (op : PatchOperation) (members : Members), op.kind ≠ .remove → op.value = none →
      op.apply members = members := by
  intro h
  have hlost : [("name", .obj [])] = [("name", Json.str "Ada")] :=
    h replacingGivenName [("name", .str "Ada")] (by decide) rfl
  simp at hlost

end PatchOperation

end Scim
