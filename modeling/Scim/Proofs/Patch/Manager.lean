import Scim.Proofs.Json.Sorted
import Scim.Proofs.Patch.Exchange
import Scim.Proofs.Patch.Independence
import Scim.Proofs.Patch.Reach
import Scim.Proofs.Path.Extension
import Scim.Proofs.Path.Literal

/-!
# The manager stays complex

The manager of the enterprise extension is an object.  A write to the manager itself turns anything
else into the `value` of an object, so writes to the manager and into it keep it one, and writes to
other attributes of the extension leave it alone (`PatchOperation.manager_stays_complex`).  Only
`null` that is added to a manager which is there changes nothing.

Two kinds of writes do not follow that rule (`PatchOperation.manager_not_complex`).  A value for the
extension as a whole is stored or merged as it stands, with a manager of any kind, and nothing is
said of what becomes of such a manager.  And a filter makes an array of what it narrows, the manager
included, which the theorem says too.
-/

namespace Scim

/-! ## Look-ups after a merge -/

/-- Merging brings in no member that the merged ones do not have. -/
theorem Members.all_find?_merge {p : Json → Bool} {key : String} {extra : Members}
    (hextra : ∀ value, (key, value) ∈ extra → p value = true) {base : Members}
    (hbase : (find? key base).all p = true) : (find? key (merge base extra)).all p = true := by
  induction extra generalizing base with
  | nil => exact hbase
  | cons head extra ih =>
    obtain ⟨k, value⟩ := head
    rw [merge_cons]
    refine ih (fun value hvalue => hextra value (List.mem_cons_of_mem _ hvalue)) ?_
    rw [find?_insert]
    split
    · next heq =>
      subst heq
      exact hextra value List.mem_cons_self
    · exact hbase

/-! ## Paths behind the extension -/

namespace Segment

/-- A key ends at a bracket, and not at another character. -/
theorem key_ofText_ne {raw name : String} {c : Char} {rest : List Char} (hc : c ≠ '[')
    (hraw : raw.toList = name.toList ++ c :: rest) : (ofText raw).key ≠ name := by
  intro hkey
  unfold ofText at hkey
  split at hkey
  · next key content hbracket =>
    obtain ⟨hwhole, -, -⟩ := bracket?_eq_some hbracket
    have hchars : key = name.toList := by simpa using congrArg String.toList hkey
    rw [hraw, hchars, List.append_cancel_left_eq] at hwhole
    exact hc (List.cons.inj hwhole).1
  · have hname : raw = name := hkey
    rw [hname] at hraw
    simp at hraw

theorem ofText_enterpriseUser : ofText Schemas.enterpriseUser = named Schemas.enterpriseUser :=
  ofText_of_notMem (by decide)

/-- A path behind the schema name of the enterprise extension leads through the extension, or else
its first key is another one. -/
theorem exists_ofPath_enterpriseUser {path : String} {c : Char} (hc : c = ':' ∨ c = '.')
    {rest : List Char} (hrest : rest ≠ [])
    (hpath : path.toList = Schemas.enterpriseUser.toList ++ c :: rest) :
    ∃ first more, ofPath path = first :: more ∧ (first.key = Schemas.enterpriseUser →
      first = named Schemas.enterpriseUser ∧ more ≠ []) := by
  obtain ⟨d, rest', hd, hnormal⟩ :=
    Path.exists_normalizeChars_schemaName Path.isSchemaName_enterpriseUser hc rest
  have hlength := congrArg List.length hnormal
  rw [Path.length_normalizeChars] at hlength
  have hrest' : rest' ≠ [] := by
    rintro rfl
    simp at hlength
    exact hrest hlength
  have hchars : (Path.normalize path).toList = Schemas.enterpriseUser.toList ++ d :: rest' := by
    rw [Path.normalize, String.toList_ofList, hpath, hnormal]
  rw [ofPath, Path.split, hchars, Path.splitChars_schemaName Path.isSchemaName_enterpriseUser]
  rcases hd with rfl | rfl
  · -- the colon goes on with the first segment
    rw [Path.splitFrom_cons (by decide) (by decide), if_neg (by decide)]
    obtain ⟨segment, more, hsplit, behind, rfl⟩ := Path.exists_splitFrom_eq_cons
      (List.cons_ne_nil ':' Schemas.enterpriseUser.toList.reverse) rest' 0
      (false && !Path.schemaEnd.reverse.isPrefixOf (':' :: Schemas.enterpriseUser.toList.reverse))
    have hraw : (String.ofList ((':' :: Schemas.enterpriseUser.toList.reverse).reverse
        ++ behind)).toList = Schemas.enterpriseUser.toList ++ ':' :: behind := by simp
    rw [hsplit]
    exact ⟨_, _, rfl, fun hkey => absurd hkey (key_ofText_ne (by decide) hraw)⟩
  · rw [Path.splitFrom_dot_of_closed]
    refine ⟨_, _, rfl, fun _ => ⟨?_, ?_⟩⟩
    · rw [String.ofList_toList, ofText_enterpriseUser]
    · have hsplit : Path.splitChars rest' ≠ [] := Path.splitFrom_ne_nil (.inr hrest') 0 false
      simpa using hsplit

theorem ofPath_of_splitChars {path : String} {names : List String}
    (h : Path.splitChars (Path.normalizeChars path.toList) = names.map String.toList) :
    ofPath path = names.map ofText := by
  rw [ofPath, Path.normalize, Path.split, String.toList_ofList, h]
  simp [Function.comp_def]

/-- An attribute of the extension is the one segment behind it. -/
theorem ofPath_attribute_of_enterpriseUser {separator name : String}
    (hseparator : separator = ":" ∨ separator = ".") (hname : Path.IsAttributePath name.toList)
    (hwhole : Path.split name = [name]) (hplain : ']' ∉ name.toList) :
    ofPath (Schemas.enterpriseUser ++ separator ++ name)
      = [named Schemas.enterpriseUser, named name] := by
  rw [ofPath, Path.normalize_schemaName Path.isSchemaName_enterpriseUser hname hseparator,
    Path.split_schemaName Path.isSchemaName_enterpriseUser, hwhole, List.map_cons,
    List.map_singleton, ofText_enterpriseUser, ofText_of_notMem hplain]

theorem ofPath_enterpriseUser :
    ofPath Schemas.enterpriseUser = [named Schemas.enterpriseUser] := by
  have hpath := @ofPath_of_splitChars Schemas.enterpriseUser [Schemas.enterpriseUser]
    (by decide +kernel)
  rw [hpath, List.map_singleton, ofText_enterpriseUser]

end Segment

/-! ## Complex managers -/

/-- The manager that a document holds in the enterprise extension. -/
def Members.manager? (members : Members) : Option Json :=
  (find? Schemas.enterpriseUser members).bind (Json.get? "manager")

/-- The manager is an object, as far as the value is one and has a manager. -/
def Json.HasComplexManager (j : Json) : Prop :=
  (j.get? "manager").all isObject = true

/-- The manager of the enterprise extension is an object, as far as the document has an extension,
the extension is an object, and it has a manager. -/
def Members.HasComplexManager (members : Members) : Prop :=
  ∀ extension ∈ find? Schemas.enterpriseUser members, extension.HasComplexManager

instance (j : Json) : Decidable j.HasComplexManager :=
  instDecidableEqBool _ _

instance (members : Members) : Decidable (Members.HasComplexManager members) :=
  inferInstanceAs (Decidable (∀ extension ∈ _, Json.HasComplexManager extension))

theorem Members.HasComplexManager.all_manager? {members : Members}
    (h : Members.HasComplexManager members) : (manager? members).all Json.isObject = true := by
  unfold manager?
  cases hextension : find? Schemas.enterpriseUser members with
  | none => rfl
  | some extension => exact h extension hextension

namespace Patch

variable {kind : PatchKind} {value : Option Json} {parent : Option String} {segment : Segment}
  {rest : List Segment} {members : Members} {held : Option Json}

section Write

variable (hkind : kind ≠ .remove)
include hkind

/-! ## Inside of the extension -/

omit hkind in
theorem isObject_addTo {value fresh : Json} (hfresh : fresh.isObject = true)
    (hheld : held.all Json.isObject = true) : (addTo value fresh held).isObject = true := by
  unfold addTo
  split
  · cases hheld
  · cases hheld
  · rfl
  · rfl
  · exact hfresh

/-- Behind the extension, what an operation makes of an absent or complex manager is complex. -/
theorem isObject_atFirst_manager (hkey : segment.key = "manager")
    (hfilter : segment.filter = none ∨ rest = [] ∧ value = none)
    (hheld : held.all Json.isObject = true) :
    (atFirst kind value (some Schemas.enterpriseUser) segment rest held).all Json.isObject
      = true := by
  match rest, value with
  | [], none =>
    rw [atFirst, arrive_none hkind]
    exact hheld
  | [], some value =>
    have hplain : segment.filter = none := hfilter.resolve_right (by simp)
    have hfresh : (complexValue "manager" (some Schemas.enterpriseUser) value).isObject = true := by
      cases value <;> rfl
    rw [atFirst, arrive_some hkind, write, hplain, hkey]
    cases kind == .add with
    | false => exact hfresh
    | true => exact isObject_addTo hfresh hheld
  | next :: rest, value =>
    have hplain : segment.filter = none := hfilter.resolve_right (by simp)
    rw [atFirst, pass_of_ne_remove hkind, hplain]
    rcases held with _ | j
    · rfl
    · cases j with
      | arr items => cases hheld
      | null | bool | num | str | obj => rfl

/-- A write along a path behind the extension keeps the manager complex, unless it narrows it. -/
theorem isObject_find?_along
    (hfilter : segment.key = "manager" → segment.filter = none ∨ rest = [] ∧ value = none)
    (hinner : (Members.find? "manager" members).all Json.isObject = true) :
    (Members.find? "manager"
      (along kind value (some Schemas.enterpriseUser) (segment :: rest) members)).all Json.isObject
        = true := by
  by_cases hkey : segment.key = "manager"
  · rw [← hkey, find?_along_self hkind]
    exact isObject_atFirst_manager hkind hkey (hfilter hkey) (hkey ▸ hinner)
  · rwa [find?_along_of_ne hkind (Ne.symm hkey)]

/-! ## At the extension -/

/-- The value, if it is an object, has a complex manager. -/
def ComplexValue (value : Option Json) : Prop :=
  ∀ fields, value = some (.obj fields) → ∀ manager, ("manager", manager) ∈ fields →
    manager.isObject = true

omit hkind in
theorem ComplexValue.hasComplexManager {value : Json} (h : ComplexValue (some value)) :
    value.HasComplexManager := by
  cases value with
  | null | bool | num | str | arr => rfl
  | obj fields =>
    show (Members.find? "manager" fields).all Json.isObject = true
    rw [Option.all_eq_true]
    intro manager hmanager
    exact h fields rfl manager (Members.mem_of_find? hmanager)

omit hkind in
theorem hasComplexManager_addTo {value : Json} (hvalue : ComplexValue (some value))
    (hheld : ∀ extension ∈ held, extension.HasComplexManager) :
    (addTo value value held).HasComplexManager := by
  unfold addTo
  split
  · rfl
  · rfl
  · exact hheld _ rfl
  · next members added =>
    exact Members.all_find?_merge (hvalue added rfl) (hheld (.obj members) rfl)
  · exact hvalue.hasComplexManager

/-- What an operation makes of an extension with a complex manager has one. -/
theorem hasComplexManager_atFirst (hvalue : rest = [] → ComplexValue value)
    (hnext : ∀ next more, rest = next :: more → next.key = "manager" →
      next.filter = none ∨ more = [] ∧ value = none)
    (hheld : ∀ extension ∈ held, extension.HasComplexManager) :
    ∀ extension ∈ atFirst kind value none (Segment.named Schemas.enterpriseUser) rest held,
      extension.HasComplexManager := by
  match rest, value with
  | [], none =>
    rw [atFirst, arrive_none hkind]
    exact hheld
  | [], some value =>
    have hplain : complexValue Schemas.enterpriseUser none value = value := by simp [complexValue]
    rw [atFirst, arrive_some hkind]
    simp only [write, Segment.named, hplain]
    rintro _ ⟨⟩
    cases kind == .add with
    | false => exact (hvalue rfl).hasComplexManager
    | true => exact hasComplexManager_addTo (hvalue rfl) hheld
  | next :: rest, value =>
    have hinside {inner : Members}
        (hinner : (Members.find? "manager" inner).all Json.isObject = true) :
        Json.HasComplexManager
          (.obj (along kind value (some Schemas.enterpriseUser) (next :: rest) inner)) :=
      isObject_find?_along hkind (hnext next rest rfl) hinner
    rw [atFirst, pass_of_ne_remove hkind]
    rcases held with _ | j
    · rintro _ ⟨⟩
      exact hinside rfl
    · cases j with
      | arr items =>
        rintro _ ⟨⟩
        rfl
      | obj inner =>
        rintro _ ⟨⟩
        exact hinside (hheld (.obj inner) rfl)
      | null | bool | num | str =>
        rintro _ ⟨⟩
        exact hinside rfl

end Write

/-! ## Operations that suit the manager -/

/-- Whether something is written to the manager of the extension, or inside of it, through a
filter.  An operation without a value writes nothing at the end of its path. -/
def narrowsManager (path : String) (value : Option Json) : Bool :=
  match Segment.ofPath path with
  | first :: next :: rest =>
    first.key == Schemas.enterpriseUser && first.filter.isNone && next.key == "manager"
      && next.filter.isSome && !(rest.isEmpty && value.isNone)
  | _ => false

/-- A write suits a complex manager if it brings none of another kind with an extension as a whole,
and does not narrow the manager. -/
inductive SuitsManager : String → Option Json → Prop
  | whole {value : Option Json} (h : ComplexValue value) : SuitsManager Schemas.enterpriseUser value
  | inside {separator tail : String} {value : Option Json}
      (hseparator : separator = ":" ∨ separator = ".") (htail : tail ≠ "")
      (h : narrowsManager (Schemas.enterpriseUser ++ separator ++ tail) value = false) :
      SuitsManager (Schemas.enterpriseUser ++ separator ++ tail) value
  | elsewhere {path : String} {value : Option Json}
      (h : Segment.firstKeyOf path ≠ Schemas.enterpriseUser) : SuitsManager path value

/-- A suitable write under the keys of a path keeps the manager complex. -/
theorem hasComplexManager_along (hkind : kind ≠ .remove) {path : String}
    (hsuits : SuitsManager path value) (hmembers : Members.HasComplexManager members) :
    Members.HasComplexManager (along kind value none (Segment.ofPath path) members) := by
  -- the extension itself changes as its own level says
  have hself {rest : List Segment} (hvalue : rest = [] → ComplexValue value)
      (hnext : ∀ next more, rest = next :: more → next.key = "manager" →
        next.filter = none ∨ more = [] ∧ value = none) :
      Members.HasComplexManager
        (along kind value none (Segment.named Schemas.enterpriseUser :: rest) members) := by
    show ∀ extension ∈ Members.find? (Segment.named Schemas.enterpriseUser).key _, _
    rw [find?_along_self hkind]
    exact hasComplexManager_atFirst hkind hvalue hnext hmembers
  have hother {first : Segment} {rest : List Segment} (hne : first.key ≠ Schemas.enterpriseUser) :
      Members.HasComplexManager (along kind value none (first :: rest) members) := by
    rw [Members.HasComplexManager, find?_along_of_ne hkind hne.symm]
    exact hmembers
  cases hsuits with
  | whole hvalue =>
    rw [Segment.ofPath_enterpriseUser]
    exact hself (fun _ => hvalue) (by simp)
  | @inside separator tail _ hseparator htail hwide =>
    obtain ⟨c, hc, hchars⟩ : ∃ c, (c = ':' ∨ c = '.') ∧ separator.toList = [c] := by
      rcases hseparator with rfl | rfl
      · exact ⟨':', .inl rfl, rfl⟩
      · exact ⟨'.', .inr rfl, rfl⟩
    have hwhole : (Schemas.enterpriseUser ++ separator ++ tail).toList
        = Schemas.enterpriseUser.toList ++ c :: tail.toList := by simp [hchars]
    have hbehind : tail.toList ≠ [] := by simpa using htail
    obtain ⟨first, rest, hpath, hfirst⟩ := Segment.exists_ofPath_enterpriseUser hc hbehind hwhole
    rw [hpath]
    by_cases hkey : first.key = Schemas.enterpriseUser
    · obtain ⟨rfl, hmore⟩ := hfirst hkey
      refine hself (fun hnil => absurd hnil hmore) ?_
      rintro next more rfl hmanager
      rw [or_iff_not_imp_left, ← ne_eq, Option.ne_none_iff_isSome]
      simpa [narrowsManager, hpath, Segment.named, hmanager] using hwide
    · exact hother hkey
  | elsewhere hne =>
    unfold Segment.firstKeyOf Segment.firstKey? at hne
    cases hpath : Segment.ofPath path with
    | nil => exact hmembers
    | cons first rest =>
      rw [hpath] at hne
      exact hother hne

/-- At the root a member is written along its key, and the empty key stands for itself. -/
theorem writeMember_eq (members : Members) (key : String) (field : Json) :
    (key = "" ∧ writeMember members key field = Members.insert "" field members)
      ∨ writeMember members key field
        = along .replace (some field) none (Segment.ofPath key) members := by
  by_cases hkey : key = ""
  · subst hkey
    exact .inl ⟨rfl, rfl⟩
  · unfold writeMember
    cases hpath : Segment.ofPath key with
    | nil => exact absurd hpath (Segment.ofPath_ne_nil hkey)
    | cons first rest => exact .inr rfl

theorem hasComplexManager_writeMember {key : String} {field : Json}
    (hsuits : SuitsManager key (some field)) (hmembers : Members.HasComplexManager members) :
    Members.HasComplexManager (writeMember members key field) := by
  rcases writeMember_eq members key field with ⟨rfl, hinsert⟩ | hwrite
  · rw [hinsert, Members.HasComplexManager, Members.find?_insert, if_neg (by decide)]
    exact hmembers
  · rw [hwrite]
    exact hasComplexManager_along (by decide) hsuits hmembers

theorem hasComplexManager_writeMembers {fields : Members}
    (hsuits : ∀ field ∈ fields, SuitsManager field.1 (some field.2))
    (hmembers : Members.HasComplexManager members) :
    Members.HasComplexManager
      (fields.foldl (fun ms field => writeMember ms field.1 field.2) members) := by
  induction fields generalizing members with
  | nil => exact hmembers
  | cons field fields ih =>
    obtain ⟨hfield, hfields⟩ := List.forall_mem_cons.mp hsuits
    rw [List.foldl_cons]
    exact ih hfields (hasComplexManager_writeMember hfield hmembers)

/-- At the root add and replace write the members of a value one after the other. -/
theorem atRoot_of_ne_remove (hkind : kind ≠ .remove) (fields members : Members) :
    atRoot kind (some (.obj fields)) members
      = fields.foldl (fun ms field => writeMember ms field.1 field.2) members := by
  cases kind with
  | remove => exact absurd rfl hkind
  | add | replace => rfl

/-- A passage without a filter makes an object of anything but an array. -/
theorem passCreating_of_not_array (hopen : ∀ items, held ≠ some (.arr items))
    (change : Members → Members) :
    passCreating none change held = some (.obj (change (membersOf held))) := by
  have harray : held.any Json.isArray = false := by
    match held with
    | some (.arr items) => exact absurd rfl (hopen items)
    | none | some .null | some (.bool _) | some (.num _) | some (.str _) | some (.obj _) => rfl
  exact passCreating_unfiltered harray change

/-- Through a filter, whatever the key holds becomes an array. -/
theorem exists_atFirst_eq_arr (hkind : kind ≠ .remove) (hfilter : segment.filter.isSome)
    (hwritten : ¬(rest = [] ∧ value = none)) (parent : Option String) (held : Option Json) :
    ∃ items, atFirst kind value parent segment rest held = some (.arr items) := by
  obtain ⟨f, hf⟩ := Option.isSome_iff_exists.mp hfilter
  match rest, value with
  | [], none => exact absurd ⟨rfl, rfl⟩ hwritten
  | [], some value =>
    rw [atFirst, arrive_some hkind, write, hf]
    exact ⟨_, rfl⟩
  | _ :: _, value =>
    rw [atFirst, pass_of_ne_remove hkind, hf]
    exact ⟨_, rfl⟩

/-- A manager that is narrowed becomes an array. -/
theorem exists_find?_along_of_narrowsManager (hkind : kind ≠ .remove) {path : String}
    (hnarrows : narrowsManager path value = true)
    (hopen : ∀ items, Members.find? Schemas.enterpriseUser members ≠ some (.arr items)) :
    ∃ inner items,
      Members.find? Schemas.enterpriseUser (along kind value none (Segment.ofPath path) members)
          = some (.obj inner)
        ∧ Members.find? "manager" inner = some (.arr items) := by
  unfold narrowsManager at hnarrows
  split at hnarrows
  · next first next rest hpath =>
    simp only [Bool.and_eq_true, beq_iff_eq, Option.isNone_iff_eq_none] at hnarrows
    obtain ⟨⟨⟨⟨hfirst, hplain⟩, hmanager⟩, hfilter⟩, hwritten⟩ := hnarrows
    have hwrites : ¬(rest = [] ∧ value = none) := by
      rintro ⟨rfl, rfl⟩
      cases hwritten
    rw [← hfirst] at hopen ⊢
    rw [hpath, find?_along_self hkind, atFirst, pass_of_ne_remove hkind, hplain,
      passCreating_of_not_array hopen]
    obtain ⟨items, harray⟩ := exists_atFirst_eq_arr hkind hfilter hwrites (some first.raw)
      (Members.find? next.key (membersOf (Members.find? first.key members)))
    refine ⟨_, items, rfl, ?_⟩
    rw [← hmanager, find?_along_self hkind, harray]
  · cases hnarrows

/-! ## What becomes of the manager -/

/-- The path ends at the key `manager` directly under the extension, without a filter. -/
def WritesManager (path : String) : Prop :=
  ∃ last, Segment.ofPath path = [.named Schemas.enterpriseUser, last] ∧ last.key = "manager"
    ∧ last.filter = none

/-- The path leads to another attribute, of the document or of the extension. -/
def LeadsPastManager (path : String) : Prop :=
  ∀ first rest, Segment.ofPath path = first :: rest → first.key = Schemas.enterpriseUser →
    first.filter = none ∧ ∃ next more, rest = next :: more ∧ next.key ≠ "manager"

theorem WritesManager.ne_empty {path : String} (h : WritesManager path) : path ≠ "" := by
  rintro rfl
  obtain ⟨last, hpath, -⟩ := h
  cases hpath

/-- Anything but an object that is added to an absent value or to an object takes its place, except
that `null` leaves the object. -/
theorem some_addTo_of_not_isObject {value fresh : Json} (hvalue : value.isObject = false)
    (hheld : held.all Json.isObject = true) :
    some (addTo value fresh held)
      = if value.isNull = true ∧ held.isSome = true then held else some fresh := by
  rcases held with _ | j
  · rw [if_neg (by simp)]
    rfl
  · cases j with
    | null | bool | num | str | arr => cases hheld
    | obj inner =>
      cases value with
      | obj fields => cases hvalue
      | null | bool | num | str | arr => rfl

/-- The manager is found among the members of the extension. -/
theorem manager?_eq (members : Members) : Members.manager? members
    = Members.find? "manager" (membersOf (Members.find? Schemas.enterpriseUser members)) :=
  bind_get?_eq "manager" _

/-- What a write to the key `manager` makes of the manager, if its value is not an object. -/
theorem manager?_along_of_writesManager (hkind : kind ≠ .remove) {path : String} {value : Json}
    (hwrites : WritesManager path) (hvalue : value.isObject = false)
    (hopen : ∀ items, Members.find? Schemas.enterpriseUser members ≠ some (.arr items)) :
    Members.manager? (along kind (some value) none (Segment.ofPath path) members)
      = some (if kind == .add then
          addTo value (.obj [("value", value)]) (Members.manager? members)
        else .obj [("value", value)]) := by
  obtain ⟨last, hpath, hkey, hplain⟩ := hwrites
  have hfresh : complexValue "manager" (some Schemas.enterpriseUser) value
      = .obj [("value", value)] := by simp [complexValue, hvalue]
  have hinside : membersOf (Members.find? Schemas.enterpriseUser
      (along kind (some value) none (Segment.ofPath path) members))
        = along kind (some value) (some Schemas.enterpriseUser) [last]
          (membersOf (Members.find? Schemas.enterpriseUser members)) := by
    show membersOf (Members.find? (Segment.named Schemas.enterpriseUser).key _) = _
    rw [hpath, find?_along_self hkind, atFirst, pass_of_ne_remove hkind]
    exact congrArg membersOf (passCreating_of_not_array hopen _)
  rw [manager?_eq, manager?_eq, hinside, ← hkey, find?_along_self hkind, atFirst,
    arrive_some hkind, write, hplain, hkey]
  show some (if kind == .add then addTo value (complexValue _ _ value) _
    else complexValue _ _ value) = _
  rw [hfresh]

/-- A member written to the key `manager` replaces the manager, whichever it is. -/
theorem manager?_writeMember_of_writesManager {key : String} {value : Json}
    (hwrites : WritesManager key) (hvalue : value.isObject = false)
    (hopen : ∀ items, Members.find? Schemas.enterpriseUser members ≠ some (.arr items)) :
    Members.manager? (writeMember members key value) = some (.obj [("value", value)]) := by
  rcases writeMember_eq members key value with ⟨hempty, -⟩ | hwrite
  · exact absurd hempty hwrites.ne_empty
  · rw [hwrite, manager?_along_of_writesManager (by decide) hwrites hvalue hopen]
    rfl

/-- A write to another attribute keeps the manager as it is. -/
theorem manager?_along_of_leadsPastManager (hkind : kind ≠ .remove) {path : String}
    (hpast : LeadsPastManager path) :
    Members.manager? (along kind value none (Segment.ofPath path) members)
      = Members.manager? members := by
  cases hpath : Segment.ofPath path with
  | nil => rfl
  | cons first rest =>
    by_cases hkey : first.key = Schemas.enterpriseUser
    · obtain ⟨hplain, next, more, rfl, hne⟩ := hpast first rest hpath hkey
      rw [manager?_eq, manager?_eq, ← hkey, find?_along_self hkind, atFirst,
        pass_of_ne_remove hkind, hplain]
      by_cases hopen : ∀ items, Members.find? first.key members ≠ some (.arr items)
      · rw [passCreating_of_not_array hopen]
        exact find?_along_of_ne hkind hne.symm
      · -- an array stops the write, and holds no manager
        obtain ⟨items, hitems⟩ := not_forall_not.mp hopen
        rw [hitems]
        rfl
    · rw [Members.manager?, Members.manager?, find?_along_of_ne hkind (Ne.symm hkey)]

theorem manager?_writeMember_of_leadsPastManager {key : String} {field : Json}
    (hpast : LeadsPastManager key) :
    Members.manager? (writeMember members key field) = Members.manager? members := by
  rcases writeMember_eq members key field with ⟨rfl, hinsert⟩ | hwrite
  · rw [hinsert, Members.manager?, Members.find?_insert, if_neg (by decide)]
    rfl
  · rw [hwrite, manager?_along_of_leadsPastManager (by decide) hpast]

/-- Members written after it, to other attributes, keep the manager as it is. -/
theorem manager?_writeMembers_of_leadsPastManager {fields : Members}
    (hpast : ∀ field ∈ fields, LeadsPastManager field.1) :
    Members.manager? (fields.foldl (fun ms field => writeMember ms field.1 field.2) members)
      = Members.manager? members := by
  induction fields generalizing members with
  | nil => rfl
  | cons field fields ih =>
    obtain ⟨hfield, hfields⟩ := List.forall_mem_cons.mp hpast
    rw [List.foldl_cons, ih hfields, manager?_writeMember_of_leadsPastManager hfield]

end Patch

/-! ## The manager after an operation -/

namespace PatchOperation

open Patch (SuitsManager narrowsManager WritesManager LeadsPastManager)

/-- A document of a user whose manager is known by a value. -/
def managed : Members :=
  [(Schemas.enterpriseUser, .obj [("manager", .obj [("value", .str "ada")])])]

/-- The path of the manager in the enterprise extension, in colon form. -/
def managerPath : String :=
  Schemas.enterpriseUser ++ ":" ++ "manager"

/-- The path of another attribute of the extension. -/
def organizationPath : String :=
  Schemas.enterpriseUser ++ ":" ++ "organization"

/-- The path of the manager with a filter. -/
def narrowedPath : String :=
  managerPath ++ "[value eq \"boss-id\"]"

theorem ofPath_managerPath {separator : String} (hseparator : separator = ":" ∨ separator = ".") :
    Segment.ofPath (Schemas.enterpriseUser ++ separator ++ "manager")
      = [.named Schemas.enterpriseUser, .named "manager"] :=
  Segment.ofPath_attribute_of_enterpriseUser hseparator ⟨by decide, by simp, by decide⟩ (by decide)
    (by decide)

theorem ofPath_organizationPath :
    Segment.ofPath organizationPath = [.named Schemas.enterpriseUser, .named "organization"] :=
  Segment.ofPath_attribute_of_enterpriseUser (.inl rfl) ⟨by decide, by simp, by decide⟩ (by decide)
    (by decide)

/-- The manager is written in colon form and in dotted form. -/
theorem writesManager_managerPath {separator : String}
    (hseparator : separator = ":" ∨ separator = ".") :
    WritesManager (Schemas.enterpriseUser ++ separator ++ "manager") :=
  ⟨_, ofPath_managerPath hseparator, rfl, rfl⟩

theorem ofPath_narrowedPath :
    Segment.ofPath narrowedPath = [.named Schemas.enterpriseUser,
      ⟨"manager[value eq \"boss-id\"]", "manager", some ⟨"value", .str "boss-id"⟩⟩] := by
  have hpath := @Segment.ofPath_of_splitChars narrowedPath
    [Schemas.enterpriseUser, "manager[value eq \"boss-id\"]"] (by decide +kernel)
  rw [hpath, List.map_cons, Segment.ofText_enterpriseUser]
  rfl

/-- What add and replace operations make of a complex manager, for every document.

If the write suits the manager, by its path or by all the keys of a value at the root, the manager
is complex again.  If the write narrows the manager, it is an array, unless the extension is an
array itself.  Anything but an object that is written to the manager becomes the `value` of an
object: along a path, except that adding `null` to a manager changes nothing, and at the root, if no
later key leads to the manager again. -/
theorem manager_stays_complex {kind : PatchKind} (hkind : kind ≠ .remove) {members : Members}
    (hmembers : Members.HasComplexManager members) :
    (∀ path value, path ≠ "" → SuitsManager path value →
        Members.HasComplexManager ((⟨kind, some path, value⟩ : PatchOperation).apply members))
      ∧ (∀ path fields, (path = none ∨ path = some "") →
        (∀ field ∈ fields, SuitsManager field.1 (some field.2)) →
        Members.HasComplexManager
          ((⟨kind, path, some (.obj fields)⟩ : PatchOperation).apply members))
      ∧ (∀ path value, path ≠ "" → narrowsManager path value = true →
        (∀ items, Members.find? Schemas.enterpriseUser members ≠ some (.arr items)) →
        ∃ inner items,
          Members.find? Schemas.enterpriseUser
              ((⟨kind, some path, value⟩ : PatchOperation).apply members) = some (.obj inner)
            ∧ Members.find? "manager" inner = some (.arr items))
      ∧ (∀ path value, WritesManager path → value.isObject = false →
        (∀ items, Members.find? Schemas.enterpriseUser members ≠ some (.arr items)) →
        Members.manager? ((⟨kind, some path, some value⟩ : PatchOperation).apply members)
          = if kind = .add ∧ value.isNull = true ∧ (Members.manager? members).isSome = true then
              Members.manager? members
            else some (.obj [("value", value)]))
      ∧ ∀ path earlier key value later, (path = none ∨ path = some "") → WritesManager key →
        value.isObject = false → (∀ field ∈ later, LeadsPastManager field.1) →
        (∀ items, Members.find? Schemas.enterpriseUser
          ((⟨kind, path, some (.obj earlier)⟩ : PatchOperation).apply members)
            ≠ some (.arr items)) →
        Members.manager? ((⟨kind, path, some (.obj (earlier ++ (key, value) :: later))⟩ :
          PatchOperation).apply members) = some (.obj [("value", value)]) := by
  have hatRoot {path : Option String} (hroot : path = none ∨ path = some "") (fields : Members) :
      (⟨kind, path, some (.obj fields)⟩ : PatchOperation).apply members
        = fields.foldl (fun ms field => Patch.writeMember ms field.1 field.2) members := by
    rw [apply_of_targetsRoot (by rcases hroot with rfl | rfl <;> rfl),
      Patch.atRoot_of_ne_remove hkind]
  refine ⟨fun path value hpath hsuits => ?_, fun path fields hroot hsuits => ?_,
    fun path value hpath hnarrows hopen => ?_, fun path value hwrites hvalue hopen => ?_,
    fun path earlier key value later hroot hwrites hvalue hlater hopen => ?_⟩
  · rw [apply_of_ne_empty hpath]
    exact Patch.hasComplexManager_along hkind hsuits hmembers
  · rw [hatRoot hroot]
    exact Patch.hasComplexManager_writeMembers hsuits hmembers
  · rw [apply_of_ne_empty hpath]
    exact Patch.exists_find?_along_of_narrowsManager hkind hnarrows hopen
  · rw [apply_of_ne_empty hwrites.ne_empty,
      Patch.manager?_along_of_writesManager hkind hwrites hvalue hopen]
    cases kind with
    | remove => exact absurd rfl hkind
    | replace => rfl
    | add =>
      show some (Patch.addTo value _ _) = _
      rw [Patch.some_addTo_of_not_isObject hvalue hmembers.all_manager?]
      simp only [true_and]
  · rw [hatRoot hroot] at hopen ⊢
    rw [List.foldl_append, List.foldl_cons, Patch.manager?_writeMembers_of_leadsPastManager hlater]
    exact Patch.manager?_writeMember_of_writesManager hwrites hvalue hopen

/-- A manager written as a scalar is known by it, also if another attribute of the extension is
written later, `null` that is added leaves it, and a filter makes an array of it. -/
theorem manager_stays_complex_of_scalar :
    Members.HasComplexManager managed
      ∧ SuitsManager managerPath (some (.str "boss-id"))
      ∧ Members.HasComplexManager
        ((⟨.add, some managerPath, some (.str "boss-id")⟩ : PatchOperation).apply managed)
      ∧ Members.HasComplexManager
        ((⟨.add, none, some (.obj [(managerPath, .str "boss-id")])⟩ : PatchOperation).apply managed)
      ∧ (∃ inner items,
        Members.find? Schemas.enterpriseUser
            ((⟨.add, some narrowedPath, some (.str "boss-id")⟩ : PatchOperation).apply managed)
              = some (.obj inner)
          ∧ Members.find? "manager" inner = some (.arr items))
      ∧ Members.manager?
          ((⟨.add, some managerPath, some (.str "boss-id")⟩ : PatchOperation).apply managed)
        = some (.obj [("value", .str "boss-id")])
      ∧ Members.manager? ((⟨.add, some managerPath, some .null⟩ : PatchOperation).apply managed)
        = some (.obj [("value", .str "ada")])
      ∧ Members.manager? ((⟨.add, none, some (.obj [("displayName", .str "Bob"),
          (managerPath, .str "boss-id"), (organizationPath, .str "Acme")])⟩ :
            PatchOperation).apply managed)
        = some (.obj [("value", .str "boss-id")]) := by
  have hmanaged : Members.HasComplexManager managed := by decide
  have hwide : narrowsManager managerPath (some (.str "boss-id")) = false := by
    rw [narrowsManager, managerPath, ofPath_managerPath (.inl rfl)]
    rfl
  have hnarrows : narrowsManager narrowedPath (some (.str "boss-id")) = true := by
    rw [narrowsManager, ofPath_narrowedPath]
    rfl
  have hsuits : SuitsManager managerPath (some (.str "boss-id")) :=
    @SuitsManager.inside ":" "manager" _ (.inl rfl) (by decide) hwide
  have hwrites : WritesManager managerPath := writesManager_managerPath (.inl rfl)
  have hpast : LeadsPastManager organizationPath := by
    rintro first rest hpath -
    obtain ⟨rfl, rfl⟩ := List.cons.inj (ofPath_organizationPath.symm.trans hpath)
    exact ⟨rfl, _, _, rfl, by decide⟩
  obtain ⟨hpath, hroot, hnarrowed, hscalar, hmember⟩ :=
    manager_stays_complex (by decide : PatchKind.add ≠ .remove) hmanaged
  refine ⟨hmanaged, hsuits, hpath _ _ (by decide) hsuits, hroot none _ (.inl rfl) ?_,
    hnarrowed _ _ (by decide) hnarrows ?_, hscalar _ _ hwrites rfl ?_, hscalar _ _ hwrites rfl ?_,
    hmember none [("displayName", .str "Bob")] _ _ _ (.inl rfl) hwrites rfl ?_ ?_⟩
  · rintro field hfield
    obtain rfl := List.mem_singleton.mp hfield
    exact hsuits
  · rintro items ⟨⟩
  · rintro items ⟨⟩
  · rintro items ⟨⟩
  · rintro field hfield
    obtain rfl := List.mem_singleton.mp hfield
    exact hpast
  · rintro items ⟨⟩

/-- An extension written as a whole brings a manager of any kind, and a filter makes an array of the
manager. -/
theorem manager_not_complex :
    Members.HasComplexManager managed
      ∧ ¬Members.HasComplexManager ((⟨.replace, some Schemas.enterpriseUser,
          some (.obj [("manager", .str "boss-id")])⟩ : PatchOperation).apply managed)
      ∧ ¬Members.HasComplexManager ((⟨.replace, some narrowedPath,
          some (.obj [("displayName", .str "Boss")])⟩ : PatchOperation).apply managed) := by
  rw [apply_of_ne_empty (by decide), apply_of_ne_empty (by decide), Segment.ofPath_enterpriseUser,
    ofPath_narrowedPath]
  decide

end PatchOperation

end Scim
