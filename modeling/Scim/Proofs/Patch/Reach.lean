import Scim.Proofs.Path.Dotted

/-!
# What filters find of what patches write

A value that is replaced at a path is written along the segments of the path, and a filter looks for
it along its dotted names.  On a dotted path these are the same, and the filter finds the value and
nothing else.  On any other path they part at some name.  From there on the write goes on under a
key that the filter does not look at, so the filter finds what it found before: the write is out of
its reach.  The attributes of the enterprise extension are all of the second kind, since the name of
its schema holds a dot (`PatchOperation.replaced_found`).
-/

namespace Scim

/-! ## Segments without brackets -/

namespace Segment

variable {path : String}

/-- The segment that a text without brackets spells. -/
def named (name : String) : Segment :=
  ⟨name, name, none⟩

theorem ofText_of_notMem {raw : String} (h : ']' ∉ raw.toList) : ofText raw = named raw := by
  have hnone : bracket? raw.toList = none := by
    cases hchars : raw.toList with
    | nil => rfl
    | cons c cs =>
      rw [hchars] at h
      refine if_neg fun hclosed => h (List.mem_cons_of_mem c ?_)
      have hlast := List.mem_of_mem_drop (List.mem_of_getLast? hclosed.1)
      exact (List.dropWhile_suffix _).subset hlast
  rw [ofText, hnone]
  rfl

theorem ofPath_eq_map_named (hfree : Path.Unbracketed path.toList)
    (hend : Path.EndsInName path.toList) :
    ofPath path = (Path.split (Path.normalize path)).map named := by
  refine List.map_congr_left fun raw hraw => ofText_of_notMem fun hclose => ?_
  obtain ⟨part, hpart, rfl⟩ := List.mem_map.mp hraw
  rw [String.toList_ofList] at hclose
  have hchars : (Path.normalize path).toList = Path.normalizeChars path.toList :=
    String.toList_ofList
  rw [hchars] at hpart
  have hjoined := Path.intercalate_splitChars hend.normalizeChars
  exact hfree.normalizeChars.2 (hjoined ▸ Path.mem_intercalate hpart hclose)

theorem keepsFilters_map_named (names : List String) : KeepsFilters (names.map named) := by
  refine List.Pairwise.isChain (List.pairwise_of_forall_mem_list ?_)
  rintro segment hsegment next - f hf
  obtain ⟨name, -, rfl⟩ := List.mem_map.mp hsegment
  cases hf

/-- What a walk leads to is what the names lead to, and nothing else. -/
theorem follow_of_walk {names : List String} {j v : Json}
    (h : walk (names.map named) j = some v) : j.follow names = [v] := by
  induction names generalizing j with
  | nil =>
    cases h
    rfl
  | cons name names ih =>
    obtain ⟨next, henter, hwalk⟩ := Option.bind_eq_some_iff.mp h
    cases j with
    | obj members =>
      have hfound : Members.find? name members = some next := henter
      simp [Json.follow, Json.step, hfound, ih hwalk]
    | null | bool | num | str | arr => cases henter

end Segment

/-! ## Writes under other names -/

namespace Patch

open Segment (named)

/-- A passage is out of the reach of names behind its key, if the change inside of it is. -/
theorem follow_passCreating {names : List String} (hnames : names ≠ [])
    {change : Members → Members}
    (hchange : ∀ members, (Json.obj (change members)).follow names
      = (Json.obj members).follow names) (held : Option Json) :
    (passCreating none change held).toList.flatMap (Json.follow names)
      = held.toList.flatMap (Json.follow names) := by
  obtain ⟨name, rest, rfl⟩ := List.exists_cons_of_ne_nil hnames
  -- a fresh object leads on as little as what it takes the place of
  have hfresh : (Json.obj (change [])).follow (name :: rest) = [] := hchange []
  rcases held with _ | j
  · exact (List.flatMap_singleton _ _).trans hfresh
  · cases j with
    | arr items => rfl
    | obj members => simp [passCreating, hchange]
    | null | bool | num | str => exact (List.flatMap_singleton _ _).trans hfresh

/-- A write along keys is out of the reach of names if neither is the beginning of the other. -/
theorem follow_along_replace {keys names : List String} (hkeys : ¬ keys <+: names)
    (hnames : ¬ names <+: keys) (value : Json) (parent : Option String) (members : Members) :
    (Json.obj (along .replace (some value) parent (keys.map named) members)).follow names
      = (Json.obj members).follow names := by
  induction keys generalizing names parent members with
  | nil => exact absurd List.nil_prefix hkeys
  | cons key keys ih =>
    cases names with
    | nil => exact absurd List.nil_prefix hnames
    | cons name names =>
      have hfollow (ms : Members) : (Json.obj ms).follow (name :: names)
          = (Members.find? name ms).toList.flatMap (Json.follow names) := rfl
      rw [hfollow, hfollow, List.map_cons]
      by_cases hne : name = key
      · -- the write passes on to where the names part
        subst hne
        rw [List.cons_prefix_cons, not_and] at hkeys hnames
        have hrest := hkeys rfl
        have hrest' := hnames rfl
        have hkeysne : keys.map named ≠ [] := by
          intro hnil
          rw [List.map_eq_nil_iff.mp hnil] at hrest
          exact hrest List.nil_prefix
        have hnamesne : names ≠ [] := by
          rintro rfl
          exact hrest' List.nil_prefix
        have hpassed : Members.find? name (Members.alter name
            (passCreating none (along .replace (some value) (some name) (keys.map named))) members)
            = passCreating none (along .replace (some value) (some name) (keys.map named))
              (Members.find? name members) :=
          Members.find?_alter_of_stays (stays_passCreating _ _) members
        rw [along_replace_cons hkeysne]
        simp only [named] at hpassed ⊢
        rw [hpassed]
        exact follow_passCreating hnamesne (fun inner => ih hrest hrest' (some name) inner) _
      · rw [find?_along_replace_of_ne hne]

end Patch

/-! ## What filters find -/

namespace PatchOperation

open Segment (meetsArray named)

section Found

variable {path : String} (hfree : Path.Unbracketed path.toList)
  (hend : Path.EndsInName path.toList) (members : Members) (value : Json)
include hfree hend

theorem ofPath_of_isDotted (h : Path.IsDotted path) :
    Segment.ofPath path = (dottedNames path).map named := by
  rw [Segment.ofPath_eq_map_named hfree hend, (Path.split_normalize_eq_iff hfree hend).mpr h]

/-- On a dotted path that is open, the value is found where it was written. -/
theorem resolve_apply_of_isDotted (hpath : path ≠ "") (h : Path.IsDotted path)
    (hopen : meetsArray (Segment.ofPath path) (.obj members) = false) :
    (Json.obj ((replacing path value).apply members)).resolve path = [value] := by
  have hsegments := ofPath_of_isDotted hfree hend h
  have hnames := (List.dropLast_concat_getLast (dottedNames_ne_nil path)).symm
  generalize (dottedNames path).dropLast = before at hnames
  generalize (dottedNames path).getLast _ = last at hnames
  have hlast : Segment.ofPath path = before.map named ++ [named last] := by
    rw [hsegments, hnames, List.map_append]
    rfl
  have hkeep := Segment.keepsFilters_map_named (dottedNames path)
  rw [← hsegments] at hkeep
  have hwalk := walk_apply_replacing hpath hkeep hlast rfl hopen value
  -- the value is written as it is: no dotted name is the schema name of the extension
  have hparent : (before.map named).getLast?.map Segment.raw ≠ some Schemas.enterpriseUser := by
    intro hschema
    obtain ⟨segment, hmem, hraw⟩ := Option.map_eq_some_iff.mp hschema
    obtain ⟨name, hname, rfl⟩ := List.mem_map.mp (List.mem_of_getLast? hmem)
    have hin : name ∈ dottedNames path := hnames ▸ List.mem_append_left _ hname
    obtain ⟨part, hpart, rfl⟩ := List.mem_map.mp hin
    have hdot := notMem_of_mem_splitAt hpart
    have hchars : part = Schemas.enterpriseUser.toList := by
      simpa [named] using congrArg String.toList hraw
    exact hdot (hchars ▸ by decide)
  rw [Patch.complexValue, if_neg (fun hmanager => hparent hmanager.2.1), hsegments] at hwalk
  exact Segment.follow_of_walk hwalk

/-- On any other path, nothing that is found there changes. -/
theorem resolve_apply_of_not_isDotted (hpath : path ≠ "") (h : ¬ Path.IsDotted path) :
    (Json.obj ((replacing path value).apply members)).resolve path
      = (Json.obj members).resolve path := by
  obtain ⟨hkeys, hnames⟩ := Path.not_prefix_of_not_isDotted hfree hend h
  rw [apply_replacing hpath, Segment.ofPath_eq_map_named hfree hend]
  exact Patch.follow_along_replace hkeys hnames value none members

end Found

/-- What filters find of what patches write, for every document, every value and every path without
brackets that does not end in a dot.  If the path is dotted and the write is not stopped by an
array, the value is what the path resolves to.  If the path is not dotted, the write is out of
reach, and the path resolves to what it resolved to before.  Paths of attributes of the enterprise
extension, in colon form or not, are not dotted. -/
theorem replaced_found {path : String} (hpath : path ≠ "")
    (hfree : Path.Unbracketed path.toList) (hdot : path.toList.getLast? ≠ some '.')
    (members : Members) (value : Json) :
    (Path.IsDotted path → meetsArray (Segment.ofPath path) (.obj members) = false →
        (Json.obj ((replacing path value).apply members)).resolve path = [value])
      ∧ (¬ Path.IsDotted path → (Json.obj ((replacing path value).apply members)).resolve path
          = (Json.obj members).resolve path)
      ∧ (Schemas.enterpriseUser.toList <+: path.toList → ¬ Path.IsDotted path) := by
  have hend := Path.endsInName_of_ne_empty hpath hdot
  exact ⟨fun h hopen => resolve_apply_of_isDotted hfree hend members value hpath h hopen,
    fun h => resolve_apply_of_not_isDotted hfree hend members value hpath h,
    Path.not_isDotted_of_enterpriseUser⟩

/-- The path of the department in the enterprise extension, in colon form. -/
def departmentPath : String :=
  Schemas.enterpriseUser ++ ":department"

theorem departmentPath_ne_empty : departmentPath ≠ "" := by
  simp [departmentPath]

theorem unbracketed_departmentPath : Path.Unbracketed departmentPath.toList := by
  simp [departmentPath, Schemas.enterpriseUser, Path.Unbracketed]

theorem getLast?_departmentPath : departmentPath.toList.getLast? ≠ some '.' := by
  simp [departmentPath]

theorem enterpriseUser_departmentPath :
    Schemas.enterpriseUser.toList <+: departmentPath.toList := by
  simp [departmentPath]

/-- A given name is found where it was written, and a department is not. -/
theorem replaced_found_givenName :
    (Json.obj ((replacing "name.givenName" (.str "Ada")).apply
        [("userName", .str "ada")])).resolve "name.givenName" = [.str "Ada"]
      ∧ (Json.obj ((replacing departmentPath (.str "R&D")).apply
        [("userName", .str "ada")])).resolve departmentPath
          = (Json.obj [("userName", .str "ada")]).resolve departmentPath := by
  have hname := @replaced_found "name.givenName" (by decide) (by decide) (by decide)
    [("userName", .str "ada")] (.str "Ada")
  have hdepartment := replaced_found departmentPath_ne_empty unbracketed_departmentPath
    getLast?_departmentPath [("userName", .str "ada")] (.str "R&D")
  exact ⟨hname.1 (by decide) (by decide),
    hdepartment.2.1 (hdepartment.2.2 enterpriseUser_departmentPath)⟩

/-- A department that is written into an empty document is not found at its path. -/
theorem department_not_found :
    departmentPath ≠ "" ∧ Path.Unbracketed departmentPath.toList
      ∧ departmentPath.toList.getLast? ≠ some '.'
      ∧ meetsArray (Segment.ofPath departmentPath) (.obj []) = false
      ∧ .str "R&D" ∉ (Json.obj ((replacing departmentPath (.str "R&D")).apply [])).resolve
          departmentPath := by
  have hend := Path.endsInName_of_ne_empty departmentPath_ne_empty getLast?_departmentPath
  have hsame := resolve_apply_of_not_isDotted unbracketed_departmentPath hend [] (.str "R&D")
    departmentPath_ne_empty (Path.not_isDotted_of_enterpriseUser enterpriseUser_departmentPath)
  obtain ⟨segment, rest, hsegments⟩ := List.exists_cons_of_ne_nil
    (Segment.ofPath_ne_nil departmentPath_ne_empty)
  obtain ⟨name, names, hnames⟩ := List.exists_cons_of_ne_nil (dottedNames_ne_nil departmentPath)
  refine ⟨departmentPath_ne_empty, unbracketed_departmentPath, getLast?_departmentPath, ?_, ?_⟩
  · rw [hsegments]
    exact Segment.meetsArray_of_get?_eq_none rfl rest
  · -- an empty document leads nowhere
    rw [hsame, Json.resolve, hnames]
    exact List.not_mem_nil

end PatchOperation

end Scim
