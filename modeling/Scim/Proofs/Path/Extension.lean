import Scim.Proofs.Patch.Exchange
import Scim.Proofs.Path.Colon

/-!
# Paths behind a schema name

An attribute of an extension is written behind the name of its schema, with a colon between them or
with a dot.  Both are the same path (`PatchOperation.colon_and_dot_alike`).  The normal form looks
for the last colon behind a `:User`, while the splitter watches for the `:User` that ends an open
name.  They agree where the name has no `:User` but the one at its end (`Path.IsSchemaName`) and the
attribute none in front of a colon (`Path.IsAttributePath`).
-/

namespace Scim

namespace Path

/-- A schema name as it stands in paths.  It ends at the first `:User`. -/
structure IsSchemaName (name : List Char) : Prop where
  exists_middle : ∃ middle ≠ [], name = schemaStart ++ middle ++ schemaEnd
  unbracketed : Unbracketed name
  ends_once : ¬ schemaEnd <:+: name.dropLast

theorem IsSchemaName.exists_eq {name : List Char} (h : IsSchemaName name) :
    ∃ c inner, name = schemaStart ++ c :: inner ∧ schemaEnd <:+ inner
      ∧ ¬ schemaEnd <:+: inner.dropLast := by
  obtain ⟨middle, hne, hname⟩ := h.exists_middle
  obtain ⟨c, more, rfl⟩ := List.exists_cons_of_ne_nil hne
  have hwhole : name = schemaStart ++ [c] ++ (more ++ schemaEnd) := by simp [hname]
  refine ⟨c, more ++ schemaEnd, by simp [hwhole], List.suffix_append _ _, fun hearly => ?_⟩
  apply h.ends_once
  rw [hwhole, List.dropLast_append_of_ne_nil (by simp [schemaEnd])]
  exact hearly.trans (List.suffix_append _ _).isInfix

theorem isSchemaName_enterpriseUser : IsSchemaName Schemas.enterpriseUser.toList where
  exists_middle := ⟨"ietf:params:scim:schemas:extension:enterprise:2.0".toList, by decide⟩
  unbracketed := by decide
  ends_once := by decide

/-- The path of an attribute that may stand behind a schema name and a colon.  The colon behind the
name is the last one that the normal form could change. -/
structure IsAttributePath (path : List Char) : Prop where
  ne_nil : path ≠ []
  head_ne : ∀ c ∈ path.head?, c ≠ '.' ∧ c ≠ '['
  no_colon : ¬ schemaEnd ++ [':'] <:+: ':' :: path

/-! ## The colon -/

theorem infix_dropLast {word cs : List Char} {c : Char} (h : word ++ [c] <:+: cs) :
    word <:+: cs.dropLast := by
  obtain ⟨before, behind, rfl⟩ := h
  refine ⟨before, (c :: behind).dropLast, ?_⟩
  rw [← List.append_assoc before, List.append_assoc _ [c], List.singleton_append,
    List.dropLast_append_of_ne_nil (List.cons_ne_nil c behind)]

section Attribute

variable {path : List Char} (hpath : IsAttributePath path)
include hpath

theorem dotHere?_schemaEnd :
    dotHere? (schemaEnd ++ ':' :: path) = some (schemaEnd ++ '.' :: path) := by
  have hword : Text.dropWord? (schemaEnd ++ [':']) (schemaEnd ++ ':' :: path) = some path :=
    Text.dropWord?_eq_some_iff.mpr (by simp)
  have hstarts : startsAttribute path = true := by
    obtain ⟨c, path, rfl⟩ := List.exists_cons_of_ne_nil hpath.ne_nil
    simpa [startsAttribute] using hpath.head_ne c rfl
  rw [dotHere?, hword, Option.filter_some, hstarts]
  rfl

/-- The colon behind the name is changed. -/
theorem dotLastColon?_schemaEnd (before : List Char) :
    dotLastColon? (before ++ (schemaEnd ++ ':' :: path))
      = some (before ++ (schemaEnd ++ '.' :: path)) := by
  induction before with
  | nil =>
    have hlater : dotLastColon? ('U' :: 's' :: 'e' :: 'r' :: ':' :: path) = none := by
      refine dotLastColon?_eq_none fun hinfix => hpath.no_colon ?_
      simpa [schemaEnd, List.infix_cons_iff (a := ':'), List.infix_cons_iff] using hinfix
    calc dotLastColon? (schemaEnd ++ ':' :: path)
        = ((dotLastColon? ('U' :: 's' :: 'e' :: 'r' :: ':' :: path)).map (':' :: ·)).or
            (dotHere? (schemaEnd ++ ':' :: path)) := dotLastColon?_cons ':' _
      _ = some (schemaEnd ++ '.' :: path) := by rw [hlater, dotHere?_schemaEnd hpath]; rfl
  | cons c before ih =>
    rw [List.cons_append, List.cons_append, dotLastColon?_cons, ih]
    rfl

end Attribute

/-- Where the name is over at a dot, the normal form changes nothing. -/
theorem dotLastColon?_behind_dot {name path : List Char} (hname : ¬ schemaEnd <:+: name.dropLast)
    (hpath : ¬ schemaEnd ++ [':'] <:+: path) : dotLastColon? (name ++ '.' :: path) = none := by
  refine dotLastColon?_eq_none fun hinfix => ?_
  rw [infix_append_cons_iff (by decide)] at hinfix
  exact hinfix.elim (fun h => hname (infix_dropLast h)) hpath

/-! ## The segment of the name -/

/-- A schema name is read as a whole, over the dots in it. -/
theorem splitChars_schemaName {name : List Char} (hname : IsSchemaName name) (rest : List Char) :
    splitChars (name ++ rest) = splitFrom name.reverse 0 false rest := by
  obtain ⟨middle, -, hmiddle⟩ := hname.exists_middle
  let inner : List Char := ['r', 'n', ':'] ++ middle ++ [':', 'U', 's', 'e']
  have hchars : name = 'u' :: inner ++ ['r'] := by simp [hmiddle, inner, schemaStart, schemaEnd]
  have hopen : ¬ schemaEnd <:+: 'u' :: inner := by
    have honce := hname.ends_once
    rwa [hchars, List.dropLast_concat] at honce
  have hfree : Unbracketed inner := hname.unbracketed.mono (by simp [hchars])
  have hstart : schemaStart.isPrefixOf ('u' :: (inner ++ 'r' :: rest)) = true := by
    simp [inner, schemaStart]
  have hinner : splitFrom ['u'] 0 true (inner ++ 'r' :: rest)
      = splitFrom ('u' :: inner).reverse 0 true ('r' :: rest) := by
    have hgo := splitFrom_append (List.cons_ne_nil 'u' []) hfree true (fun _ => ⟨rfl, hopen⟩)
      ('r' :: rest)
    rwa [List.singleton_append, decide_eq_false hopen] at hgo
  -- the last character of the name ends it
  have hend : schemaEnd.reverse.isPrefixOf ('r' :: ('u' :: inner).reverse) = true := by
    rw [isPrefixOf_schemaEnd_reverse, decide_eq_true_eq, ← hchars, hmiddle]
    exact List.suffix_append _ _
  calc splitChars (name ++ rest)
      = splitChars ('u' :: (inner ++ 'r' :: rest)) := by simp [hchars]
    _ = splitFrom ['u'] 0 true (inner ++ 'r' :: rest) := by
      rw [splitChars, splitFrom, if_neg (by decide), if_neg (by decide), hstart,
        if_neg (by decide)]
      rfl
    _ = splitFrom ('u' :: inner).reverse 0 true ('r' :: rest) := hinner
    _ = splitFrom name.reverse 0 false rest := by
      rw [splitFrom_cons (by simp) (by decide), if_neg (by decide), hend, hchars,
        List.reverse_append]
      rfl

/-! ## Both spellings -/

section Spellings

variable {name path : List Char} (hname : IsSchemaName name) (hpath : IsAttributePath path)
include hname

/-- Behind a schema name, the normal form keeps a dot, and keeps a colon or makes it a dot. -/
theorem exists_normalizeChars_schemaName {c : Char} (hc : c = ':' ∨ c = '.') (rest : List Char) :
    ∃ d rest', (d = ':' ∨ d = '.') ∧ normalizeChars (name ++ c :: rest) = name ++ d :: rest' := by
  obtain ⟨e, inner, hwhole, -, honce⟩ := hname.exists_eq
  have hchars (cs : List Char) : schemaStart ++ e :: (inner ++ cs) = name ++ cs := by
    rw [hwhole, List.append_assoc, List.cons_append]
  rw [← hchars, normalizeChars_of_schemaStart]
  cases hchanged : dotLastColon? (inner ++ c :: rest) with
  | none => exact ⟨c, rest, hc, by rw [Option.getD_none, hchars]⟩
  | some changed =>
    obtain ⟨before, f, behind, hsame, rfl, -⟩ := dotLastColon?_eq_some hchanged
    rw [Option.getD_some]
    rcases List.append_eq_append_iff.mp hsame with ⟨more, hbefore, hmore⟩ | ⟨more, hinner, hmore⟩
    · rw [hbefore, List.append_assoc, hchars]
      cases more with
      | nil => exact ⟨'.', _, .inr rfl, rfl⟩
      | cons d more =>
        obtain ⟨rfl, -⟩ := List.cons.inj hmore
        exact ⟨c, _, hc, rfl⟩
    · cases more with
      | nil =>
        rw [List.append_nil] at hinner
        rw [← hinner, hchars]
        exact ⟨'.', _, .inr rfl, rfl⟩
      | cons d more =>
        -- in the name itself no colon stands behind the end of a schema name
        obtain ⟨rfl, -⟩ := List.cons.inj hmore
        have hinfix : schemaEnd ++ [':'] <:+: inner := ⟨before, more, by rw [hinner]; simp⟩
        exact absurd (infix_dropLast hinfix) honce

/-- The dot behind a schema name ends its segment. -/
theorem splitChars_schemaName_dot (path : List Char) :
    splitChars (name ++ '.' :: path) = name :: splitChars path := by
  rw [splitChars_schemaName hname, splitFrom_dot_of_closed]

include hpath

theorem normalizeChars_schemaName_dot :
    normalizeChars (name ++ '.' :: path) = name ++ '.' :: path := by
  obtain ⟨c, inner, rfl, -, honce⟩ := hname.exists_eq
  have hnone : ¬ schemaEnd ++ [':'] <:+: path :=
    fun hcolon => hpath.no_colon (hcolon.trans (List.suffix_cons ':' path).isInfix)
  rw [List.append_assoc, List.cons_append, normalizeChars_of_schemaStart,
    dotLastColon?_behind_dot honce hnone, Option.getD_none]

theorem normalizeChars_schemaName_colon :
    normalizeChars (name ++ ':' :: path) = name ++ '.' :: path := by
  obtain ⟨c, _, rfl, ⟨before, rfl⟩, -⟩ := hname.exists_eq
  rw [List.append_assoc, List.cons_append, List.append_assoc, normalizeChars_of_schemaStart,
    dotLastColon?_schemaEnd hpath, Option.getD_some]
  simp

end Spellings

section Texts

variable {name path separator : String} (hname : IsSchemaName name.toList)
include hname

theorem split_schemaName : split (name ++ "." ++ path) = name :: split path := by
  simp [split, splitChars_schemaName_dot hname]

theorem normalize_schemaName (hpath : IsAttributePath path.toList)
    (hseparator : separator = ":" ∨ separator = ".") :
    normalize (name ++ separator ++ path) = name ++ "." ++ path := by
  rw [← String.toList_inj]
  rcases hseparator with rfl | rfl
  · simpa [normalize] using normalizeChars_schemaName_colon hname hpath
  · simpa [normalize] using normalizeChars_schemaName_dot hname hpath

end Texts

end Path

namespace PatchOperation

/-- The path of an attribute behind a schema name and a colon is the path behind the name and a
dot: its first segment is the name, and the further ones are those of the attribute. -/
theorem colon_and_dot_alike {name path : String} (hname : Path.IsSchemaName name.toList)
    (hpath : Path.IsAttributePath path.toList) :
    Path.normalize (name ++ "." ++ path) = name ++ "." ++ path
      ∧ Path.normalize (name ++ ":" ++ path) = name ++ "." ++ path
      ∧ Path.split (Path.normalize (name ++ "." ++ path)) = name :: Path.split path
      ∧ Path.split (Path.normalize (name ++ ":" ++ path)) = name :: Path.split path
      ∧ ∀ kind value members,
        (⟨kind, some (name ++ ":" ++ path), value⟩ : PatchOperation).apply members
          = (⟨kind, some (name ++ "." ++ path), value⟩ : PatchOperation).apply members := by
  have hdot : Path.normalize (name ++ "." ++ path) = name ++ "." ++ path :=
    Path.normalize_schemaName hname hpath (.inr rfl)
  have hcolon : Path.normalize (name ++ ":" ++ path) = name ++ "." ++ path :=
    Path.normalize_schemaName hname hpath (.inl rfl)
  have hsplit : Path.split (name ++ "." ++ path) = name :: Path.split path :=
    Path.split_schemaName hname
  refine ⟨hdot, hcolon, by rw [hdot, hsplit], by rw [hcolon, hsplit], ?_⟩
  intro kind value members
  have hne (mark : String) : name ++ mark ++ path ≠ "" := by
    intro hempty
    apply hpath.ne_nil
    simpa using (String.append_eq_empty_iff.mp hempty).2
  rw [apply_of_ne_empty (hne ":"), apply_of_ne_empty (hne "."), Segment.ofPath, Segment.ofPath,
    hcolon, hdot]

theorem colon_and_dot_alike_of_manager :
    (Path.IsSchemaName Schemas.enterpriseUser.toList
        ∧ Path.IsAttributePath "manager.value".toList)
      ∧ Path.split (Path.normalize (Schemas.enterpriseUser ++ ":" ++ "manager.value"))
        = [Schemas.enterpriseUser, "manager", "value"]
      ∧ ∀ kind value members,
        (⟨kind, some (Schemas.enterpriseUser ++ ":" ++ "manager.value"), value⟩ :
            PatchOperation).apply members
          = (⟨kind, some (Schemas.enterpriseUser ++ "." ++ "manager.value"), value⟩ :
            PatchOperation).apply members := by
  have hpath : Path.IsAttributePath "manager.value".toList := ⟨by decide, by simp, by decide⟩
  obtain ⟨-, -, -, hsplit, hsame⟩ := colon_and_dot_alike Path.isSchemaName_enterpriseUser hpath
  have hparts : Path.split "manager.value" = ["manager", "value"] := by decide
  exact ⟨⟨Path.isSchemaName_enterpriseUser, hpath⟩, hparts ▸ hsplit, hsame⟩

/-- Where the attribute holds a further `:User`, the colon behind that one becomes the dot. -/
example : Path.normalize "urn:a:User:b:User:c" = "urn:a:User:b:User.c" := by decide

end PatchOperation

end Scim
