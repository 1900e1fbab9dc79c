import Scim.Json.Basic

/-!
# The strings of a value

A value is what its outline and its strings say (`Json.eq_of_outline_eq`).  The outline is the value
with every string emptied: it still has all keys, the order of members and items, and every other
scalar.  The strings are listed as they stand in the value, at any depth; keys are not among them.

Passing the strings of a value through a function leaves the outline, and does to the listed strings
what the function does to each.  Nothing else has this outline and these strings
(`Json.mapStrings_eq_iff`).
-/

namespace Scim.Json

mutual

/-- The value with every string in it, at any depth, passed through a function; keys stay. -/
def mapStrings (f : String → String) : Json → Json
  | .str s => .str (f s)
  | .arr items => .arr (mapStringsOfItems f items)
  | .obj members => .obj (mapStringsOfMembers f members)
  | j => j

/-- The items with their strings passed through a function. -/
def mapStringsOfItems (f : String → String) : List Json → List Json
  | [] => []
  | x :: xs => mapStrings f x :: mapStringsOfItems f xs

/-- The members with their strings passed through a function. -/
def mapStringsOfMembers (f : String → String) : List (String × Json) → List (String × Json)
  | [] => []
  | (k, x) :: xs => (k, mapStrings f x) :: mapStringsOfMembers f xs

end

mutual

/-- The strings in a value, at any depth, in the order of the value; keys are not among them. -/
def strings : Json → List String
  | .str s => [s]
  | .arr items => stringsOfItems items
  | .obj members => stringsOfMembers members
  | _ => []

/-- The strings in the items. -/
def stringsOfItems : List Json → List String
  | [] => []
  | x :: xs => strings x ++ stringsOfItems xs

/-- The strings in what the members hold. -/
def stringsOfMembers : List (String × Json) → List String
  | [] => []
  | (_, x) :: xs => strings x ++ stringsOfMembers xs

end

/-- What a value is apart from its strings. -/
def outline (j : Json) : Json :=
  j.mapStrings fun _ => ""

variable (f g : String → String)

/-! ## One pass and two -/

mutual

theorem mapStrings_mapStrings (j : Json) :
    (j.mapStrings f).mapStrings g = j.mapStrings (g ∘ f) := by
  cases j with
  | null | bool | num | str => rfl
  | arr items => rw [mapStrings, mapStrings, mapStrings, mapStringsOfItems_mapStringsOfItems items]
  | obj members =>
    rw [mapStrings, mapStrings, mapStrings, mapStringsOfMembers_mapStringsOfMembers members]

theorem mapStringsOfItems_mapStringsOfItems (items : List Json) :
    mapStringsOfItems g (mapStringsOfItems f items) = mapStringsOfItems (g ∘ f) items := by
  cases items with
  | nil => rfl
  | cons x xs =>
    rw [mapStringsOfItems, mapStringsOfItems, mapStringsOfItems, mapStrings_mapStrings x,
      mapStringsOfItems_mapStringsOfItems xs]

theorem mapStringsOfMembers_mapStringsOfMembers (members : List (String × Json)) :
    mapStringsOfMembers g (mapStringsOfMembers f members)
      = mapStringsOfMembers (g ∘ f) members := by
  cases members with
  | nil => rfl
  | cons head xs =>
    obtain ⟨k, x⟩ := head
    rw [mapStringsOfMembers, mapStringsOfMembers, mapStringsOfMembers, mapStrings_mapStrings x,
      mapStringsOfMembers_mapStringsOfMembers xs]

end

/-- The strings do not matter to the outline. -/
@[simp] theorem outline_mapStrings (j : Json) : (j.mapStrings f).outline = j.outline :=
  mapStrings_mapStrings f _ j

mutual

@[simp] theorem strings_mapStrings (j : Json) : (j.mapStrings f).strings = j.strings.map f := by
  cases j with
  | null | bool | num | str => rfl
  | arr items => rw [mapStrings, strings, strings, stringsOfItems_mapStringsOfItems items]
  | obj members => rw [mapStrings, strings, strings, stringsOfMembers_mapStringsOfMembers members]

theorem stringsOfItems_mapStringsOfItems (items : List Json) :
    stringsOfItems (mapStringsOfItems f items) = (stringsOfItems items).map f := by
  cases items with
  | nil => rfl
  | cons x xs =>
    rw [mapStringsOfItems, stringsOfItems, stringsOfItems, List.map_append, strings_mapStrings x,
      stringsOfItems_mapStringsOfItems xs]

theorem stringsOfMembers_mapStringsOfMembers (members : List (String × Json)) :
    stringsOfMembers (mapStringsOfMembers f members) = (stringsOfMembers members).map f := by
  cases members with
  | nil => rfl
  | cons head xs =>
    obtain ⟨k, x⟩ := head
    rw [mapStringsOfMembers, stringsOfMembers, stringsOfMembers, List.map_append,
      strings_mapStrings x, stringsOfMembers_mapStringsOfMembers xs]

end

/-! ## Outline and strings -/

/-- The outline tells how many strings there are. -/
theorem length_strings_eq {a b : Json} (h : a.outline = b.outline) :
    a.strings.length = b.strings.length := by
  have hlengths : a.outline.strings.length = b.outline.strings.length := by rw [h]
  simpa only [outline, strings_mapStrings, List.length_map] using hlengths

mutual

/-- A value is what its outline and its strings say. -/
theorem eq_of_outline_eq : ∀ {a b : Json}, a.outline = b.outline → a.strings = b.strings → a = b
  | .null, b, h, _ => by
    cases b <;> simp only [outline, mapStrings, reduceCtorEq] at h
    rfl
  | .bool _, b, h, _ => by
    cases b <;> simp only [outline, mapStrings, reduceCtorEq] at h
    exact h
  | .num _, b, h, _ => by
    cases b <;> simp only [outline, mapStrings, reduceCtorEq] at h
    exact h
  | .str _, b, h, hstrings => by
    cases b <;> simp only [outline, mapStrings, reduceCtorEq] at h
    rw [List.singleton_inj.mp hstrings]
  | .arr xs, b, h, hstrings => by
    cases b <;> simp only [outline, mapStrings, reduceCtorEq] at h
    rw [eq_of_outline_eq_items (arr.inj h) hstrings]
  | .obj xs, b, h, hstrings => by
    cases b <;> simp only [outline, mapStrings, reduceCtorEq] at h
    rw [eq_of_outline_eq_members (obj.inj h) hstrings]

theorem eq_of_outline_eq_items : ∀ {xs ys : List Json},
    mapStringsOfItems (fun _ => "") xs = mapStringsOfItems (fun _ => "") ys →
      stringsOfItems xs = stringsOfItems ys → xs = ys
  | [], ys, h, _ => by
    cases ys <;> simp only [mapStringsOfItems, reduceCtorEq] at h
    rfl
  | x :: xs, ys, h, hstrings => by
    cases ys <;> simp only [mapStringsOfItems, reduceCtorEq, List.cons.injEq] at h
    obtain ⟨hfirst, hrest⟩ := List.append_inj hstrings (length_strings_eq h.1)
    rw [eq_of_outline_eq h.1 hfirst, eq_of_outline_eq_items h.2 hrest]

theorem eq_of_outline_eq_members : ∀ {xs ys : List (String × Json)},
    mapStringsOfMembers (fun _ => "") xs = mapStringsOfMembers (fun _ => "") ys →
      stringsOfMembers xs = stringsOfMembers ys → xs = ys
  | [], ys, h, _ => by
    cases ys <;> simp only [mapStringsOfMembers, reduceCtorEq] at h
    rfl
  | (k, x) :: xs, ys, h, hstrings => by
    cases ys <;>
      simp only [mapStringsOfMembers, reduceCtorEq, List.cons.injEq, Prod.mk.injEq] at h
    obtain ⟨hfirst, hrest⟩ := List.append_inj hstrings (length_strings_eq h.1.2)
    rw [h.1.1, eq_of_outline_eq h.1.2 hfirst, eq_of_outline_eq_members h.2 hrest]

end

/-- Passing the strings through a function does to them what the function does to each, and nothing
to the outline. -/
theorem mapStrings_eq_iff {f : String → String} {a b : Json} :
    a.mapStrings f = b ↔ b.outline = a.outline ∧ b.strings = a.strings.map f := by
  constructor
  · rintro rfl
    exact ⟨outline_mapStrings f a, strings_mapStrings f a⟩
  · rintro ⟨houtline, hstrings⟩
    refine eq_of_outline_eq ?_ ?_
    · rw [outline_mapStrings, houtline]
    · rw [strings_mapStrings, hstrings]

/-- A value stays if all its strings do. -/
theorem mapStrings_eq_self {f : String → String} {j : Json} (h : ∀ s ∈ j.strings, f s = s) :
    j.mapStrings f = j := by
  have hstrings : j.strings.map f = j.strings :=
    (List.map_congr_left h).trans (List.map_id' j.strings)
  exact mapStrings_eq_iff.mpr ⟨rfl, hstrings.symm⟩

end Scim.Json
