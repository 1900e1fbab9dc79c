import Scim.Number

/-!
# JSON values

Directory data is JSON, and the members of an object are kept in ascending order of their keys, by
the bytes of their UTF-8 form, which is the order of their characters.  One operation changes an
object: `Members.alter` passes what a key holds through a function.  Insertion, removal and
rewriting in place are instances of it, and none of them touches what another key holds.
-/

namespace Scim

/-- A JSON value. -/
inductive Json where
  | null
  | bool (b : Bool)
  | num (n : Number)
  | str (s : String)
  | arr (items : List Json)
  | obj (members : List (String × Json))
deriving Inhabited

/-- The members of an object, in ascending order of keys. -/
abbrev Members := List (String × Json)

namespace Members

/-- What a key holds. -/
def find? (key : String) : Members → Option Json
  | [] => none
  | (k, v) :: rest =>
    if k = key then some v
    else if key < k then none
    else find? key rest

/-- Replaces what a key holds by its image under `f`, where `none` stands for no member. -/
def alter (key : String) (f : Option Json → Option Json) : Members → Members
  | [] => match f none with
    | some v => [(key, v)]
    | none => []
  | (k, v) :: rest =>
    if k = key then
      match f (some v) with
      | some w => (k, w) :: rest
      | none => rest
    else if key < k then
      match f none with
      | some w => (key, w) :: (k, v) :: rest
      | none => (k, v) :: rest
    else (k, v) :: alter key f rest

/-- Lets a key hold a value. -/
def insert (key : String) (value : Json) (members : Members) : Members :=
  alter key (fun _ => some value) members

/-- Removes a key. -/
def erase (key : String) (members : Members) : Members :=
  alter key (fun _ => none) members

/-- The members of a list of pairs in any order; of two pairs with one key the later wins. -/
def ofList (pairs : List (String × Json)) : Members :=
  pairs.foldl (fun ms (k, v) => insert k v ms) []

/-- Whether a key is present. -/
def contains (key : String) (members : Members) : Bool :=
  (find? key members).isSome

/-- Replaces the members of `base` by those of `extra`. -/
def merge (base extra : Members) : Members :=
  extra.foldl (fun ms (k, v) => insert k v ms) base

/-! ## Keys do not interfere -/

theorem find?_alter_of_stays {key : String} {f : Option Json → Option Json}
    (hf : ∀ o, (f o).isSome) (members : Members) :
    find? key (alter key f members) = f (find? key members) := by
  induction members with
  | nil =>
    have := hf none
    cases h : f none with
    | none => simp [h] at this
    | some v => simp [alter, find?, h]
  | cons head rest ih =>
    obtain ⟨k, v⟩ := head
    by_cases hk : k = key
    · have := hf (some v)
      cases h : f (some v) with
      | none => simp [h] at this
      | some w => simp [alter, find?, hk, h]
    · by_cases hlt : key < k
      · have := hf none
        cases h : f none with
        | none => simp [h] at this
        | some w => simp [alter, find?, hk, hlt, h]
      · simp [alter, find?, hk, hlt, ih]

@[simp] theorem find?_insert_self (key : String) (value : Json) (members : Members) :
    find? key (insert key value members) = some value :=
  find?_alter_of_stays (by simp) members

end Members

namespace Json

/-! ## Building and looking into values -/

/-- An object from pairs in any order. -/
def ofPairs (pairs : List (String × Json)) : Json :=
  .obj (Members.ofList pairs)

/-- An array of strings. -/
def ofStrings (items : List String) : Json :=
  .arr (items.map .str)

/-- A natural number. -/
def ofNat (n : Nat) : Json :=
  .num (.int n)

/-- What an object holds under a key; other values hold nothing. -/
def get? (key : String) : Json → Option Json
  | obj members => Members.find? key members
  | _ => none

def members? : Json → Option Members
  | obj members => some members
  | _ => none

def items? : Json → Option (List Json)
  | arr items => some items
  | _ => none

def string? : Json → Option String
  | str s => some s
  | _ => none

def natural? : Json → Option Nat
  | num n => n.toNatural?
  | _ => none

def isObject (j : Json) : Bool := j.members?.isSome

def isArray (j : Json) : Bool := j.items?.isSome

def isNull : Json → Bool
  | null => true
  | _ => false

/-- Passes what an object holds under a key through a function; other values stay. -/
def alterMember (key : String) (f : Option Json → Option Json) : Json → Json
  | obj members => obj (Members.alter key f members)
  | j => j

/-- Lets an object hold a value under a key; other values stay. -/
def setMember (key : String) (value : Json) (j : Json) : Json :=
  j.alterMember key fun _ => some value

/-! ## Equality -/

mutual

/-- Structural equality.  An integer never equals a double, and the two zeros are equal. -/
def same : Json → Json → Bool
  | null, null => true
  | bool a, bool b => a == b
  | num a, num b => a.same b
  | str a, str b => a == b
  | arr xs, arr ys => sameItems xs ys
  | obj xs, obj ys => sameMembers xs ys
  | _, _ => false

/-- Structural equality of lists of values. -/
def sameItems : List Json → List Json → Bool
  | [], [] => true
  | x :: xs, y :: ys => same x y && sameItems xs ys
  | _, _ => false

/-- Structural equality of lists of members. -/
def sameMembers : List (String × Json) → List (String × Json) → Bool
  | [], [] => true
  | (k, x) :: xs, (l, y) :: ys => k == l && same x y && sameMembers xs ys
  | _, _ => false

end

instance : BEq Json := ⟨same⟩

/-! ## The order of keys -/

mutual

/-- Every object in the value lists its members in ascending order of keys, each key once. -/
def Sorted : Json → Prop
  | arr items => SortedItems items
  | obj members => (members.map Prod.fst).Pairwise (· < ·) ∧ SortedMembers members
  | _ => True

/-- `Sorted` of every item. -/
def SortedItems : List Json → Prop
  | [] => True
  | x :: xs => x.Sorted ∧ SortedItems xs

/-- `Sorted` of what every member holds. -/
def SortedMembers : List (String × Json) → Prop
  | [] => True
  | (_, x) :: xs => x.Sorted ∧ SortedMembers xs

end

end Json

end Scim
