import Scim.Proofs.Primary

/-!
# The element that stays primary

The flags of a list are settled in one pass, which of the elements that it has passed knows no more
than whether one was primary (`Primary.getElem?_settleAll`).  What it comes to can be said without
that: an element keeps a flag if its flag could be read, and the flag is true for the first element
that had a true one (`Primary.SettledFrom`).  Under the name of a list nothing else changes, nothing
changes under other names or where there is no list, and nothing changes a second time
(`Primary.normalize_settles`).
-/

namespace Scim.Primary

open Members (Sorted)

/-- The place of the first element that has a true flag. -/
def firstTrue? (items : List Json) : Option Nat :=
  items.findIdx? fun item => flag? item == some true

/-- The elements are objects with the same members but for the flag, or they are the same. -/
inductive AgreeApartFromFlag : Json → Json → Prop
  | object {members members' : Members} (apart : members.AgreeApartFrom "primary" members') :
      AgreeApartFromFlag (.obj members) (.obj members')
  | other {item : Json} (h : item.isObject = false) : AgreeApartFromFlag item item

/-- The elements of a list, with their flags settled. -/
structure SettledFrom (items settled : List Json) : Prop where
  length_eq : settled.length = items.length
  apart : ∀ (i : Nat) (item item' : Json), items[i]? = some item → settled[i]? = some item' →
    AgreeApartFromFlag item item'
  /-- An element has a flag if the old one could be read.  It is true for the first element that had
  a true one, and false for the others. -/
  flag : ∀ (i : Nat) (item item' : Json), items[i]? = some item → settled[i]? = some item' →
    item'.get? "primary" = (flag? item).map fun _ => .bool (firstTrue? items == some i)

theorem agreeApartFromFlag_settle (before : Bool) {item : Json} (h : item.Sorted) :
    AgreeApartFromFlag item (settle before item) := by
  cases item with
  | obj members => exact .object ((Json.sorted_obj_iff.mp h).ascending.agreeApartFrom_alter _ _)
  | null | bool | num | str | arr => exact .other rfl

/-! ## The elements of a list -/

theorem length_settleAll (before : Bool) (items : List Json) :
    (settleAll before items).length = items.length := by
  induction items generalizing before with
  | nil => rfl
  | cons item items ih => rw [settleAll, List.length_cons, List.length_cons, ih]

/-- An element is settled by whether a true flag stands before it. -/
theorem getElem?_settleAll (before : Bool) (items : List Json) (i : Nat) :
    (settleAll before items)[i]?
      = items[i]?.map (settle (before || (items.take i).any (flag? · == some true))) := by
  induction items generalizing before i with
  | nil => rfl
  | cons item items ih =>
    cases i with
    | zero => simp [settleAll]
    | succ i => simp [settleAll, ih, Bool.or_assoc]

/-- An element is the first with a true flag if it has one and none stands before it. -/
theorem firstTrue?_beq {items : List Json} {i : Nat} {item : Json} (hitem : items[i]? = some item) :
    (firstTrue? items == some i)
      = (flag? item == some true && !(items.take i).any (flag? · == some true)) := by
  obtain ⟨hi, rfl⟩ := List.getElem?_eq_some_iff.mp hitem
  have hbefore : (items.take i).any (flag? · == some true) = false
      ↔ ∀ (j : Nat) (hj : j < i), ¬ (flag? items[j] == some true) = true := by
    rw [List.any_eq_false]
    constructor
    · intro hnone j hj
      exact hnone items[j] (List.mem_take_iff_getElem.mpr ⟨j, by omega, rfl⟩)
    · intro hnone item hmem
      obtain ⟨j, hj, rfl⟩ := List.mem_take_iff_getElem.mp hmem
      exact hnone j (by omega)
  rw [Bool.eq_iff_iff, beq_iff_eq, firstTrue?, List.findIdx?_eq_some_iff_getElem, Bool.and_eq_true,
    Bool.not_eq_true', hbefore]
  exact ⟨fun ⟨_, htrue, hnone⟩ => ⟨htrue, hnone⟩, fun ⟨htrue, hnone⟩ => ⟨hi, htrue, hnone⟩⟩

theorem settledFrom_settleAll {items : List Json} (h : ∀ item ∈ items, item.Sorted) :
    SettledFrom items (settleAll false items) where
  length_eq := length_settleAll false items
  apart := by
    intro i item item' hitem hitem'
    rw [getElem?_settleAll, hitem] at hitem'
    obtain rfl := Option.some.inj hitem'
    exact agreeApartFromFlag_settle _ (h item (List.mem_of_getElem? hitem))
  flag := by
    intro i item item' hitem hitem'
    rw [getElem?_settleAll, hitem] at hitem'
    obtain rfl := Option.some.inj hitem'
    rw [get?_settle _ (h item (List.mem_of_getElem? hitem)), firstTrue?_beq hitem, settledFlag,
      flag?]
    cases (item.get? "primary").bind read? with
    | none => rfl
    | some flag => cases flag <;> rfl

/-! ## Under a name -/

/-- Settling the flags under a name, in every document. -/
theorem normalize_settles (name : String) {members : Members} (h : Sorted members) :
    members.AgreeApartFrom name (normalize name members)
      ∧ (∀ items, Members.find? name members = some (.arr items) → ∃ settled,
          Members.find? name (normalize name members) = some (.arr settled)
            ∧ SettledFrom items settled)
      ∧ ((∀ items, Members.find? name members ≠ some (.arr items)) →
          normalize name members = members)
      ∧ normalize name (normalize name members) = normalize name members := by
  have hself : Members.find? name (normalize name members)
      = settledItems (Members.find? name members) := h.ascending.find?_alter_self name settledItems
  refine ⟨h.ascending.agreeApartFrom_alter name _, ?_, ?_, ?_⟩
  · intro items hheld
    rw [hself, hheld]
    have hitems : ∀ item ∈ items, item.Sorted := by
      have hsorted := h.find? name
      rw [hheld] at hsorted
      exact Json.sorted_arr_iff.mp (Members.sortedHeld_some_iff.mp hsorted)
    exact ⟨_, rfl, settledFrom_settleAll hitems⟩
  · intro hnone
    refine Members.alter_eq_self ?_
    cases hheld : Members.find? name members with
    | none => rfl
    | some held =>
      cases held with
      | arr items => exact absurd hheld (hnone items)
      | null | bool | num | str | obj => rfl
  · refine Members.alter_eq_self ?_
    calc settledItems (Members.find? name (normalize name members))
        = settledItems (settledItems (Members.find? name members)) := by rw [hself]
      _ = settledItems (Members.find? name members) := settledItems_settledItems (h.find? name)
      _ = Members.find? name (normalize name members) := hself.symm

/-- Elements whose flags cannot be read, are missing, or read true as a text and as a number. -/
def mixedRoles : List Json :=
  [.obj [("primary", .str "maybe")], .str "guest", .obj [("value", .str "reader")],
    .obj [("primary", .str " TRUE"), ("value", .str "editor")], .obj [("primary", .num (.int 1))]]

theorem normalize_settles_of_mixedRoles :
    Sorted [("roles", .arr mixedRoles)] ∧ firstTrue? mixedRoles = some 3
      ∧ ∃ settled, Members.find? "roles" (normalize "roles" [("roles", .arr mixedRoles)])
          = some (.arr settled) ∧ SettledFrom mixedRoles settled := by
  have hsorted : Sorted [("roles", .arr mixedRoles)] :=
    Json.sorted_obj_iff.mp (by decide)
  obtain ⟨-, hsettled, -, -⟩ := normalize_settles "roles" hsorted
  exact ⟨hsorted, by decide, hsettled mixedRoles rfl⟩

end Scim.Primary
