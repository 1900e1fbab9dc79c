import Scim.Primary
import Scim.Proofs.Json.Sorted

/-!
# Flags settle once

Settling the flags of a list leaves a list whose flags are settled: a second time nothing changes
(`Primary.settleAll_settleAll`).  So it does no harm that flags are settled both when a document is
written and when it is shown, and what is shown is what was written.
-/

namespace Scim.Primary

open Members (Sorted SortedHeld sortedHeld_none sortedHeld_some_iff)

/-! ## One element -/

/-- A flag that is kept reads as itself, unless an earlier one is true. -/
def settledFlag (before : Bool) (held : Option Json) : Option Json :=
  (held.bind read?).map fun flag => .bool (flag && !before)

theorem settle_eq (before : Bool) (item : Json) :
    settle before item = item.alterMember "primary" (settledFlag before) := rfl

theorem settledFlag_settledFlag (before : Bool) (held : Option Json) :
    settledFlag before (settledFlag before held) = settledFlag before held := by
  cases hread : held.bind read? with
  | none => simp [settledFlag, hread]
  | some flag => cases flag <;> cases before <;> simp [settledFlag, hread, read?]

theorem sortedHeld_settledFlag (before : Bool) (held : Option Json) :
    SortedHeld (settledFlag before held) := by
  cases hread : held.bind read? with
  | none => simpa [settledFlag, hread] using sortedHeld_none
  | some flag =>
    simp only [settledFlag, hread, Option.map_some]
    exact sortedHeld_some_iff.mpr trivial

theorem sorted_settle (before : Bool) {item : Json} (h : item.Sorted) :
    (settle before item).Sorted := by
  rw [settle_eq]
  cases item with
  | obj members =>
    exact Json.sorted_obj_iff.mpr
      ((Json.sorted_obj_iff.mp h).alter "primary" (sortedHeld_settledFlag before _))
  | null | bool | num | str | arr => exact h

/-- The flag of a settled element is the settled flag. -/
theorem get?_settle (before : Bool) {item : Json} (h : item.Sorted) :
    (settle before item).get? "primary" = settledFlag before (item.get? "primary") := by
  rw [settle_eq]
  cases item with
  | obj members => exact (Json.sorted_obj_iff.mp h).ascending.find?_alter_self _ _
  | null | bool | num | str | arr => rfl

/-- Settling an element leaves it as it is exactly if it leaves the flag as it is. -/
theorem settle_eq_self_iff_flag (before : Bool) {item : Json} (h : item.Sorted) :
    settle before item = item
      ↔ settledFlag before (item.get? "primary") = item.get? "primary" := by
  constructor
  · intro hsame
    rw [← get?_settle before h, hsame]
  · intro hflag
    cases item with
    | obj members => exact congrArg Json.obj (Members.alter_eq_self hflag)
    | null | bool | num | str | arr => rfl

theorem settle_settle (before : Bool) {item : Json} (h : item.Sorted) :
    settle before (settle before item) = settle before item := by
  rw [settle_eq_self_iff_flag before (sorted_settle before h), get?_settle before h,
    settledFlag_settledFlag]

/-- A flag that is settled with no true one before it is the one that was read. -/
theorem flag?_settle_false {item : Json} (h : item.Sorted) :
    flag? (settle false item) = flag? item := by
  rw [flag?, get?_settle false h, flag?, settledFlag]
  cases (item.get? "primary").bind read? <;> simp [read?]

/-! ## A list -/

theorem sorted_settleAll (before : Bool) {items : List Json} (h : ∀ item ∈ items, item.Sorted) :
    ∀ item ∈ settleAll before items, item.Sorted := by
  induction items generalizing before with
  | nil => exact h
  | cons item items ih =>
    obtain ⟨hitem, hrest⟩ := List.forall_mem_cons.mp h
    exact List.forall_mem_cons.mpr ⟨sorted_settle before hitem, ih _ hrest⟩

/-- Settled flags stay. -/
theorem settleAll_settleAll (before : Bool) {items : List Json} (h : ∀ item ∈ items, item.Sorted) :
    settleAll before (settleAll before items) = settleAll before items := by
  induction items generalizing before with
  | nil => rfl
  | cons item items ih =>
    obtain ⟨hitem, hrest⟩ := List.forall_mem_cons.mp h
    -- the second pass goes on behind the element as the first one did
    have hbefore : (before || flag? (settle before item) == some true)
        = (before || flag? item == some true) := by
      cases before with
      | true => rfl
      | false => rw [flag?_settle_false hitem]
    simp only [settleAll]
    rw [settle_settle before hitem, hbefore, ih _ hrest]

/-! ## Under a name -/

/-- What a name holds with its flags settled. -/
def settledItems (held : Option Json) : Option Json :=
  held.map fun
    | .arr items => .arr (settleAll false items)
    | j => j

theorem sortedHeld_settledItems {held : Option Json} (h : SortedHeld held) :
    SortedHeld (settledItems held) := by
  rcases held with _ | j
  · exact h
  · cases j with
    | arr items =>
      have hitems := Json.sorted_arr_iff.mp (sortedHeld_some_iff.mp h)
      exact sortedHeld_some_iff.mpr (Json.sorted_arr_iff.mpr (sorted_settleAll false hitems))
    | null | bool | num | str | obj => exact h

theorem settledItems_settledItems {held : Option Json} (h : SortedHeld held) :
    settledItems (settledItems held) = settledItems held := by
  rcases held with _ | j
  · rfl
  · cases j with
    | arr items =>
      have hitems := Json.sorted_arr_iff.mp (sortedHeld_some_iff.mp h)
      simp only [settledItems, Option.map_some, settleAll_settleAll false hitems]
    | null | bool | num | str | obj => rfl

/-! ## What is settled -/

/-- The element has no flag but a boolean. -/
def HasBooleanFlag (item : Json) : Prop :=
  ∀ held, item.get? "primary" = some held → ∃ flag, held = .bool flag

/-- The element has a true flag. -/
def isPrimary (item : Json) : Bool :=
  match item.get? "primary" with
  | some (.bool flag) => flag
  | _ => false

/-- The flags of a list are settled: they are booleans, and not more than one is true. -/
structure Settled (items : List Json) : Prop where
  boolean : ∀ item ∈ items, HasBooleanFlag item
  single : items.countP isPrimary ≤ 1

/-- A flag is settled if it is a boolean, and false behind a true one. -/
theorem settledFlag_eq_self_iff (before : Bool) (held : Option Json) :
    settledFlag before held = held
      ↔ ∀ j, held = some j → ∃ flag, j = .bool flag ∧ (before = true → flag = false) := by
  rcases held with _ | j
  · simp [settledFlag]
  · cases j with
    | bool flag => cases flag <;> cases before <;> simp [settledFlag, read?]
    | null | arr | obj => simp [settledFlag, read?]
    | num n => simp [settledFlag, read?]
    | str s => cases hread : read? (.str s) <;> simp [settledFlag, hread]

theorem settle_eq_self_iff (before : Bool) {item : Json} (h : item.Sorted) :
    settle before item = item
      ↔ HasBooleanFlag item ∧ (before = true → isPrimary item = false) := by
  rw [settle_eq_self_iff_flag before h, settledFlag_eq_self_iff, HasBooleanFlag, isPrimary]
  rcases item.get? "primary" with _ | j
  · simp
  · cases j with
    | bool flag => cases flag <;> simp
    | null | num | str | arr | obj => simp

/-- A boolean flag is read as it is. -/
theorem flag?_beq_true {item : Json} (h : HasBooleanFlag item) :
    (flag? item == some true) = isPrimary item := by
  rw [flag?, isPrimary]
  cases hheld : item.get? "primary" with
  | none => rfl
  | some held =>
    obtain ⟨flag, rfl⟩ := h held hheld
    cases flag <;> rfl

/-- Settling leaves a list as it is exactly if its flags are booleans, and none is true behind a
true one. -/
theorem settleAll_eq_self_iff (before : Bool) {items : List Json}
    (h : ∀ item ∈ items, item.Sorted) :
    settleAll before items = items ↔ (∀ item ∈ items, HasBooleanFlag item)
      ∧ items.countP isPrimary + before.toNat ≤ 1 := by
  induction items generalizing before with
  | nil => cases before <;> simp [settleAll]
  | cons item items ih =>
    obtain ⟨hitem, hrest⟩ := List.forall_mem_cons.mp h
    rw [settleAll, List.cons.injEq, settle_eq_self_iff before hitem, ih _ hrest,
      List.forall_mem_cons, List.countP_cons]
    constructor
    · rintro ⟨⟨hboolean, hlater⟩, hbooleans, hcount⟩
      rw [flag?_beq_true hboolean] at hcount
      refine ⟨⟨hboolean, hbooleans⟩, ?_⟩
      cases before <;> cases hprimary : isPrimary item <;> simp_all
    · rintro ⟨⟨hboolean, hbooleans⟩, hcount⟩
      rw [flag?_beq_true hboolean]
      refine ⟨⟨hboolean, ?_⟩, hbooleans, ?_⟩ <;>
        cases before <;> cases hprimary : isPrimary item <;> simp_all

/-- The settled lists are those that settling leaves as they are. -/
theorem settled_iff {items : List Json} (h : ∀ item ∈ items, item.Sorted) :
    Settled items ↔ settleAll false items = items := by
  rw [settleAll_eq_self_iff false h]
  exact ⟨fun hsettled => ⟨hsettled.boolean, hsettled.single⟩, fun ⟨hb, hs⟩ => ⟨hb, hs⟩⟩

end Scim.Primary
