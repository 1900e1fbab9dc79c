import Scim.Proofs.Json.Sorted

/-!
# Parts of values

A part of a value arises from it by deletions alone.  Members of objects and elements of arrays go,
at any depth; what stays keeps its key and its order, and a scalar stays as it is.

Being a part is transitive (`Json.Part.trans`), so what every step of a run keeps, the run keeps.
For members in ascending order it is what it should be by their keys: a part has some of the keys,
and holds under each a part of what was there (`Json.Part.exists_of_get?`).
-/

namespace Scim.Json

mutual

/-- What is left of a value after deleting members and elements at any depth. -/
inductive Part : Json → Json → Prop
  | same (j : Json) : Part j j
  | arr {kept items : List Json} (h : PartItems kept items) : Part (.arr kept) (.arr items)
  | obj {kept members : Members} (h : PartMembers kept members) : Part (.obj kept) (.obj members)

/-- What is left of the elements of an array: some of them, in their order, each a part of what it
was. -/
inductive PartItems : List Json → List Json → Prop
  | nil : PartItems [] []
  | drop {kept items : List Json} (item : Json) (h : PartItems kept items) :
      PartItems kept (item :: items)
  | keep {item' item : Json} {kept items : List Json} (hitem : Part item' item)
      (h : PartItems kept items) : PartItems (item' :: kept) (item :: items)

/-- What is left of the members of an object: some of them, in their order, each with its key and a
part of what it held. -/
inductive PartMembers : Members → Members → Prop
  | nil : PartMembers [] []
  | drop {kept members : Members} (member : String × Json) (h : PartMembers kept members) :
      PartMembers kept (member :: members)
  | keep {value' value : Json} {kept members : Members} (key : String) (hvalue : Part value' value)
      (h : PartMembers kept members) :
      PartMembers ((key, value') :: kept) ((key, value) :: members)

end

variable {a b c : Json} {kept items : List Json} {left members : Members} {key : String}
  {value : Json}

/-! ## Deleting elements and members -/

theorem PartItems.of_sublist (h : kept.Sublist items) : PartItems kept items := by
  induction h with
  | slnil => exact .nil
  | cons item _ ih => exact .drop item ih
  | cons_cons item _ ih => exact .keep (.same item) ih

theorem PartMembers.of_sublist (h : List.Sublist left members) : PartMembers left members := by
  induction h with
  | slnil => exact .nil
  | cons member _ ih => exact .drop member ih
  | cons_cons member _ ih => exact .keep member.1 (.same member.2) ih

theorem PartItems.refl (items : List Json) : PartItems items items :=
  .of_sublist (List.Sublist.refl items)

theorem PartMembers.refl (members : Members) : PartMembers members members :=
  .of_sublist (List.Sublist.refl members)

/-- One element becomes a part of what it was. -/
theorem PartItems.middle (h : Part a b) (before after : List Json) :
    PartItems (before ++ a :: after) (before ++ b :: after) := by
  induction before with
  | nil => exact .keep h (.refl after)
  | cons item before ih => exact .keep (.same item) ih

/-- A change under a key leaves a part of the members, if it leaves a part of what the key holds or
nothing at all. -/
theorem PartMembers.alter {f : Option Json → Option Json}
    (h : ∀ w, f (Members.find? key members) = some w →
      ∃ v, Members.find? key members = some v ∧ Part w v) :
    PartMembers (Members.alter key f members) members := by
  induction members with
  | nil =>
    simp only [Members.find?] at h
    cases hf : f none with
    | some w =>
      obtain ⟨v, hv, -⟩ := h w hf
      cases hv
    | none =>
      simp only [Members.alter, hf]
      exact .nil
  | cons head rest ih =>
    obtain ⟨k, v⟩ := head
    simp only [Members.find?] at h
    simp only [Members.alter]
    by_cases hk : k = key
    · simp only [hk, if_true] at h ⊢
      cases hf : f (some v) with
      | some w =>
        obtain ⟨v', hv', hpart⟩ := h w hf
        obtain rfl := Option.some.inj hv'
        exact .keep key hpart (.refl rest)
      | none => exact .drop _ (.refl rest)
    · by_cases hlt : key < k
      · simp only [hk, hlt, if_true, if_false] at h ⊢
        -- nothing is looked for behind a greater key, so there is nothing to leave a part of
        cases hf : f none with
        | some w =>
          obtain ⟨v', hv', -⟩ := h w hf
          cases hv'
        | none => exact .refl _
      · simp only [hk, hlt, if_false] at h ⊢
        exact .keep k (.same v) (ih h)

theorem PartMembers.erase (key : String) (members : Members) :
    PartMembers (Members.erase key members) members :=
  .alter fun _ h => nomatch h

/-- What a key holds becomes a part of what it was. -/
theorem PartMembers.insert (hheld : Members.find? key members = some b) (h : Part a b) :
    PartMembers (Members.insert key a members) members :=
  .alter fun _ hw => ⟨b, hheld, Option.some.inj hw ▸ h⟩

/-! ## Parts of parts -/

mutual

theorem Part.trans : ∀ {a b c : Json}, Part a b → Part b c → Part a c
  | _, _, _, h, .same _ => h
  | _, _, _, .same _, h => h
  | _, _, _, .arr h, .arr h' => .arr (h.trans h')
  | _, _, _, .obj h, .obj h' => .obj (h.trans h')

theorem PartItems.trans : ∀ {first second third : List Json},
    PartItems first second → PartItems second third → PartItems first third
  | _, _, _, h, .nil => h
  | _, _, _, h, .drop item h' => .drop item (h.trans h')
  | _, _, _, .drop item h, .keep _ h' => .drop _ (h.trans h')
  | _, _, _, .keep hitem h, .keep hitem' h' => .keep (hitem.trans hitem') (h.trans h')

theorem PartMembers.trans : ∀ {first second third : Members},
    PartMembers first second → PartMembers second third → PartMembers first third
  | _, _, _, h, .nil => h
  | _, _, _, h, .drop member h' => .drop member (h.trans h')
  | _, _, _, .drop _ h, .keep _ _ h' => .drop _ (h.trans h')
  | _, _, _, .keep key hvalue h, .keep _ hvalue' h' => .keep key (hvalue.trans hvalue') (h.trans h')

end

/-! ## Parts by their keys -/

theorem PartMembers.exists_of_mem :
    ∀ {left members : Members}, PartMembers left members → (key, a) ∈ left →
      ∃ b, (key, b) ∈ members ∧ Part a b
  | _, _, .nil, hmem => absurd hmem List.not_mem_nil
  | _, _, .drop _ h, hmem => by
    obtain ⟨b, hb, hpart⟩ := h.exists_of_mem hmem
    exact ⟨b, List.mem_cons_of_mem _ hb, hpart⟩
  | _, _, .keep k hvalue h, hmem => by
    rcases List.mem_cons.mp hmem with heq | hmem
    · obtain ⟨rfl, rfl⟩ := Prod.mk.inj heq
      exact ⟨_, List.mem_cons_self, hvalue⟩
    · obtain ⟨b, hb, hpart⟩ := h.exists_of_mem hmem
      exact ⟨b, List.mem_cons_of_mem _ hb, hpart⟩

/-- Whatever a part of a value in order holds under a key is a part of what the value holds
there. -/
theorem Part.exists_of_get? (h : Part a b) (hb : b.Sorted) (hheld : a.get? key = some value) :
    ∃ whole, b.get? key = some whole ∧ Part value whole := by
  cases h with
  | same => exact ⟨value, hheld, .same value⟩
  | arr => cases hheld
  | obj h =>
    obtain ⟨whole, hmem, hpart⟩ := h.exists_of_mem (Members.mem_of_find? hheld)
    exact ⟨whole, (Json.sorted_obj_iff.mp hb).ascending.find?_of_mem hmem, hpart⟩

end Scim.Json
