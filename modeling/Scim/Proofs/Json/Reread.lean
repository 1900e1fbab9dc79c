import Scim.Json.Decode
import Scim.Proofs.Json.Sorted

/-!
# Typed values that are read again

A decoder rereads what an encoder writes if every value that was ever read is read again, and as the
same value, from what it is written as (`Decoder.Rereads`).  This is less than reading back every
value of the type, and it is what a bounded number or a field without `null` allows.

It holds of scalars, passes to lists and to values with `null`, and for a record it is a matter of
its fields.  A record in object form is read if every field accepts what the object holds under its
name (`Shape.row_ofPairs`), and a field accepts that if the value of the field is read from there.
-/

namespace Scim

variable {α β : Type}

/-! ## Members of an object by their names -/

namespace Members

variable {key name : String} {f : α → Json}

@[simp] theorem find?_ofList_append (first second : List (String × Json)) :
    find? key (ofList (first ++ second))
      = (find? key (ofList second)).or (find? key (ofList first)) := by
  induction second using List.reverseRecOn with
  | nil => simp [ofList, find?]
  | append_singleton second last ih =>
    have hlast (pairs : List (String × Json)) :
        ofList (pairs ++ [last]) = insert last.1 last.2 (ofList pairs) := by
      simp [ofList, List.foldl_append]
    rw [← List.append_assoc, hlast, hlast, find?_insert, find?_insert, ih]
    split <;> rfl

@[simp] theorem find?_ofList_singleton (value : Json) :
    find? key (ofList [(name, value)]) = if name = key then some value else none := by
  simp only [ofList, List.foldl_cons, List.foldl_nil, insert, alter, find?]
  split
  · rfl
  · split <;> rfl

@[simp] theorem find?_ofList_cons (value : Json) (rest : List (String × Json)) :
    find? key (ofList ((name, value) :: rest))
      = (find? key (ofList rest)).or (if name = key then some value else none) := by
  rw [← List.singleton_append, find?_ofList_append, find?_ofList_singleton]

@[simp] theorem find?_ofList_nil : find? key (ofList []) = none := rfl

@[simp] theorem find?_ofList_optionalMember (a : Option α) :
    find? key (ofList (Json.optionalMember name f a)) = if name = key then a.map f else none := by
  cases a with
  | none => simp [Json.optionalMember]
  | some a => exact find?_ofList_singleton (f a)

@[simp] theorem find?_ofList_listMember (items : List α) :
    find? key (ofList (Json.listMember name f items))
      = if name = key ∧ items ≠ [] then some (.arr (items.map f)) else none := by
  cases items with
  | nil => simp [Json.listMember]
  | cons item items => simp [Json.listMember]

theorem ascending_ofList (pairs : List (String × Json)) : Ascending (ofList pairs) := by
  induction pairs using List.reverseRecOn with
  | nil => exact ascending_nil
  | append_singleton pairs last ih =>
    rw [ofList, List.foldl_append]
    exact ih.alter last.1 _

end Members

/-! ## Depth -/

namespace Json

variable {j : Json} {items : List Json} {members : Members} {key : String}

theorem depth_le_depthItems (h : j ∈ items) : j.depth ≤ depthItems items := by
  induction items with
  | nil => exact absurd h List.not_mem_nil
  | cons item items ih =>
    rw [depthItems]
    rcases List.mem_cons.mp h with rfl | h
    · exact Nat.le_max_left _ _
    · exact (ih h).trans (Nat.le_max_right _ _)

theorem depth_le_depthMembers (h : (key, j) ∈ members) : j.depth ≤ depthMembers members := by
  induction members with
  | nil => exact absurd h List.not_mem_nil
  | cons member members ih =>
    rw [depthMembers]
    rcases List.mem_cons.mp h with rfl | h
    · exact Nat.le_max_left _ _
    · exact (ih h).trans (Nat.le_max_right _ _)

end Json

/-! ## Decoders -/

namespace Decoder

variable {d : Decoder α} {e : α → Json}

/-- Two steps that both succeed. -/
theorem exists_of_bind_eq_ok {x : Except DecodeError α} {f : α → Except DecodeError β} {b : β}
    (h : (x >>= f) = .ok b) : ∃ a, x = .ok a ∧ f a = .ok b := by
  cases x with
  | ok a => exact ⟨a, rfl, h⟩
  | error e => cases h

theorem exists_of_map_eq_ok {x : Except DecodeError α} {f : α → β} {b : β}
    (h : f <$> x = .ok b) : ∃ a, x = .ok a ∧ f a = b := by
  cases x with
  | ok a => exact ⟨a, rfl, Except.ok.inj h⟩
  | error e => cases h

theorem ok_bind (a : α) (f : α → Except DecodeError β) : (Except.ok a >>= f) = f a := rfl

/-- Whatever was read is read again from what it is written as. -/
def Rereads (d : Decoder α) (e : α → Json) : Prop :=
  ∀ j a, d j = .ok a → d (e a) = .ok a

/-- How a value is written for which `null` stands for absence. -/
def orNull (e : α → Json) : Option α → Json
  | none => .null
  | some a => e a

theorem rereads_string : Rereads string .str := fun _ _ _ => rfl

theorem rereads_boolean : Rereads boolean .bool := fun _ _ _ => rfl

theorem rereads_natural (name : String) (limit : Nat) : Rereads (natural name limit) .ofNat := by
  intro j n h
  unfold natural at h
  split at h
  · next m =>
    split at h
    · next hm =>
      obtain rfl : m.toNat = n := by simpa [pure, Except.pure] using h
      have hsame : Json.ofNat m.toNat = .num (.int m) := by
        rw [Json.ofNat, Int.toNat_of_nonneg hm.1]
      rw [hsame, natural, if_pos hm]
      rfl
    · cases h
  · cases h

/-- What a list was read as was read item by item. -/
theorem exists_of_mem_of_mapM {items : List Json} {values : List α}
    (h : items.mapM d = .ok values) : ∀ a ∈ values, ∃ j, d j = .ok a := by
  induction items generalizing values with
  | nil =>
    obtain rfl : [] = values := by simpa [pure, Except.pure] using h
    simp
  | cons item items ih =>
    rw [List.mapM_cons] at h
    obtain ⟨value, hvalue, h⟩ := exists_of_bind_eq_ok h
    obtain ⟨rest, hrest, h⟩ := exists_of_bind_eq_ok h
    obtain rfl : value :: rest = values := by simpa [pure, Except.pure] using h
    exact List.forall_mem_cons.mpr ⟨⟨item, hvalue⟩, ih hrest⟩

theorem mapM_map_eq_ok {values : List α} (h : ∀ a ∈ values, d (e a) = .ok a) :
    (values.map e).mapM d = .ok values := by
  induction values with
  | nil => rfl
  | cons value values ih =>
    obtain ⟨hvalue, hrest⟩ := List.forall_mem_cons.mp h
    rw [List.map_cons, List.mapM_cons, hvalue, ok_bind, ih hrest, ok_bind]
    rfl

theorem rereads_list (hd : Rereads d e) : Rereads (list d) fun values => .arr (values.map e) := by
  intro j values h
  cases j with
  | arr items =>
    refine mapM_map_eq_ok fun a ha => ?_
    obtain ⟨item, hitem⟩ := exists_of_mem_of_mapM h a ha
    exact hd item a hitem
  | null | bool | num | str | obj => cases h

/-- A value that is not `null` is there or not as its decoder says. -/
theorem nullable_of_ne_null {j : Json} (h : j ≠ .null) : d.nullable j = some <$> d j := by
  cases j with
  | null => exact absurd rfl h
  | bool | num | str | arr | obj => rfl

theorem rereads_nullable (hd : Rereads d e) (he : ∀ a, e a ≠ .null) :
    Rereads d.nullable (orNull e) := by
  intro j o h
  cases o with
  | none => rfl
  | some a =>
    -- a value that is there was not read from `null`
    have hj : j ≠ .null := by
      rintro rfl
      cases h
    rw [nullable_of_ne_null hj] at h
    obtain ⟨b, hread, hb⟩ := exists_of_map_eq_ok h
    obtain rfl : b = a := Option.some.inj hb
    rw [orNull, nullable_of_ne_null (he b), hd j b hread]
    rfl

/-- Any value but `null` is there as it is. -/
theorem rereads_nullable_any : Rereads any.nullable (orNull id) := by
  intro j o h
  cases j with
  | null =>
    obtain rfl : none = o := by simpa [nullable, pure, Except.pure] using h
    rfl
  | bool | num | str | arr | obj =>
    obtain rfl := Except.ok.inj h
    rfl

end Decoder

/-! ## Records in object form -/

/-- Whether a field accepts what an object holds under its name, or that there is nothing. -/
def Field.Accepts (field : Field) : Option Json → Prop
  | some j => field.check j = .ok ()
  | none => field.absence ≠ .mistake

namespace Shape

variable {shape : Shape} {members : Members}

theorem checkMembers_eq_ok
    (h : ∀ member ∈ members, ∀ field ∈ shape.fields, field.name = member.1 →
      field.check member.2 = .ok ()) : shape.checkMembers members = .ok () := by
  induction members with
  | nil => rfl
  | cons member members ih =>
    obtain ⟨key, value⟩ := member
    obtain ⟨hfirst, hrest⟩ := List.forall_mem_cons.mp h
    rw [checkMembers]
    cases hfound : shape.fields.find? (·.name == key) with
    | none => exact ih hrest
    | some field =>
      have hname : field.name = key := by simpa using List.find?_some hfound
      simp only [hfirst field (List.mem_of_find?_eq_some hfound) hname]
      exact ih hrest

theorem checkPresence_eq_ok {fields : List Field}
    (h : ∀ field ∈ fields, field.Accepts (Members.find? field.name members)) :
    checkPresence members fields = .ok () := by
  induction fields with
  | nil => rfl
  | cons field fields ih =>
    obtain ⟨hfirst, hrest⟩ := List.forall_mem_cons.mp h
    rw [checkPresence, if_neg, ih hrest]
    rintro ⟨habsence, hmissing⟩
    cases hheld : Members.find? field.name members with
    | none =>
      rw [hheld] at hfirst
      exact hfirst habsence
    | some j => simp [Members.contains, hheld] at hmissing

/-- An object with the members that were written is a row of the record if every field accepts what
it holds. -/
theorem row_ofPairs {pairs : List (String × Json)} (hmembers : Members.ofList pairs = members)
    (h : shape.fields.Forall fun field => field.Accepts (Members.find? field.name members)) :
    shape.row (.obj members) = .ok members := by
  rw [List.forall_iff_forall_mem] at h
  have hascending : Members.Ascending members := hmembers ▸ Members.ascending_ofList pairs
  have hchecks : shape.checkMembers members = .ok () := by
    apply checkMembers_eq_ok
    rintro ⟨key, value⟩ hmember field hfield rfl
    have haccepts := h field hfield
    rwa [hascending.find?_of_mem hmember] at haccepts
  rw [row, hchecks, Decoder.ok_bind, checkPresence_eq_ok h]
  rfl

/-- The items of a record in array form stand under the names of the fields in their order. -/
theorem pairItems_eq_zip {count index : Nat} {fields : List Field} {items : List Json}
    {paired : List (String × Json)} (h : shape.pairItems count index fields items = .ok paired) :
    paired = (fields.map Field.name).zip items := by
  induction fields generalizing index items paired with
  | nil =>
    cases items with
    | nil => exact (Except.ok.inj h).symm
    | cons => cases h
  | cons field fields ih =>
    cases items with
    | nil =>
      simp only [pairItems] at h
      split at h
      · rw [ih h, List.zip_nil_right, List.zip_nil_right]
      · cases h
    | cons item items =>
      obtain ⟨_, -, h⟩ := Decoder.exists_of_bind_eq_ok h
      obtain ⟨rest, hrest, h⟩ := Decoder.exists_of_bind_eq_ok h
      rw [← Except.ok.inj h, ih hrest]
      rfl

end Shape

/-! ## Fields of a record -/

namespace Members

variable {d : Decoder α} {e : α → Json} {name : String} {pairs : List (String × Json)}
  {row written : Members} {a default : α} {o : Option α} {items : List α}

/-! ### What is read is accepted -/

theorem accepts_required (h : need name d row = .ok a) :
    (Field.required name d).Accepts (find? name row) := by
  unfold need at h
  cases hheld : find? name row with
  | none =>
    rw [hheld] at h
    cases h
  | some j =>
    rw [hheld] at h
    exact congrArg discard h

/-- A field that may be missing accepts what was read of it. -/
theorem accepts_of_needOr {absence : Absence} (habsence : absence ≠ .mistake)
    (h : needOr name d default row = .ok a) :
    (Field.mk name (fun j => discard (d j)) absence).Accepts (find? name row) := by
  unfold needOr at h
  cases hheld : find? name row with
  | none => exact habsence
  | some j =>
    rw [hheld] at h
    exact congrArg discard h

theorem want_eq_needOr (name : String) (d : Decoder α) (row : Members) :
    want name d row = needOr name d.nullable none row := rfl

theorem accepts_optional (h : want name d row = .ok o) :
    (Field.optional name d).Accepts (find? name row) := by
  rw [want_eq_needOr] at h
  exact accepts_of_needOr (by decide) h

theorem accepts_optionalDefaulted (h : want name d row = .ok o) :
    (Field.optionalDefaulted name d).Accepts (find? name row) := by
  rw [want_eq_needOr] at h
  exact accepts_of_needOr (by decide) h

theorem accepts_defaulted (h : needOr name d default row = .ok a) :
    (Field.defaulted name d).Accepts (find? name row) :=
  accepts_of_needOr (by decide) h

/-- The field for any value accepts whatever there is. -/
theorem accepts_any (held : Option Json) : (Field.defaulted name .any).Accepts held := by
  cases held with
  | none => exact Absence.noConfusion
  | some j => rfl

/-! ### What was read is read again -/

open Decoder (Rereads orNull)

theorem need_reread (hd : Rereads d e) (hwritten : ofList pairs = written)
    (h : need name d row = .ok a) (hheld : find? name (ofList pairs) = some (e a)) :
    need name d written = .ok a := by
  unfold need at h ⊢
  rw [← hwritten, hheld]
  split at h
  · next j _ => exact hd j a h
  · cases h

theorem want_reread (hd : Rereads d.nullable (orNull e)) (hwritten : ofList pairs = written)
    (h : want name d row = .ok o) (hheld : find? name (ofList pairs) = o.map e) :
    want name d written = .ok o := by
  unfold want at h ⊢
  rw [← hwritten, hheld]
  cases o with
  | none => rfl
  | some a =>
    split at h
    · next j _ => exact hd j (some a) h
    · cases h

theorem needOr_reread (hd : Rereads d e) (hdefault : d (e default) = .ok default)
    (hwritten : ofList pairs = written) (h : needOr name d default row = .ok a)
    (hheld : find? name (ofList pairs) = some (e a)) :
    needOr name d default written = .ok a := by
  unfold needOr at h ⊢
  rw [← hwritten, hheld]
  split at h
  · next j _ => exact hd j a h
  · exact Except.ok.inj h ▸ hdefault

/-! ### Lists that are written only when they have items -/

theorem exists_of_mem_of_needOr_nil (h : needOr name (.list d) [] row = .ok items) :
    ∀ a ∈ items, ∃ j, d j = .ok a := by
  unfold needOr at h
  split at h
  · next j _ =>
    cases j with
    | arr values => exact Decoder.exists_of_mem_of_mapM h
    | null | bool | num | str | obj => cases h
  · obtain rfl := Except.ok.inj h
    simp

theorem needOr_nil_eq_ok (hd : ∀ a ∈ items, d (e a) = .ok a)
    (hwritten : find? name written = if items ≠ [] then some (.arr (items.map e)) else none) :
    needOr name (.list d) [] written = .ok items := by
  by_cases hitems : items = []
  · rw [if_neg (not_not.mpr hitems)] at hwritten
    rw [needOr, hwritten, hitems]
    rfl
  · rw [if_pos hitems] at hwritten
    rw [needOr, hwritten]
    exact Decoder.mapM_map_eq_ok hd

end Members

end Scim
