import Mathlib.Data.List.Nodup
import Scim.Directory.Resource
import Scim.Proofs.Uuid

/-!
# Collections

A collection lists its entries in the order of their insertion.  While no two of them share an
identifier, an entry is found under its identifier, and writing over it replaces that entry and no
other.  Every reading answers entries of the collection, whatever it filters, sorts and cuts off.
-/

namespace Scim

/-- The kinds are kept apart. -/
theorem ResourceKind.collection_injective : Function.Injective collection := by
  intro kind other h
  cases kind <;> cases other <;> first | rfl | exact absurd h (by decide)

/-- A change of the collection of one kind is felt in that of this kind only. -/
theorem ResourceKind.entries_change (kind changed : ResourceKind) (store : Store)
    (f : List Entry → List Entry) :
    (store.change changed.collection f).entries kind.collection
      = if kind = changed then f (store.entries kind.collection)
        else store.entries kind.collection := by
  split
  · next heq => rw [heq, Store.entries_change_self]
  · next hne =>
    exact Store.entries_change_of_ne store (fun heq => hne (collection_injective heq)) f

namespace Store

variable {id : Uuid} {body : Members} {entries : List Entry} {e : Entry} {store : Store}
  {collection : String}

/-! ## Looking up -/

theorem mem_of_lookup (h : lookup id entries = some e) : e ∈ entries ∧ e.id = id := by
  refine ⟨List.mem_of_find?_eq_some h, ?_⟩
  simpa using List.find?_some h

/-- Entries with identifiers of their own are found under them. -/
theorem lookup_eq_some_iff (hdistinct : (entries.map Entry.id).Nodup) :
    lookup id entries = some e ↔ e ∈ entries ∧ e.id = id := by
  refine ⟨mem_of_lookup, ?_⟩
  rintro ⟨hmem, rfl⟩
  induction entries with
  | nil => exact absurd hmem List.not_mem_nil
  | cons head rest ih =>
    rw [List.map_cons, List.nodup_cons] at hdistinct
    rcases List.mem_cons.mp hmem with rfl | hrest
    · simp [lookup]
    · -- the head has another identifier, since that of `e` occurs behind it
      have hne : head.id ≠ e.id := fun heq => hdistinct.1 (heq ▸ List.mem_map_of_mem hrest)
      have hskip : lookup e.id (head :: rest) = lookup e.id rest := by simp [lookup, hne]
      rw [hskip, ih hdistinct.2 hrest]

theorem findById_eq_some_iff {text : String} :
    store.findById collection text = some e
      ↔ ∃ u, Uuid.ofText? text = some u ∧ lookup u (store.entries collection) = some e := by
  simp [findById, Option.bind_eq_some_iff]

/-- Any text of an identifier finds what its written form finds. -/
theorem findById_of_ofText? {text : String} (h : Uuid.ofText? text = some id) :
    store.findById collection text = lookup id (store.entries collection) := by
  simp [findById, h]

/-- Two texts of one identifier find the same. -/
theorem findById_congr {text other : String} (h : Uuid.ofText? text = Uuid.ofText? other) :
    store.findById collection text = store.findById collection other := by
  simp only [findById, h]

/-- What is found under two texts of one identifier is one entry. -/
theorem findById_unique {text other : String} (h : Uuid.ofText? text = Uuid.ofText? other)
    {e' : Entry} (he : store.findById collection text = some e)
    (he' : store.findById collection other = some e') : e = e' := by
  rw [findById_congr h] at he
  exact Option.some.inj (he.symm.trans he')

theorem mem_of_findById {text : String} (h : store.findById collection text = some e) :
    e ∈ store.entries collection ∧ Uuid.ofText? text = some e.id := by
  obtain ⟨u, hu, hlookup⟩ := findById_eq_some_iff.mp h
  obtain ⟨hmem, rfl⟩ := mem_of_lookup hlookup
  exact ⟨hmem, hu⟩

theorem lookup_of_findById {text : String} (h : store.findById collection text = some e) :
    lookup e.id (store.entries collection) = some e := by
  obtain ⟨u, -, hlookup⟩ := findById_eq_some_iff.mp h
  rw [(mem_of_lookup hlookup).2, hlookup]

/-- A listing shows entries of the collection. -/
theorem mem_of_mem_find {p : Predicate} {collation : Collation} {sort : Option SortSpec}
    {skip : Nat} {limit : Option Nat} (h : e ∈ store.find collection p collation sort skip limit) :
    e ∈ store.entries collection := by
  have hselect : e ∈ store.select collection p collation sort := by
    cases limit with
    | none => exact List.mem_of_mem_drop h
    | some n => exact List.mem_of_mem_drop (List.mem_of_mem_take h)
  have hfound : e ∈ (store.entries collection).filter (matching p collation) := by
    cases sort with
    | none => exact hselect
    | some spec => exact List.mem_mergeSort.mp hselect
  exact List.mem_of_mem_filter hfound

/-! ## Writing over an entry -/

@[simp] theorem map_id_overwrite (id : Uuid) (body : Members) (entries : List Entry) :
    (overwrite id body entries).map Entry.id = entries.map Entry.id := by
  induction entries with
  | nil => rfl
  | cons head rest ih =>
    simp only [overwrite]
    split <;> simp [ih]

/-- What is found under the identifier afterwards is the new document. -/
theorem lookup_overwrite (hlive : lookup id entries = some e) (body : Members) :
    lookup id (overwrite id body entries) = some ⟨id, body⟩ := by
  induction entries with
  | nil => cases hlive
  | cons head rest ih =>
    by_cases hhead : head.id = id
    · subst hhead
      simp [lookup, overwrite]
    · have hrest : lookup id rest = some e := by simpa [lookup, hhead] using hlive
      have hlater := ih hrest
      rw [lookup] at hlater
      simp [lookup, overwrite, hhead, hlater]

/-- Afterwards the identifier has the new document, and the other entries are what they were. -/
theorem mem_overwrite_iff (hdistinct : (entries.map Entry.id).Nodup) :
    e ∈ overwrite id body entries
      ↔ (e ∈ entries ∧ e.id ≠ id) ∨ (id ∈ entries.map Entry.id ∧ e = ⟨id, body⟩) := by
  induction entries with
  | nil => simp [overwrite]
  | cons head rest ih =>
    rw [List.map_cons, List.nodup_cons] at hdistinct
    by_cases hhead : head.id = id
    · subst hhead
      -- no entry of the rest has the identifier
      have hrest : ∀ a ∈ rest, a.id ≠ head.id := fun a ha heq =>
        hdistinct.1 (heq ▸ List.mem_map_of_mem ha)
      have hkept : e ∈ rest ↔ (e = head ∨ e ∈ rest) ∧ e.id ≠ head.id := by
        refine ⟨fun h => ⟨Or.inr h, hrest e h⟩, ?_⟩
        rintro ⟨rfl | h, hne⟩
        · exact absurd rfl hne
        · exact h
      simp only [overwrite, if_true, List.mem_cons, List.map_cons, true_or, true_and, ← hkept]
      exact or_comm
    · simp only [overwrite, hhead, if_false, List.mem_cons, List.map_cons, ih hdistinct.2,
        Ne.symm hhead, false_or]
      constructor
      · rintro (rfl | ⟨h, hne⟩ | h)
        · exact Or.inl ⟨Or.inl rfl, hhead⟩
        · exact Or.inl ⟨Or.inr h, hne⟩
        · exact Or.inr h
      · rintro (⟨rfl | h, hne⟩ | h)
        · exact Or.inl rfl
        · exact Or.inr (Or.inl ⟨h, hne⟩)
        · exact Or.inr (Or.inr h)

/-! ## Writes to a live entry -/

theorem replace_of_live {old : Entry} (hlive : lookup id (store.entries collection) = some old) :
    store.replace collection id.text body = some (store.change collection (overwrite id body)) := by
  simp [replace, hlive]

/-- A guarded write over a live entry is in conflict exactly if another entry matches the guard. -/
theorem replaceUnless_of_live {old : Entry}
    (hlive : lookup id (store.entries collection) = some old) (guard : Predicate)
    (collation : Collation) :
    store.replaceUnless collection id.text body guard collation
      = if ((store.entries collection).filter (·.id != id)).any (matching guard collation) then
          .conflict
        else .replaced (store.change collection (overwrite id body)) := by
  simp [replaceUnless, hlive, List.any_filter]

end Store

end Scim
