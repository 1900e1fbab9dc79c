import Scim.Proofs.Json.Members

/-!
# Members in ascending order

The members of a document stand in ascending order of their keys, each key once, and every change
keeps it so.  In ascending order members are determined by what their keys hold
(`Members.Ascending.ext`), and a look-up sees a change under its own key alone, even one that
removes a member (`Members.Ascending.find?_alter`).  Hence changes under different keys commute
(`Members.Ascending.alter_comm`), and so do changes that are put together from such ones
(`Members.ConfinedTo.comm`).
-/

namespace Scim.Members

/-- The keys stand in ascending order, each once. -/
def Ascending (members : Members) : Prop :=
  (members.map Prod.fst).Pairwise (· < ·)

instance (members : Members) : Decidable (Ascending members) :=
  inferInstanceAs (Decidable ((members.map Prod.fst).Pairwise (· < ·)))

variable {key other : String} {value : Json} {f g : Option Json → Option Json}
  {members more : Members}

theorem ascending_nil : Ascending [] :=
  List.Pairwise.nil

theorem ascending_cons_iff :
    Ascending ((key, value) :: members)
      ↔ (∀ k ∈ members.map Prod.fst, key < k) ∧ Ascending members := by
  rw [Ascending, List.map_cons, List.pairwise_cons, Ascending]

/-! ## Looking up -/

/-- Below the first key nothing is found. -/
theorem find?_of_lt (h : ∀ k ∈ members.map Prod.fst, key < k) : find? key members = none := by
  cases members with
  | nil => rfl
  | cons head rest =>
    have hlt : key < head.1 := h head.1 (by simp)
    simp only [find?, hlt.ne', if_false, hlt, if_true]

/-- Members in ascending order are determined by what their keys hold. -/
theorem Ascending.ext (hmembers : Ascending members) (hmore : Ascending more)
    (h : ∀ k, find? k members = find? k more) : members = more := by
  induction members generalizing more with
  | nil =>
    cases more with
    | nil => rfl
    | cons head rest =>
      -- the first key of the other side would be found there only
      have hfirst := h head.1
      simp [find?] at hfirst
  | cons head rest ih =>
    cases more with
    | nil =>
      have hfirst := h head.1
      simp [find?] at hfirst
    | cons head' rest' =>
      obtain ⟨k, v⟩ := head
      obtain ⟨k', v'⟩ := head'
      obtain ⟨hbelow, hrest⟩ := ascending_cons_iff.mp hmembers
      obtain ⟨hbelow', hrest'⟩ := ascending_cons_iff.mp hmore
      have hk : k = k' := by
        -- the smaller of the two keys would be found on one side only
        rcases lt_trichotomy k k' with hlt | heq | hlt
        · have hleft := h k
          simp [find?, hlt.ne', hlt] at hleft
        · exact heq
        · have hright := h k'
          simp [find?, hlt.ne', hlt] at hright
      subst hk
      have hv : v = v' := by
        have hheld := h k
        simp only [find?, if_true] at hheld
        exact Option.some.inj hheld
      subst hv
      have htail : rest = rest' := by
        refine ih hrest hrest' ?_
        intro l
        by_cases hl : k = l
        · subst hl
          rw [find?_of_lt hbelow, find?_of_lt hbelow']
        · by_cases hlt : l < k
          · rw [find?_of_lt fun m hm => lt_trans hlt (hbelow m hm),
              find?_of_lt fun m hm => lt_trans hlt (hbelow' m hm)]
          · have hheld := h l
            simp only [find?, hl, hlt, if_false] at hheld
            exact hheld
      rw [htail]

/-! ## One change -/

/-- A change brings in no key but its own. -/
theorem mem_keys_alter (h : other ∈ (alter key f members).map Prod.fst) :
    other = key ∨ other ∈ members.map Prod.fst := by
  induction members with
  | nil =>
    simp only [alter] at h
    split at h
    · exact Or.inl (by simpa using h)
    · exact absurd h (by simp)
  | cons head rest ih =>
    obtain ⟨k, v⟩ := head
    rw [List.map_cons, List.mem_cons]
    simp only [alter] at h
    split at h
    · split at h
      · exact Or.inr (by simpa using h)
      · exact Or.inr (Or.inr h)
    · split at h
      · split at h
        · simpa using h
        · exact Or.inr (by simpa using h)
      · rcases List.mem_cons.mp h with hhead | htail
        · exact Or.inr (Or.inl hhead)
        · rcases ih htail with heq | hmem
          · exact Or.inl heq
          · exact Or.inr (Or.inr hmem)

/-- A change keeps the order. -/
theorem Ascending.alter (h : Ascending members) (key : String) (f : Option Json → Option Json) :
    Ascending (alter key f members) := by
  induction members with
  | nil =>
    simp only [Members.alter]
    split
    · exact ascending_cons_iff.mpr ⟨by simp, ascending_nil⟩
    · exact ascending_nil
  | cons head rest ih =>
    obtain ⟨k, v⟩ := head
    obtain ⟨hbelow, hrest⟩ := ascending_cons_iff.mp h
    simp only [Members.alter]
    split
    · split
      · exact ascending_cons_iff.mpr ⟨hbelow, hrest⟩
      · exact hrest
    · next hk =>
      split
      · next hlt =>
        split
        · refine ascending_cons_iff.mpr ⟨?_, h⟩
          intro l hl
          rcases List.mem_cons.mp hl with rfl | hl
          · exact hlt
          · exact lt_trans hlt (hbelow l hl)
        · exact h
      · next hlt =>
        refine ascending_cons_iff.mpr ⟨?_, ih hrest⟩
        intro l hl
        rcases mem_keys_alter hl with rfl | hl
        · exact lt_of_le_of_ne (not_lt.mp hlt) hk
        · exact hbelow l hl

/-- A look-up sees a change under its own key, also one that removes the member. -/
theorem Ascending.find?_alter_self (h : Ascending members) (key : String)
    (f : Option Json → Option Json) :
    find? key (Members.alter key f members) = f (find? key members) := by
  induction members with
  | nil => cases hf : f none <;> simp [Members.alter, find?, hf]
  | cons head rest ih =>
    obtain ⟨k, v⟩ := head
    obtain ⟨hbelow, hrest⟩ := ascending_cons_iff.mp h
    by_cases hk : k = key
    · subst hk
      -- the key does not occur a second time
      have hgone : find? k rest = none := find?_of_lt hbelow
      cases hf : f (some v) <;> simp [Members.alter, find?, hf, hgone]
    · by_cases hlt : key < k
      · cases hf : f none <;> simp [Members.alter, find?, hf, hk, hlt]
      · simp only [Members.alter, find?, hk, hlt, if_false]
        exact ih hrest

/-- No other look-up does. -/
theorem Ascending.find?_alter_of_ne (h : Ascending members) (hne : other ≠ key)
    (f : Option Json → Option Json) :
    find? other (Members.alter key f members) = find? other members := by
  induction members with
  | nil => cases hf : f none <;> simp [Members.alter, find?, hf, hne.symm]
  | cons head rest ih =>
    obtain ⟨k, v⟩ := head
    obtain ⟨hbelow, hrest⟩ := ascending_cons_iff.mp h
    by_cases hk : k = key
    · subst hk
      cases hf : f (some v) with
      | some w => simp [Members.alter, find?, hf, hne.symm]
      | none =>
        -- without the first member the search stops at the next key, which is greater
        have hlow : other < k → find? other rest = none := fun hlt =>
          find?_of_lt fun l hl => lt_trans hlt (hbelow l hl)
        by_cases hlt : other < k
        · simp [Members.alter, find?, hf, hne.symm, hlt, hlow hlt]
        · simp [Members.alter, find?, hf, hne.symm, hlt]
    · by_cases hlt : key < k
      · cases hf : f none with
        | none => simp [Members.alter, hf, hk, hlt]
        | some w =>
          by_cases hlow : other < key
          · have hlowk : other < k := lt_trans hlow hlt
            simp [Members.alter, find?, hf, hk, hlt, hne.symm, hlow, hlowk, hlowk.ne']
          · simp [Members.alter, find?, hf, hk, hlt, hne.symm, hlow]
      · simp only [Members.alter, find?, hk, hlt, if_false, ih hrest]

/-- A look-up sees a change under its own key, and no other. -/
theorem Ascending.find?_alter (h : Ascending members) (key : String)
    (f : Option Json → Option Json) (other : String) :
    find? other (Members.alter key f members)
      = if other = key then f (find? key members) else find? other members := by
  split
  · next heq => rw [heq, h.find?_alter_self]
  · next hne => exact h.find?_alter_of_ne hne f

/-- No key but one tells the members apart. -/
def AgreeApartFrom (key : String) (members members' : Members) : Prop :=
  ∀ other, other ≠ key → find? other members' = find? other members

theorem Ascending.agreeApartFrom_alter (h : Ascending members) (key : String)
    (f : Option Json → Option Json) : AgreeApartFrom key members (Members.alter key f members) :=
  fun _ hne => h.find?_alter_of_ne hne f

theorem Ascending.erase (h : Ascending members) (key : String) :
    Ascending (erase key members) :=
  h.alter key _

theorem Ascending.find?_erase_self (h : Ascending members) (key : String) :
    find? key (Members.erase key members) = none :=
  h.find?_alter_self key _

theorem Ascending.find?_erase_of_ne (h : Ascending members) (hne : other ≠ key) :
    find? other (Members.erase key members) = find? other members :=
  h.find?_alter_of_ne hne _

/-- Several removals are felt under their keys. -/
theorem Ascending.find?_foldl_erase (h : Ascending members) (keys : List String) (key : String) :
    find? key (keys.foldl (fun ms k => Members.erase k ms) members)
      = if key ∈ keys then none else find? key members := by
  induction keys generalizing members with
  | nil => simp
  | cons first keys ih =>
    rw [List.foldl_cons, ih (h.erase first)]
    by_cases hfirst : key = first
    · simp [hfirst, h.find?_erase_self]
    · simp [hfirst, h.find?_erase_of_ne hfirst]

/-- Changes under two keys commute. -/
theorem Ascending.alter_comm (h : Ascending members) (hne : key ≠ other)
    (f g : Option Json → Option Json) :
    Members.alter key f (Members.alter other g members)
      = Members.alter other g (Members.alter key f members) := by
  refine Ascending.ext ((h.alter other g).alter key f) ((h.alter key f).alter other g) ?_
  intro k
  rw [(h.alter other g).find?_alter, (h.alter key f).find?_alter, h.find?_alter, h.find?_alter,
    h.find?_alter, h.find?_alter, if_neg hne, if_neg hne.symm]
  by_cases hk : k = key
  · rw [if_pos hk, if_pos hk, if_neg fun heq => hne (hk.symm.trans heq)]
  · rw [if_neg hk, if_neg hk]

/-! ## Changes of some keys -/

/-- A change that is put together from changes under some keys. -/
inductive ConfinedTo (keys : List String) : (Members → Members) → Prop
  | unchanged : ConfinedTo keys fun members => members
  | alter {key : String} (mem : key ∈ keys) (f : Option Json → Option Json) :
      ConfinedTo keys (Members.alter key f)
  | andThen {first second : Members → Members} (before : ConfinedTo keys first)
      (after : ConfinedTo keys second) : ConfinedTo keys fun members => second (first members)

namespace ConfinedTo

variable {keys others : List String} {change change' : Members → Members}

/-- Such a change keeps the order. -/
theorem ascending (h : ConfinedTo keys change) (hmembers : Ascending members) :
    Ascending (change members) := by
  induction h generalizing members with
  | unchanged => exact hmembers
  | alter mem f => exact hmembers.alter _ f
  | andThen before after ihBefore ihAfter => exact ihAfter (ihBefore hmembers)

/-- The keys may be more than are needed. -/
theorem mono (h : ConfinedTo keys change) (hsub : ∀ k ∈ keys, k ∈ others) :
    ConfinedTo others change := by
  induction h with
  | unchanged => exact .unchanged
  | alter mem f => exact .alter (hsub _ mem) f
  | andThen before after ihBefore ihAfter => exact .andThen ihBefore ihAfter

/-- A loop of such changes. -/
theorem foldl {α : Type} {step : Members → α → Members} (keyOf : α → String) (items : List α)
    (hstep : ∀ a ∈ items, ConfinedTo [keyOf a] fun members => step members a) :
    ConfinedTo (items.map keyOf) fun members => items.foldl step members := by
  induction items with
  | nil => exact .unchanged
  | cons a items ih =>
    have hfirst : ConfinedTo ((a :: items).map keyOf) fun members => step members a :=
      (hstep a List.mem_cons_self).mono (by simp)
    have hrest : ConfinedTo ((a :: items).map keyOf) fun members => items.foldl step members := by
      have htail := ih fun b hb => hstep b (List.mem_cons_of_mem a hb)
      exact htail.mono fun k hk => List.mem_cons_of_mem (keyOf a) hk
    exact .andThen hfirst hrest

/-- Members that hold the same under a key still do after the same change. -/
theorem find?_congr (h : ConfinedTo keys change) (hmembers : Ascending members)
    (hmore : Ascending more) (hsame : find? key members = find? key more) :
    find? key (change members) = find? key (change more) := by
  induction h generalizing members more with
  | unchanged => exact hsame
  | @alter other mem f =>
    rw [hmembers.find?_alter, hmore.find?_alter]
    by_cases hkey : key = other
    · rw [if_pos hkey, if_pos hkey, ← hkey, hsame]
    · rw [if_neg hkey, if_neg hkey, hsame]
  | andThen before after ihBefore ihAfter =>
    exact ihAfter (before.ascending hmembers) (before.ascending hmore)
      (ihBefore hmembers hmore hsame)

/-- A change under one key commutes with a change of others. -/
theorem alter_comm (h : ConfinedTo others change) (hkey : key ∉ others)
    (hmembers : Ascending members) (f : Option Json → Option Json) :
    Members.alter key f (change members) = change (Members.alter key f members) := by
  induction h generalizing members with
  | unchanged => rfl
  | @alter other mem g =>
    have hne : key ≠ other := fun heq => hkey (heq ▸ mem)
    exact hmembers.alter_comm hne f g
  | @andThen first second before after ihBefore ihAfter =>
    calc Members.alter key f (second (first members))
        = second (Members.alter key f (first members)) := ihAfter (before.ascending hmembers)
      _ = second (first (Members.alter key f members)) := by rw [ihBefore hmembers]

/-- Changes of different keys commute. -/
theorem comm (h : ConfinedTo keys change) (h' : ConfinedTo others change')
    (hapart : ∀ k ∈ keys, k ∉ others) (hmembers : Ascending members) :
    change (change' members) = change' (change members) := by
  induction h generalizing members with
  | unchanged => rfl
  | alter mem f => exact h'.alter_comm (hapart _ mem) hmembers f
  | @andThen first second before after ihBefore ihAfter =>
    calc second (first (change' members))
        = second (change' (first members)) := by rw [ihBefore hmembers]
      _ = change' (second (first members)) := ihAfter (before.ascending hmembers)

end ConfinedTo

end Scim.Members
