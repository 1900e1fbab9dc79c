import Mathlib.Data.List.Nodup
import Scim.Proofs.Directory.Effect

/-!
# The entries of a directory

Identifiers come from a supply that is outside of the directory.  Of the supply it is only ever
asked that the identifiers drawn so far differ (`Directory.IssuedApart`).  Then no two entries of a
collection share an identifier, and a success leaves three sorts of entries: those it has not
touched, the one it created, and the one it has written over (`Operation.Leaves`).  An invariant
that speaks of entries one by one needs no more than these three cases.
-/

namespace Scim

/-! ## What a success leaves -/

namespace Operation

/-- The kind of resources that an operation is about. -/
def kind : Operation → ResourceKind
  | create kind _ => kind
  | read kind _ => kind
  | replace kind _ _ _ => kind
  | patch kind _ _ _ => kind
  | delete kind _ => kind

/-- The document that a replacement or a patch writes over. -/
def revised? : Operation → Option (ResourceKind × Uuid)
  | replace kind text _ _ => (Uuid.ofText? text).map (kind, ·)
  | patch kind text _ _ => (Uuid.ofText? text).map (kind, ·)
  | _ => none

theorem Rewrites.kind_eq {op : Operation} {kind : ResourceKind} {text : String}
    {ifMatch : Option String} {old content : Members}
    (h : op.Rewrites kind text ifMatch old content) : op.kind = kind := by
  cases h <;> rfl

theorem Rewrites.revised?_eq {op : Operation} {kind : ResourceKind} {text : String}
    {ifMatch : Option String} {old content : Members} {id : Uuid}
    (h : op.Rewrites kind text ifMatch old content) (htext : Uuid.ofText? text = some id) :
    op.revised? = some (kind, id) := by
  cases h <;> simp [revised?, htext]

/-- The entries of a kind that an operation leaves behind when it succeeds. -/
inductive Leaves (setting : Setting) (store : Store) (op : Operation) (kind : ResourceKind) :
    Entry → Prop
  | kept {e : Entry} (mem : e ∈ store.entries kind.collection)
      (untouched : op.revised? ≠ some (kind, e.id)) : Leaves setting store op kind e
  | created {input : Json} (asked : op = .create kind input)
      (required : (kind.uniqueValue? (kind.sanitize input)).isSome)
      (unclaimed : kind.Unclaimed (kind.sanitize input) (store.entries kind.collection)) :
      Leaves setting store op kind ⟨setting.fresh, setting.stampNew (kind.sanitize input)⟩
  | rewritten {old : Entry} {text : String} {ifMatch : Option String} {content : Members}
      (mem : old ∈ store.entries kind.collection) (revised : op.revised? = some (kind, old.id))
      (rewrites : op.Rewrites kind text ifMatch old.body content)
      (unclaimed : kind.Unclaimed content
        ((store.entries kind.collection).filter fun e => e.id != old.id)) :
      Leaves setting store op kind ⟨old.id, setting.stampOver old.body content⟩

/-- Nothing else is left. -/
theorem Succeeds.leaves {setting : Setting} {store next : Store} {op : Operation}
    {answer : Option Resource} (h : op.Succeeds setting store answer next) {kind : ResourceKind}
    (hdistinct : ((store.entries kind.collection).map Entry.id).Nodup) {e : Entry}
    (he : e ∈ next.entries kind.collection) : op.Leaves setting store kind e := by
  cases h with
  | @created kind' input required unclaimed =>
    rw [Store.insert, ResourceKind.entries_change] at he
    split at he
    · next hkind =>
      subst hkind
      rcases List.mem_append.mp he with hmem | hnew
      · exact .kept hmem (by simp [revised?])
      · rw [List.mem_singleton.mp hnew]
        exact .created rfl required unclaimed
    · exact .kept he (by simp [revised?])
  | read => exact .kept he (by simp [revised?])
  | @rewritten _ kind' text ifMatch old content found permitted rewrites unclaimed =>
    obtain ⟨hold, htext⟩ := Store.mem_of_findById found
    have hrevised := rewrites.revised?_eq htext
    rw [ResourceKind.entries_change] at he
    split at he
    · next hkind =>
      subst hkind
      rcases (Store.mem_overwrite_iff hdistinct).mp he with ⟨hmem, hne⟩ | ⟨-, rfl⟩
      · refine .kept hmem ?_
        rw [hrevised]
        simpa using hne.symm
      · exact .rewritten hold hrevised rewrites unclaimed
    · next hkind =>
      refine .kept he ?_
      rw [hrevised]
      simp [Ne.symm hkind]
  | deleted found =>
    rw [ResourceKind.entries_change] at he
    split at he
    · exact .kept (List.mem_of_mem_filter he) (by simp [revised?])
    · exact .kept he (by simp [revised?])

/-- A success makes at most one new entry. -/
theorem Leaves.id_eq_of_new {setting : Setting} {store : Store} {op : Operation}
    {kind : ResourceKind} {a b : Entry} (ha : op.Leaves setting store kind a)
    (hb : op.Leaves setting store kind b) (hnewA : a ∉ store.entries kind.collection)
    (hnewB : b ∉ store.entries kind.collection) : a.id = b.id := by
  cases ha with
  | kept mem => exact absurd mem hnewA
  | created asked =>
    cases hb with
    | kept mem => exact absurd mem hnewB
    | created => rfl
    | rewritten _ revised =>
      rw [asked] at revised
      cases revised
  | rewritten _ revised =>
    cases hb with
    | kept mem => exact absurd mem hnewB
    | created asked =>
      rw [asked] at revised
      cases revised
    | rewritten _ revised' =>
      -- both are written over the entry that the operation addresses
      rw [revised] at revised'
      exact (Prod.mk.inj (Option.some.inj revised')).2

end Operation

/-! ## Identifiers -/

namespace Directory

/-- No identifier was drawn twice so far. -/
def IssuedApart (d : Directory) : Prop :=
  ∀ i j, i < j → j < d.issued → d.ids i ≠ d.ids j

/-- A single identifier has nothing to be apart from. -/
theorem issuedApart_of_le_one {d : Directory} (h : d.issued ≤ 1) : d.IssuedApart := by
  intro i j hij hj
  omega

/-- The identifier is one of those drawn so far. -/
def Issued (d : Directory) (id : Uuid) : Prop :=
  ∃ i < d.issued, d.ids i = id

/-- The entries have identifiers that were drawn, and no two of a collection the same one. -/
structure Keyed (d : Directory) : Prop where
  issued : ∀ kind : ResourceKind, ∀ e ∈ d.store.entries kind.collection, d.Issued e.id
  distinct : ∀ kind : ResourceKind, ((d.store.entries kind.collection).map Entry.id).Nodup

/-- The next identifier is not in use. -/
theorem IssuedApart.not_issued {d : Directory} {op : Operation} {next : Store}
    (h : (d.advanced op next).IssuedApart) (hcreates : op.creates = true) :
    ¬ d.Issued d.setting.fresh := by
  rintro ⟨i, hi, heq⟩
  refine h i d.issued hi ?_ heq
  simp [advanced, hcreates]

theorem issued_le_advanced (d : Directory) (op : Operation) (next : Store) :
    d.issued ≤ (d.advanced op next).issued := by
  unfold advanced
  dsimp only
  split <;> omega

theorem Issued.advanced {d : Directory} {id : Uuid} (h : d.Issued id) (op : Operation)
    (next : Store) : (d.advanced op next).Issued id := by
  obtain ⟨i, hi, heq⟩ := h
  exact ⟨i, Nat.lt_of_lt_of_le hi (d.issued_le_advanced op next), heq⟩

/-- A success keeps the identifiers apart as long as the supply does. -/
theorem Keyed.advanced {d : Directory} (h : d.Keyed) {op : Operation} {answer : Option Resource}
    {next : Store} (hsucceeds : op.Succeeds d.setting d.store answer next)
    (hapart : (d.advanced op next).IssuedApart) : (d.advanced op next).Keyed where
  issued := by
    intro kind e he
    cases hsucceeds.leaves (h.distinct kind) he with
    | kept mem => exact (h.issued kind e mem).advanced op next
    | created asked =>
      -- the identifier is the one that this creation draws
      refine ⟨d.issued, ?_, rfl⟩
      simp [Directory.advanced, asked, Operation.creates]
    | rewritten mem => exact (h.issued kind _ mem).advanced op next
  distinct := by
    intro kind
    show ((next.entries kind.collection).map Entry.id).Nodup
    have hdistinct := h.distinct kind
    cases hsucceeds with
    | created =>
      rw [Store.insert, ResourceKind.entries_change]
      split
      · rw [List.map_append, List.map_singleton]
        refine List.Nodup.append hdistinct (List.nodup_singleton _) ?_
        rw [List.disjoint_singleton]
        intro hmem
        obtain ⟨e, he, heq⟩ := List.mem_map.mp hmem
        have hissued := h.issued kind e he
        rw [heq] at hissued
        exact hapart.not_issued rfl hissued
      · exact hdistinct
    | read => exact hdistinct
    | rewritten =>
      rw [ResourceKind.entries_change]
      split
      · rwa [Store.map_id_overwrite]
      · exact hdistinct
    | deleted =>
      rw [ResourceKind.entries_change]
      split
      · exact hdistinct.sublist ((List.filter_sublist).map Entry.id)
      · exact hdistinct

end Directory

end Scim
