import Scim.Proofs.Json.Ascending
import Scim.Patch.Apply

/-!
# Operations on different attributes

An operation along a path changes what the first key of the path holds.  At the root every member of
the value is an operation of its own: a removal changes what its name holds, and a write what the
first key of its name holds, read as a path.  These are the keys that an operation touches
(`PatchOperation.touchedKeys`), and it is put together from changes under them
(`PatchOperation.confinedTo_apply`).  So two operations that touch no key in common can be applied
in either order (`PatchOperation.apply_comm`).
-/

namespace Scim

/-! ## The keys that an operation touches -/

namespace Segment

/-- The key at which a path starts. -/
def firstKey? (path : String) : Option String :=
  (ofPath path).head?.map key

/-- The key at which a name is written at the root: the first of its path, or the name itself if it
has no segments. -/
def firstKeyOf (name : String) : String :=
  (firstKey? name).getD name

end Segment

namespace Patch

/-- The keys that an operation without a path touches. -/
def touchedAtRoot (kind : PatchKind) (value : Option Json) : List String :=
  match value with
  | some (.obj fields) =>
    match kind with
    | .remove => fields.map Prod.fst
    | _ => fields.map fun field => Segment.firstKeyOf field.1
  | _ => []

end Patch

namespace PatchOperation

/-- The top-level keys that an operation touches. -/
def touchedKeys (op : PatchOperation) : List String :=
  match op.path with
  | none => Patch.touchedAtRoot op.kind op.value
  | some path =>
    if path.isEmpty then Patch.touchedAtRoot op.kind op.value
    else (Segment.firstKey? path).toList

end PatchOperation

/-! ## An operation changes nothing else -/

namespace Patch

open Members (ConfinedTo)

variable {kind : PatchKind} {value : Option Json}

/-- Along a path the first key alone is changed. -/
theorem confinedTo_along (kind : PatchKind) (value : Option Json) (parent : Option String)
    (segments : List Segment) :
    ConfinedTo (segments.head?.map Segment.key).toList (along kind value parent segments) := by
  match segments with
  | [] => exact .unchanged
  | [segment] => exact .alter (by simp) (arrive kind value parent segment)
  | segment :: next :: rest =>
    exact .alter (by simp)
      (pass kind segment.filter (along kind value (some segment.raw) (next :: rest)))

/-- A member that is written at the root changes what its own first key holds. -/
theorem confinedTo_writeMember (name : String) (field : Json) :
    ConfinedTo [Segment.firstKeyOf name] fun members => writeMember members name field := by
  unfold writeMember Segment.firstKeyOf Segment.firstKey?
  cases hsegments : Segment.ofPath name with
  | nil => exact .alter (by simp) fun _ => some field
  | cons first rest =>
    have halong := confinedTo_along .replace (some field) none (first :: rest)
    exact halong.mono (by simp)

theorem confinedTo_atRoot (kind : PatchKind) (value : Option Json) :
    ConfinedTo (touchedAtRoot kind value) (atRoot kind value) := by
  cases value with
  | none => exact .unchanged
  | some value =>
    cases value with
    | obj fields =>
      have hwrites := ConfinedTo.foldl (fun field : String × Json => Segment.firstKeyOf field.1)
        fields fun field _ => confinedTo_writeMember field.1 field.2
      cases kind with
      | remove =>
        refine ConfinedTo.foldl Prod.fst fields ?_
        intro field _
        exact .alter (by simp) fun _ => none
      | add => exact hwrites
      | replace => exact hwrites
    | _ => exact .unchanged

end Patch

namespace PatchOperation

open Members (ConfinedTo Ascending)

/-- An operation is put together from changes under the keys that it touches. -/
theorem confinedTo_apply (op : PatchOperation) : ConfinedTo op.touchedKeys op.apply := by
  obtain ⟨kind, path, value⟩ := op
  cases path with
  | none => exact Patch.confinedTo_atRoot kind value
  | some path =>
    by_cases hpath : path.isEmpty = true
    · have hkeys : touchedKeys ⟨kind, some path, value⟩ = Patch.touchedAtRoot kind value := by
        exact if_pos hpath
      have happly : apply ⟨kind, some path, value⟩ = Patch.atRoot kind value := by
        funext members
        exact if_pos hpath
      rw [hkeys, happly]
      exact Patch.confinedTo_atRoot kind value
    · have hkeys : touchedKeys ⟨kind, some path, value⟩ = (Segment.firstKey? path).toList := by
        exact if_neg hpath
      have happly : apply ⟨kind, some path, value⟩
          = Patch.along kind value none (Segment.ofPath path) := by
        funext members
        exact if_neg hpath
      rw [hkeys, happly]
      exact Patch.confinedTo_along kind value none (Segment.ofPath path)

/-- Documents stay in ascending order. -/
theorem ascending_apply (op : PatchOperation) {members : Members} (h : Ascending members) :
    Ascending (op.apply members) :=
  op.confinedTo_apply.ascending h

theorem ascending_applyAll (ops : List PatchOperation) {members : Members}
    (h : Ascending members) : Ascending (applyAll ops members) := by
  induction ops generalizing members with
  | nil => exact h
  | cons op ops ih => exact ih (op.ascending_apply h)

/-- Documents that hold the same under a key still do after the same operations. -/
theorem find?_applyAll_congr (ops : List PatchOperation) {key : String} {members more : Members}
    (hmembers : Ascending members) (hmore : Ascending more)
    (h : Members.find? key members = Members.find? key more) :
    Members.find? key (applyAll ops members) = Members.find? key (applyAll ops more) := by
  induction ops generalizing members more with
  | nil => exact h
  | cons op ops ih =>
    exact ih (op.ascending_apply hmembers) (op.ascending_apply hmore)
      (op.confinedTo_apply.find?_congr hmembers hmore h)

/-- Independence.  Two operations that touch no key in common have the same effect in either order,
on every document. -/
theorem apply_comm {a b : PatchOperation} (hapart : ∀ key ∈ a.touchedKeys, key ∉ b.touchedKeys)
    {members : Members} (hmembers : Ascending members) :
    a.apply (b.apply members) = b.apply (a.apply members) :=
  a.confinedTo_apply.comm b.confinedTo_apply hapart hmembers

/-- Adds a work address. -/
def addingWorkAddress : PatchOperation where
  kind := .add
  path := some "emails[type eq \"work\"].value"
  value := some (.str "ada@work")

/-- Replaces the title and the manager at the root. -/
def replacingPosition : PatchOperation where
  kind := .replace
  value := some (.obj [("title", .str "Countess"),
    ("urn:ietf:params:scim:schemas:extension:enterprise:2.0:User:manager", .str "babbage")])

/-- The address and the position of a user can be written in either order. -/
theorem apply_comm_workAddress :
    (∀ key ∈ addingWorkAddress.touchedKeys, key ∉ replacingPosition.touchedKeys) ∧
    Ascending [("emails", .arr [.obj [("type", .str "home")]]), ("title", .str "Lady")] ∧
    addingWorkAddress.apply (replacingPosition.apply
        [("emails", .arr [.obj [("type", .str "home")]]), ("title", .str "Lady")])
      = replacingPosition.apply (addingWorkAddress.apply
        [("emails", .arr [.obj [("type", .str "home")]]), ("title", .str "Lady")]) := by
  have haddress : addingWorkAddress.touchedKeys = ["emails"] := rfl
  have hposition : replacingPosition.touchedKeys = ["title", Schemas.enterpriseUser] := by
    decide +kernel
  have hapart : ∀ key ∈ addingWorkAddress.touchedKeys, key ∉ replacingPosition.touchedKeys := by
    rw [haddress, hposition]
    decide
  have hmembers : Ascending [("emails", .arr [.obj [("type", .str "home")]]),
      ("title", .str "Lady")] := by decide
  exact ⟨hapart, hmembers, apply_comm hapart hmembers⟩

end PatchOperation

end Scim
