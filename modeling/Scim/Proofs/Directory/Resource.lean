import Scim.Directory.Operation
import Scim.Proofs.Json.Members

/-!
# Stamped documents and shown resources

A stamp decides the version of a document and leaves its attributes alone.  A resource shows the
identifier of its entry and the weak tag of the version, once in its own fields and once within its
content.
-/

namespace Scim

/-! ## Stamps -/

section Stamp

variable (version : Nat) (created modified : String) (body : Members)

/-- A stamp is invisible under every key but its own two. -/
theorem find?_stamp_of_ne {key : String} (hmeta : key ≠ "meta") (hversion : key ≠ versionKey) :
    Members.find? key (stamp version created modified body) = Members.find? key body := by
  rw [stamp, Members.find?_insert_of_ne hmeta, Members.find?_insert_of_ne hversion]

@[simp] theorem uniqueValue?_stamp (kind : ResourceKind) :
    kind.uniqueValue? (stamp version created modified body) = kind.uniqueValue? body := by
  have hmeta : kind.uniqueAttribute ≠ "meta" := by cases kind <;> decide
  have hversion : kind.uniqueAttribute ≠ versionKey := by cases kind <;> decide
  rw [ResourceKind.uniqueValue?, find?_stamp_of_ne _ _ _ _ hmeta hversion]
  rfl

/-- A stamped document has the version of the stamp. -/
theorem versionOf_stamp {version : Nat} (h : version ≤ maxWord64) :
    versionOf (stamp version created modified body) = version := by
  have hfind : Members.find? versionKey (stamp version created modified body)
      = some (.ofNat version) := by
    rw [stamp, Members.find?_insert_of_ne (by decide), Members.find?_insert_self]
  have hread : (Json.ofNat version).natural? = some version := by
    have hle : (version : Int) ≤ maxWord64 := by exact_mod_cast h
    simp [Json.ofNat, Json.natural?, Number.toNatural?, hle]
  simp [versionOf, hfind, hread]

theorem nextVersion_le (version : Nat) : nextVersion version ≤ maxWord64 := by
  have := Nat.mod_lt (version + 1) (Nat.succ_pos maxWord64)
  exact Nat.le_of_lt_succ this

end Stamp

/-! ## Resources -/

/-- The identifier and the entity tag that the content of a resource shows. -/
def Json.ShowsTag (id tag : String) (content : Json) : Prop :=
  content.get? "id" = some (.str id)
    ∧ (content.get? "meta").bind (Json.get? "version") = some (.str tag)

/-- A resource shows an identifier with an entity tag, in its fields or in its content. -/
def Resource.ShowsTag (id tag : String) (resource : Resource) : Prop :=
  (resource.id = id ∧ resource.etag = tag) ∨ resource.content.ShowsTag id tag

namespace ResourceKind

variable (kind : ResourceKind) (baseUrl now : String) (entry : Entry)

/-- The content of a resource shows what its fields show, and nothing else. -/
theorem showsTag_content_present_iff {id tag : String} :
    (kind.present baseUrl now entry).content.ShowsTag id tag
      ↔ entry.id.text = id ∧ Etag.weak (versionOf entry.body) = tag := by
  have hid : (kind.present baseUrl now entry).content.get? "id" = some (.str entry.id.text) := by
    simp only [present, Json.get?]
    -- the metadata and the schemas are inserted behind the identifier
    rw [Members.find?_insert_of_ne (by decide), Members.find?_insert_of_ne (by decide),
      Members.find?_insert_self]
  have hversion : ((kind.present baseUrl now entry).content.get? "meta").bind (Json.get? "version")
      = some (.str (Etag.weak (versionOf entry.body))) := by
    simp only [present, Json.get?, Members.find?_insert_self, Option.bind_some, Json.ofPairs,
      Members.ofList, List.foldl_cons, List.foldl_nil]
    rw [Members.find?_insert_of_ne (by decide), Members.find?_insert_self]
  simp [Json.ShowsTag, hid, hversion]

/-- A resource shows its identifier with the weak tag of its version, and nothing else. -/
theorem showsTag_present_iff {id tag : String} :
    (kind.present baseUrl now entry).ShowsTag id tag
      ↔ entry.id.text = id ∧ Etag.weak (versionOf entry.body) = tag := by
  rw [Resource.ShowsTag, showsTag_content_present_iff]
  exact or_self_iff

end ResourceKind

end Scim
