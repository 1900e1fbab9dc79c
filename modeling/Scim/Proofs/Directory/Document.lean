import Scim.Proofs.Directory.Resource
import Scim.Proofs.Patch.Sorted
import Scim.Proofs.Primary

/-!
# Stored documents

Content is made in two ways before it is stamped: from the input of a client, and by a patch of a
stored document.  Both drop the identifier, make the schemas anew and settle the roles, in this
order and after everything that a client has a say in (`ResourceKind.Content`).  The stamp adds the
version and the times (`ResourceKind.Document`).

A resource is shaped from its document once more: roles are settled, schemas are made.  On a stored
document that changes nothing.  What is shown agrees with the document under every key but three,
`id`, `meta` and the key of the version, and under these it only depends on the identifier, the
version, the times and the base of locations.
-/

namespace Scim

open Members (Ascending Sorted SortedHeld)

/-- The times of a document as it stores them. -/
def storedTimes (created modified : String) : Json :=
  .ofPairs [("created", .str created), ("lastModified", .str modified)]

namespace ResourceKind

variable {kind : ResourceKind} {version : Nat} {created modified : String} {body content : Members}

/-! ## Schemas -/

/-- The lists of schemas that resources of a kind can have. -/
def schemaLists : ResourceKind → List (List String)
  | user => [[Schemas.user], [Schemas.user, Schemas.enterpriseUser]]
  | group => [[Schemas.group]]

theorem exists_schemasFor_eq (kind : ResourceKind) (source : Json) :
    ∃ names ∈ kind.schemaLists, kind.schemasFor source = .ofStrings names := by
  cases kind with
  | group => exact ⟨_, List.mem_cons_self, rfl⟩
  | user =>
    cases h : hasEnterprise source with
    | true => exact ⟨[Schemas.user, Schemas.enterpriseUser], by simp [schemaLists], by
        simp [schemasFor, h]⟩
    | false => exact ⟨[Schemas.user], by simp [schemaLists], by simp [schemasFor, h]⟩

theorem sorted_schemasFor (kind : ResourceKind) (source : Json) :
    (kind.schemasFor source).Sorted := by
  obtain ⟨names, -, heq⟩ := kind.exists_schemasFor_eq source
  rw [heq]
  exact Json.sorted_ofStrings names

/-- The schemas depend on two members. -/
theorem schemasFor_congr (kind : ResourceKind) {a b : Json}
    (hschemas : a.get? "schemas" = b.get? "schemas")
    (hcarried : a.get? Schemas.enterpriseUser = b.get? Schemas.enterpriseUser) :
    kind.schemasFor a = kind.schemasFor b := by
  have hsame : hasEnterprise a = hasEnterprise b := by
    simp only [hasEnterprise, hschemas, hcarried]
  cases kind with
  | user => simp only [schemasFor, hsame]
  | group => rfl

/-- Schemas that were made once are made again. -/
theorem schemasFor_of_made {source : Json}
    (hschemas : Members.find? "schemas" body = some (kind.schemasFor source))
    (hcarried : Members.find? Schemas.enterpriseUser body = source.get? Schemas.enterpriseUser) :
    kind.schemasFor (.obj body) = kind.schemasFor source := by
  cases kind with
  | group => rfl
  | user =>
    have hget (key : String) : (Json.obj body).get? key = Members.find? key body := rfl
    have hsame : hasEnterprise (.obj body) = hasEnterprise source := by
      cases hsource : hasEnterprise source with
      | true =>
        -- the extension is among the schemas that were made
        have hlisted : Members.find? "schemas" body
            = some (.ofStrings [Schemas.user, Schemas.enterpriseUser]) := by
          rw [hschemas, schemasFor, hsource, if_pos rfl]
        simp [hasEnterprise, hget, hlisted, Json.ofStrings, Json.items?, Json.string?]
      | false =>
        -- it is not, and the source does not carry its attributes either
        have hlisted : Members.find? "schemas" body = some (.ofStrings [Schemas.user]) := by
          rw [hschemas, schemasFor, hsource, if_neg Bool.false_ne_true]
        have habsent : ((source.get? Schemas.enterpriseUser).map Json.isTruthy).getD false
            = false := (Bool.or_eq_false_iff.mp hsource).2
        have hother : Schemas.user ≠ Schemas.enterpriseUser := by decide
        simp [hasEnterprise, hget, hlisted, hcarried, habsent, Json.ofStrings, Json.items?,
          Json.string?, hother]
    simp only [schemasFor, hsame]

/-! ## Roles -/

/-- What a document of the kind holds as roles, with their flags settled if the kind has any. -/
def settledRoles : ResourceKind → Option Json → Option Json
  | user => Primary.settledItems
  | group => fun held => held

theorem normalize_eq_alter (kind : ResourceKind) (body : Members) :
    kind.normalize body = Members.alter "roles" kind.settledRoles body := by
  cases kind with
  | user => rfl
  | group => exact (Members.alter_id "roles" body).symm

theorem sortedHeld_settledRoles {held : Option Json} (h : SortedHeld held) :
    SortedHeld (kind.settledRoles held) := by
  cases kind with
  | user => exact Primary.sortedHeld_settledItems h
  | group => exact h

theorem settledRoles_settledRoles {held : Option Json} (h : SortedHeld held) :
    kind.settledRoles (kind.settledRoles held) = kind.settledRoles held := by
  cases kind with
  | user => exact Primary.settledItems_settledItems h
  | group => rfl

theorem sorted_normalize (h : Sorted body) : Sorted (kind.normalize body) := by
  rw [normalize_eq_alter]
  exact h.alter "roles" (sortedHeld_settledRoles (h.find? "roles"))

theorem find?_normalize_of_ne (h : Ascending body) {key : String} (hne : key ≠ "roles") :
    Members.find? key (kind.normalize body) = Members.find? key body := by
  rw [normalize_eq_alter, h.find?_alter_of_ne hne]

/-! ## Content -/

/-- What the directory makes sure of in content: it is in order at any depth and has no identifier,
its schemas are those made for it, and its roles are settled. -/
structure Content (kind : ResourceKind) (content : Members) : Prop where
  sorted : Sorted content
  id : Members.find? "id" content = none
  schemas : Members.find? "schemas" content = some (kind.schemasFor (.obj content))
  roles : kind.settledRoles (Members.find? "roles" content) = Members.find? "roles" content

/-- Content comes about when schemas are made for a source and roles are settled. -/
theorem content_normalize {source : Json} (hbody : Sorted body)
    (hid : Members.find? "id" body = none)
    (hcarried : Members.find? Schemas.enterpriseUser body
      = source.get? Schemas.enterpriseUser) :
    kind.Content (kind.normalize (Members.insert "schemas" (kind.schemasFor source) body)) := by
  have hinserted := hbody.insert "schemas" (kind.sorted_schemasFor source)
  have hschemas : Members.find? "schemas" (kind.normalize (Members.insert "schemas"
      (kind.schemasFor source) body)) = some (kind.schemasFor source) := by
    rw [find?_normalize_of_ne hinserted.ascending (by decide), Members.find?_insert_self]
  refine ⟨sorted_normalize hinserted, ?_, ?_, ?_⟩
  · rw [find?_normalize_of_ne hinserted.ascending (by decide),
      Members.find?_insert_of_ne (by decide), hid]
  · rw [hschemas, schemasFor_of_made hschemas]
    rw [find?_normalize_of_ne hinserted.ascending (by decide),
      Members.find?_insert_of_ne (by decide), hcarried]
  · rw [normalize_eq_alter, hinserted.ascending.find?_alter_self,
      settledRoles_settledRoles (hinserted.find? "roles")]

/-- The input of a client becomes content, whatever it was. -/
theorem content_sanitize {input : Json} (h : input.Sorted) :
    kind.Content (kind.sanitize input) := by
  have hmembers : Sorted (input.members?.getD []) := by
    cases input with
    | obj members => exact Json.sorted_obj_iff.mp h
    | null | bool | num | str | arr => exact Members.sorted_nil
  refine content_normalize (hmembers.foldl fun key _ _ hbefore => hbefore.erase key) ?_ ?_
  · rw [hmembers.ascending.find?_foldl_erase, if_pos (by decide)]
  · rw [hmembers.ascending.find?_foldl_erase, if_neg (by decide)]
    cases input <;> rfl

/-- A patched document becomes content, whatever the patch did. -/
theorem content_patched {ops : List PatchOperation} (hops : ∀ op ∈ ops, SortedHeld op.value)
    (h : Sorted body) : kind.Content (kind.patched ops body) := by
  have hpatched := PatchOperation.sorted_applyAll hops h
  refine content_normalize (hpatched.erase "id") ?_ rfl
  exact hpatched.ascending.find?_erase_self "id"

/-! ## Documents -/

/-- What the directory makes sure of in a stored document of a version and of two times. -/
structure Document (kind : ResourceKind) (version : Nat) (created modified : String)
    (body : Members) : Prop extends Content kind body where
  version : Members.find? versionKey body = some (.ofNat version)
  times : Members.find? "meta" body = some (storedTimes created modified)

/-- A stamp makes content a document. -/
theorem document_stamp (h : kind.Content content) (version : Nat) (created modified : String) :
    kind.Document version created modified (stamp version created modified content) := by
  have hfind {key : String} (hmeta : key ≠ "meta") (hversion : key ≠ versionKey) :=
    find?_stamp_of_ne version created modified content hmeta hversion
  have hnumber : (Json.ofNat version).Sorted := trivial
  have htimes : (storedTimes created modified).Sorted :=
    Json.sorted_ofPairs (by simp [Json.Sorted])
  refine { sorted := ?_, id := ?_, schemas := ?_, roles := ?_, version := ?_, times := ?_ }
  · exact (h.sorted.insert versionKey hnumber).insert "meta" htimes
  · rw [hfind (by decide) (by decide), h.id]
  · rw [hfind (by decide) (by decide), h.schemas]
    exact congrArg some (kind.schemasFor_congr (hfind (by decide) (by decide)).symm
      (hfind (by decide) (by decide)).symm)
  · rw [hfind (by decide) (by decide), h.roles]
  · rw [stamp, Members.find?_insert_of_ne (by decide), Members.find?_insert_self]
  · rw [stamp, Members.find?_insert_self]
    rfl

namespace Document

variable (h : kind.Document version created modified body)
include h

theorem versionOf_eq (hle : version ≤ maxWord64) : versionOf body = version := by
  have hword : (version : Int) ≤ maxWord64 := by exact_mod_cast hle
  have hread : (Json.ofNat version).natural? = some version := by
    simp [Json.ofNat, Json.natural?, Number.toNatural?, hword]
  rw [versionOf, h.version, Option.bind_some, hread, Option.getD_some]

theorem metaText?_created : metaText? "created" body = some created := by
  rw [metaText?, h.times]
  rfl

theorem metaText?_lastModified : metaText? "lastModified" body = some modified := by
  rw [metaText?, h.times]
  rfl

end Document

/-! ## Shown documents -/

/-- The metadata that a resource shows. -/
def shownInfo (kind : ResourceKind) (baseUrl id : String) (version : Nat)
    (created modified : String) : Json :=
  .ofPairs [("resourceType", .str kind.typeName), ("created", .str created),
    ("lastModified", .str modified), ("version", .str (Etag.weak version)),
    ("location", .str (kind.location baseUrl id))]

/-- The members that a resource shows of its document. -/
def shownMembers (kind : ResourceKind) (baseUrl : String) (id : Uuid) (version : Nat)
    (created modified : String) (body : Members) : Members :=
  let kept := kind.normalize (Members.erase versionKey body)
  Members.insert "meta" (kind.shownInfo baseUrl id.text version created modified)
    (Members.insert "schemas" (kind.schemasFor (.obj kept))
      (Members.insert "id" (.str id.text) kept))

namespace Document

variable (h : kind.Document version created modified body)
include h

/-- A resource is shaped from the identifier, the version and the times of its document, and from
no clock. -/
theorem present_eq (hle : version ≤ maxWord64) (baseUrl now : String) (id : Uuid) :
    kind.present baseUrl now ⟨id, body⟩ = {
      id := id.text
      location := kind.location baseUrl id.text
      etag := Etag.weak version
      content := .obj (kind.shownMembers baseUrl id version created modified body) } := by
  have hascending := h.sorted.ascending
  have herased := hascending.erase versionKey
  have hmeta : Members.find? "meta" (kind.normalize (Members.erase versionKey body))
      = Members.find? "meta" body := by
    rw [find?_normalize_of_ne herased (by decide), hascending.find?_erase_of_ne (by decide)]
  have htime (name : String) : metaText? name (kind.normalize (Members.erase versionKey body))
      = metaText? name body := by
    rw [metaText?, hmeta, metaText?]
  simp only [present, htime, h.metaText?_created, h.metaText?_lastModified, h.versionOf_eq hle,
    Option.getD_some, shownMembers, shownInfo]

/-- Apart from the directory's own members, a resource shows what is stored. -/
theorem find?_shownMembers_of_not_mem (baseUrl : String) (id : Uuid) {key : String}
    (hkey : key ∉ ["id", "meta", versionKey]) :
    Members.find? key (kind.shownMembers baseUrl id version created modified body)
      = Members.find? key body := by
  obtain ⟨hid, hmeta, hversion⟩ : key ≠ "id" ∧ key ≠ "meta" ∧ key ≠ versionKey := by
    simpa using hkey
  have hascending := h.sorted.ascending
  have herased := hascending.erase versionKey
  have hkept {key : String} (hversion : key ≠ versionKey) :
      Members.find? key (kind.normalize (Members.erase versionKey body))
        = Members.find? key body := by
    by_cases hroles : key = "roles"
    · rw [hroles, normalize_eq_alter, herased.find?_alter_self,
        hascending.find?_erase_of_ne (by decide), h.roles]
    · rw [find?_normalize_of_ne herased hroles, hascending.find?_erase_of_ne hversion]
  rw [shownMembers, Members.find?_insert_of_ne hmeta]
  by_cases hschemas : key = "schemas"
  · rw [hschemas, Members.find?_insert_self, h.schemas]
    exact congrArg some (kind.schemasFor_congr (hkept (by decide)) (hkept (by decide)))
  · rw [Members.find?_insert_of_ne hschemas, Members.find?_insert_of_ne hid, hkept hversion]

theorem find?_versionKey_shownMembers (baseUrl : String) (id : Uuid) :
    Members.find? versionKey (kind.shownMembers baseUrl id version created modified body)
      = none := by
  have hascending := h.sorted.ascending
  have herased := hascending.erase versionKey
  rw [shownMembers, Members.find?_insert_of_ne (by decide), Members.find?_insert_of_ne (by decide),
    Members.find?_insert_of_ne (by decide), find?_normalize_of_ne herased (by decide),
    hascending.find?_erase_self]

end Document

theorem find?_id_shownMembers (baseUrl : String) (id : Uuid) :
    Members.find? "id" (kind.shownMembers baseUrl id version created modified body)
      = some (.str id.text) := by
  rw [shownMembers, Members.find?_insert_of_ne (by decide), Members.find?_insert_of_ne (by decide),
    Members.find?_insert_self]

theorem find?_meta_shownMembers (baseUrl : String) (id : Uuid) :
    Members.find? "meta" (kind.shownMembers baseUrl id version created modified body)
      = some (kind.shownInfo baseUrl id.text version created modified) := by
  rw [shownMembers, Members.find?_insert_self]

end ResourceKind

end Scim
