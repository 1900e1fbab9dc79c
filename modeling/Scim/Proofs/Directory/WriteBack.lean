import Scim.Proofs.Directory.Frame
import Scim.Proofs.Directory.Stored

/-!
# Reading and writing back

A client that reads a resource and writes what it read leaves the resource alone.  Two reshapings
stand between the stored document and the one that is stored then: the resource is shaped from the
document, with an identifier, metadata and schemas of its own, and what is written loses them and
gets new ones.  On documents the second undoes the first up to the stamp
(`ResourceKind.Document.stamp_sanitize`), so the write puts a new stamp on the old content, and what
is shown of it differs from what was read in the entity tag and the time of the last write alone
(`Directory.write_back_revises`).
-/

namespace Scim

/-! ## Revised resources -/

/-- Metadata with another entity tag and another time of the last write. -/
def Json.revisedInfo (etag modified : String) (info : Json) : Json :=
  Json.setMember "lastModified" (.str modified) (Json.setMember "version" (.str etag) info)

/-- A resource with another entity tag and another time of the last write. -/
def Resource.revised (etag modified : String) (resource : Resource) : Resource :=
  { resource with
    etag
    content := resource.content.alterMember "meta" (Option.map (Json.revisedInfo etag modified)) }

namespace ResourceKind

variable {kind : ResourceKind} {version version' : Nat}
  {created modified modified' baseUrl : String} {id : Uuid} {body : Members}

/-- The metadata of a document that was written once more. -/
theorem revisedInfo_shownInfo (kind : ResourceKind) (baseUrl id : String) (version version' : Nat)
    (created modified modified' : String) :
    (kind.shownInfo baseUrl id version created modified).revisedInfo (Etag.weak version') modified'
      = kind.shownInfo baseUrl id version' created modified' := by
  rfl

/-! ## From a resource to a document -/

/-- Of the members that a client sends, the directory drops its own, makes the schemas anew and
settles the roles. -/
theorem find?_sanitize_obj {members : Members} (h : Members.Ascending members) (key : String) :
    Members.find? key (kind.sanitize (.obj members))
      = if key = "roles" then kind.settledRoles (Members.find? key members)
        else if key = "schemas" then some (kind.schemasFor (.obj members))
        else if key ∈ ["id", "meta", versionKey] then none
        else Members.find? key members := by
  have hsanitize : kind.sanitize (.obj members) = Members.alter "roles" kind.settledRoles
      (Members.insert "schemas" (kind.schemasFor (.obj members))
        (["id", "meta", "schemas", versionKey].foldl (fun ms k => Members.erase k ms) members)) :=
    kind.normalize_eq_alter _
  have hmade : Members.Ascending (Members.insert "schemas" (kind.schemasFor (.obj members))
      (["id", "meta", "schemas", versionKey].foldl (fun ms k => Members.erase k ms) members)) :=
    ((((h.erase "id").erase "meta").erase "schemas").erase versionKey).alter "schemas" _
  rw [hsanitize, hmade.find?_alter, Members.find?_insert, Members.find?_insert,
    h.find?_foldl_erase, h.find?_foldl_erase]
  by_cases hroles : key = "roles"
  · subst hroles
    rfl
  · rw [if_neg hroles, if_neg hroles]
    by_cases hschemas : key = "schemas"
    · rw [if_pos hschemas, if_pos hschemas]
    · rw [if_neg hschemas, if_neg hschemas]
      exact if_congr (by simp [hschemas]) rfl rfl

namespace Document

variable (h : kind.Document version created modified body)
include h

theorem sorted_shownMembers (baseUrl : String) (id : Uuid) :
    Members.Sorted (kind.shownMembers baseUrl id version created modified body) := by
  have hkept : Members.Sorted (kind.normalize (Members.erase versionKey body)) :=
    sorted_normalize (h.sorted.erase versionKey)
  have hid : (Json.str id.text).Sorted := trivial
  exact ((hkept.insert "id" hid).insert "schemas" (kind.sorted_schemasFor _)).insert "meta"
    (Json.sorted_ofPairs (by simp [Json.Sorted]))

theorem ascending_shownMembers (baseUrl : String) (id : Uuid) :
    Members.Ascending (kind.shownMembers baseUrl id version created modified body) :=
  (h.sorted_shownMembers baseUrl id).ascending

theorem schemasFor_shownMembers (baseUrl : String) (id : Uuid) :
    kind.schemasFor (.obj (kind.shownMembers baseUrl id version created modified body))
      = kind.schemasFor (.obj body) :=
  kind.schemasFor_congr (h.find?_shownMembers_of_not_mem baseUrl id (by decide))
    (h.find?_shownMembers_of_not_mem baseUrl id (by decide))

/-- What is sanitized of a resource is its document, without the version and the times. -/
theorem find?_sanitize_shownMembers (baseUrl : String) (id : Uuid) {key : String}
    (hmeta : key ≠ "meta") (hversion : key ≠ versionKey) :
    Members.find? key (kind.sanitize
        (.obj (kind.shownMembers baseUrl id version created modified body)))
      = Members.find? key body := by
  rw [find?_sanitize_obj (h.ascending_shownMembers baseUrl id)]
  by_cases hid : key = "id"
  · subst hid
    exact h.id.symm
  have hother : key ∉ ["id", "meta", versionKey] := by simp [hid, hmeta, hversion]
  have hshown := h.find?_shownMembers_of_not_mem baseUrl id hother
  split_ifs with hroles hschemas
  · subst hroles
    rw [hshown, h.roles]
  · subst hschemas
    rw [h.schemasFor_shownMembers, h.schemas]
  · exact hshown

/-- A new stamp on what is sanitized of a resource is a new stamp on its document. -/
theorem stamp_sanitize (baseUrl : String) (id : Uuid) (version' : Nat)
    (created' modified' : String) :
    stamp version' created' modified' (kind.sanitize
        (.obj (kind.shownMembers baseUrl id version created modified body)))
      = stamp version' created' modified' body := by
  have hinput : (Json.obj (kind.shownMembers baseUrl id version created modified body)).Sorted :=
    Json.sorted_obj_iff.mpr (h.sorted_shownMembers baseUrl id)
  refine Members.Ascending.ext
    (((content_sanitize hinput).sorted.ascending.alter versionKey _).alter "meta" _)
    ((h.sorted.ascending.alter versionKey _).alter "meta" _) fun key => ?_
  simp only [stamp, Members.find?_insert]
  split_ifs with hmeta hversion
  · rfl
  · rfl
  · exact h.find?_sanitize_shownMembers baseUrl id hmeta hversion

/-- A document with a new stamp is shown as the resource, revised. -/
theorem present_stamp (hle : version ≤ maxWord64) (hle' : version' ≤ maxWord64)
    (baseUrl now now' : String) (id : Uuid) :
    kind.present baseUrl now' ⟨id, stamp version' created modified' body⟩
      = (kind.present baseUrl now ⟨id, body⟩).revised (Etag.weak version') modified' := by
  have hstamped := document_stamp h.toContent version' created modified'
  have hshown := h.ascending_shownMembers baseUrl id
  have hcontent : kind.shownMembers baseUrl id version' created modified'
        (stamp version' created modified' body)
      = Members.alter "meta" (Option.map (Json.revisedInfo (Etag.weak version') modified'))
        (kind.shownMembers baseUrl id version created modified body) := by
    refine Members.Ascending.ext (hstamped.ascending_shownMembers baseUrl id)
      (hshown.alter "meta" _) fun key => ?_
    rw [hshown.find?_alter]
    split_ifs with hmeta
    · rw [hmeta, find?_meta_shownMembers, find?_meta_shownMembers, Option.map_some,
        revisedInfo_shownInfo]
    · by_cases hid : key = "id"
      · rw [hid, find?_id_shownMembers, find?_id_shownMembers]
      · by_cases hversion : key = versionKey
        · rw [hversion, hstamped.find?_versionKey_shownMembers, h.find?_versionKey_shownMembers]
        · have hother : key ∉ ["id", "meta", versionKey] := by simp [hid, hmeta, hversion]
          rw [hstamped.find?_shownMembers_of_not_mem baseUrl id hother,
            h.find?_shownMembers_of_not_mem baseUrl id hother,
            find?_stamp_of_ne _ _ _ _ hmeta hversion]
  rw [h.present_eq hle, hstamped.present_eq hle', hcontent]
  rfl

end Document

/-! ## Writing over -/

/-- What is sanitized of a resource, written over its document, is shown as the resource,
revised. -/
theorem Document.shown_stampOver (h : kind.Document version created modified body)
    (hle : version ≤ maxWord64) (setting read : Setting) (hbase : read.baseUrl = setting.baseUrl)
    (id : Uuid) :
    setting.shown kind ⟨id, setting.stampOver body
        (kind.sanitize (read.shown kind ⟨id, body⟩).content)⟩
      = (read.shown kind ⟨id, body⟩).revised (Etag.weak (nextVersion version)) setting.now := by
  have hstamp : setting.stampOver body (kind.sanitize (read.shown kind ⟨id, body⟩).content)
      = stamp (nextVersion version) created setting.now body := by
    rw [Setting.stampOver, h.versionOf_eq hle, h.metaText?_created, Setting.shown,
      h.present_eq hle]
    exact h.stamp_sanitize _ _ _ _ _
  rw [hstamp, Setting.shown, Setting.shown, hbase]
  exact h.present_stamp hle (nextVersion_le version) _ _ _ id

end ResourceKind

/-! ## Runs -/

namespace Directory

variable {d : Directory} {kind : ResourceKind} {text : String} {ifMatch : Option String}
  {answer : Option Resource}

/-- What a replacement is answered with is read from then on, as long as the store stays. -/
theorem perform_read_of_replace {input : Json} (hinput : input.Sorted)
    (h : (d.perform (.replace kind text input ifMatch)).1 = .ok answer)
    {other : String} (htext : Uuid.ofText? other = Uuid.ofText? text) {later : Directory}
    (hconfig : later.config = d.config)
    (hstore : later.store = (d.perform (.replace kind text input ifMatch)).2.store) :
    (later.perform (.read kind other)).1 = .ok answer := by
  obtain ⟨old, hfound, rfl, hwritten⟩ := perform_replace_of_ok h
  rw [hwritten] at hstore
  have hcontent : kind.Content (kind.sanitize input) := ResourceKind.content_sanitize hinput
  have hstored : kind.Stored (d.setting.stampOver old.body (kind.sanitize input)) :=
    hcontent.stored_stampOver old.body
  refine perform_read_eq_ok_iff.mpr
    ⟨⟨old.id, d.setting.stampOver old.body (kind.sanitize input)⟩, ?_, ?_⟩
  · rw [hstore, Store.findById_congr htext,
      Store.findById_of_ofText? (Store.mem_of_findById hfound).2, Store.entries_change_self,
      Store.lookup_overwrite (Store.lookup_of_findById hfound)]
  · have hbase : later.setting.baseUrl = d.setting.baseUrl :=
      congrArg ServiceConfig.baseUrl hconfig
    rw [Setting.shown, hbase]
    exact hstored.present_eq_present _ _ _ old.id

variable {clock : Nat → Timestamp} {events : List Event} {config : ServiceConfig}
  {database : String} {ids : Nat → Uuid} {requests : List Request}

/-- Reading and writing back.  When a resource is read after any run, and the content that was read
is written over it, under any text of its identifier and any precondition, then the answer is the
resource that was read with the tag of the next version and the time of the write, and nothing else
is different.  As long as the store stays as it is then, the same is read again. -/
theorem write_back_revises
    (hrun : (opened config database ids clock).serveAll requests = (events, d))
    (hsorted : ∀ request ∈ requests, request.Sorted) {read : Resource}
    (hread : (d.perform (.read kind text)).1 = .ok (some read))
    {written : String} (htext : Uuid.ofText? text = Uuid.ofText? written)
    (hwritten : ((d.perform (.read kind text)).2.perform
      (.replace kind written read.content ifMatch)).1 = .ok answer) :
    ∃ version ≤ maxWord64, read.etag = Etag.weak version
      ∧ read.content.ShowsTag read.id read.etag
      ∧ answer = some (read.revised (Etag.weak (nextVersion version))
        (d.perform (.read kind text)).2.now)
      ∧ ∀ later : Directory, later.config = d.config →
        later.store = ((d.perform (.read kind text)).2.perform
          (.replace kind written read.content ifMatch)).2.store →
        (later.perform (.read kind text)).1 = .ok answer := by
  obtain ⟨⟨id, body⟩, hfound, rfl⟩ := perform_read_eq_ok_iff.mp hread
  obtain ⟨version, created, modified, hle, hdocument⟩ :=
    documented_of_serveAll hrun hsorted kind _ (Store.mem_of_findById hfound).1
  have hpresent := hdocument.present_eq hle d.setting.baseUrl d.setting.now id
  have hcontent : (d.setting.shown kind ⟨id, body⟩).content.Sorted := by
    rw [Setting.shown, hpresent]
    exact Json.sorted_obj_iff.mpr (hdocument.sorted_shownMembers _ _)
  refine ⟨version, hle, ?_, ?_, ?_, ?_⟩
  · rw [Setting.shown, hpresent]
  · exact (kind.showsTag_content_present_iff _ _ _).mpr ⟨rfl, rfl⟩
  · obtain ⟨old, hold, rfl, -⟩ := perform_replace_of_ok hwritten
    rw [perform_read_snd] at hold ⊢
    -- the text of the write leads to the entry that was read
    obtain rfl := Store.findById_unique htext hfound hold
    have hrevised := hdocument.shown_stampOver hle { d with ticks := d.ticks + 1 }.setting
      d.setting rfl id
    exact congrArg some hrevised
  · intro later hconfig hstore
    refine perform_read_of_replace hcontent hwritten htext ?_ hstore
    rw [hconfig, perform_read_snd]

/-- A client creates a user with an extension and two primary roles, and then patches both. -/
def requestsOfEmployee : List Request :=
  [.operation (.create .user (.obj [
      ("roles", .arr [.obj [("primary", .bool true), ("value", .str "admin")],
        .obj [("primary", .str "true"), ("value", .str "editor")]]),
      (Schemas.enterpriseUser, .obj [("department", .str "R&D")]),
      ("userName", .str "ada")])),
    .operation (.patch .user "00000000-0000-0000-0000-000000000000"
      (.obj [("Operations", .arr [.obj [("op", .str "remove"),
        ("path", .str (Schemas.enterpriseUser ++ ":department"))]])]) none)]

/-- What is read of the user is in its second version; written back, it is in its third. -/
theorem write_back_revises_of_employee :
    ∃ read answer,
      ((plain.serveAll requestsOfEmployee).2.perform
        (.read .user "00000000-0000-0000-0000-000000000000")).1 = .ok (some read)
      ∧ (((plain.serveAll requestsOfEmployee).2.perform
          (.read .user "00000000-0000-0000-0000-000000000000")).2.perform
        (.replace .user "00000000-0000-0000-0000-000000000000" read.content none)).1 = .ok answer
      ∧ ∃ version, read.etag = Etag.weak version
        ∧ answer = some (read.revised (Etag.weak (nextVersion version))
          ((plain.serveAll requestsOfEmployee).2.perform
            (.read .user "00000000-0000-0000-0000-000000000000")).2.now) := by
  have hsorted : ∀ request ∈ requestsOfEmployee, request.Sorted := by decide
  have hanswered : ((((plain.serveAll requestsOfEmployee).2.perform
        (.read .user "00000000-0000-0000-0000-000000000000")).1.toOption.bind id).elim false
      fun read => (((plain.serveAll requestsOfEmployee).2.perform
          (.read .user "00000000-0000-0000-0000-000000000000")).2.perform
        (.replace .user "00000000-0000-0000-0000-000000000000" read.content none)).1.isOk)
          = true := by decide +kernel
  generalize hrun : plain.serveAll requestsOfEmployee = outcome at hanswered ⊢
  obtain ⟨events, d⟩ := outcome
  cases hread : (d.perform (.read .user "00000000-0000-0000-0000-000000000000")).1 with
  | error e =>
    rw [hread] at hanswered
    cases hanswered
  | ok shown =>
    rw [hread] at hanswered
    cases shown with
    | none => cases hanswered
    | some read =>
      cases hwritten : ((d.perform (.read .user "00000000-0000-0000-0000-000000000000")).2.perform
        (.replace .user "00000000-0000-0000-0000-000000000000" read.content none)).1 with
      | error e =>
        have hok : ((d.perform (.read .user "00000000-0000-0000-0000-000000000000")).2.perform
          (.replace .user "00000000-0000-0000-0000-000000000000" read.content none)).1.isOk
            = true := hanswered
        rw [hwritten] at hok
        cases hok
      | ok answer =>
        obtain ⟨version, -, hetag, -, hanswer, -⟩ :=
          write_back_revises hrun hsorted hread rfl hwritten
        exact ⟨read, answer, rfl, hwritten, version, hetag, hanswer⟩

end Directory

end Scim
