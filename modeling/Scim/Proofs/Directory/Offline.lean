import Scim.CommandLine
import Scim.Proofs.Directory.WriteBack
import Scim.Proofs.Patch.Independence

/-!
# Patches on the command line

The command line patches the document in a file, which may be a user as the directory shows it.  The
directory patches the document that it stores, and puts its own members right afterwards.  The two
start from documents that agree under all keys but the directory's own, and what an operation leaves
under a key depends on what was there alone (`PatchOperation.find?_applyAll_congr`), so they end in
documents that agree under these keys again (`Directory.offline_patch_agrees`).  The command line
reads operations in two forms, and reads the same ones as the directory from either.
-/

namespace Scim

/-! ## Operations in two forms -/

/-- Items that are well-formed operations of a request are read as a list of operations too; only
the errors differ. -/
theorem PatchRequest.list_decode_of_operationsOf {items : List Json} {ops : List PatchOperation}
    (h : operationsOf items = .ok ops) :
    Decoder.list PatchOperation.decode (.arr items) = .ok ops := by
  simp only [Decoder.list]
  induction items generalizing ops with
  | nil =>
    cases h
    rfl
  | cons item items ih =>
    simp only [operationsOf, List.mapM_cons] at h
    rw [List.mapM_cons]
    cases hitem : PatchOperation.decode item with
    | error e =>
      rw [hitem] at h
      cases h
    | ok op =>
      cases hmore : operationsOf items with
      | error e =>
        simp only [operationsOf] at hmore
        simp only [hitem, hmore] at h
        cases h
      | ok more =>
        rw [ih hmore]
        simp only [operationsOf] at hmore
        simp only [hitem, hmore] at h
        cases h
        rfl

namespace Invocation

/-- The command line reads the operations that the directory reads, from the body of the request
and from the array in it. -/
theorem exists_operationsOf_of_ofBody {body : Json} {request : PatchRequest}
    (h : PatchRequest.ofBody body = .ok request) :
    ∃ items, body.get? "Operations" = some (.arr items)
      ∧ operationsOf body = .ok request.operations
      ∧ operationsOf (.arr items) = .ok request.operations := by
  obtain ⟨items, hitems, hops⟩ := PatchRequest.exists_items_of_ofBody h
  refine ⟨items, hitems, ?_, ?_⟩
  · cases body with
    | obj members => simp only [operationsOf, h]
    | null | bool | num | str | arr => cases hitems
  · simp only [operationsOf, PatchRequest.list_decode_of_operationsOf hops]

/-- The document of a file after the operations of another one. -/
theorem patched_of_readJson {files : String → FileContent} {document operations : String}
    {members : Members} {listed : Json} {ops : List PatchOperation}
    (hdocument : readJson files document = .ok (.obj members))
    (hlisted : readJson files operations = .ok listed) (hops : operationsOf listed = .ok ops) :
    patched files document operations
      = .ok (.obj (Primary.normalizeRoles (PatchOperation.applyAll ops members))) := by
  simp only [patched, hdocument, hlisted]
  have hbind : (operationsOf listed >>= fun ops => .ok (.obj (Primary.normalizeRoles
      (PatchOperation.applyAll ops members)))) = (.ok (.obj (Primary.normalizeRoles
      (PatchOperation.applyAll ops members))) : Except CommandError Json) := by
    rw [hops]
    rfl
  exact hbind

end Invocation

/-! ## A patch of what is shown -/

namespace ResourceKind

variable {kind : ResourceKind} {version : Nat} {created modified : String} {body : Members}

theorem confinedTo_normalize (kind : ResourceKind) :
    Members.ConfinedTo ["roles"] kind.normalize := by
  have hnormalize : kind.normalize = Members.alter "roles" kind.settledRoles :=
    funext kind.normalize_eq_alter
  rw [hnormalize]
  exact .alter List.mem_cons_self _

/-- Under keys that are not the directory's own, a patched document is what the operations make of
it, with its roles settled. -/
theorem find?_patched {ops : List PatchOperation}
    (h : Members.Ascending (PatchOperation.applyAll ops body)) {key : String}
    (hid : key ≠ "id") (hschemas : key ≠ "schemas") :
    Members.find? key (kind.patched ops body)
      = Members.find? key (kind.normalize (PatchOperation.applyAll ops body)) := by
  have hmade : Members.Ascending (Members.insert "schemas"
      (kind.schemasFor (.obj (Members.erase "id" (PatchOperation.applyAll ops body))))
      (Members.erase "id" (PatchOperation.applyAll ops body))) := (h.erase "id").alter "schemas" _
  have hsame : Members.find? key (Members.insert "schemas"
        (kind.schemasFor (.obj (Members.erase "id" (PatchOperation.applyAll ops body))))
        (Members.erase "id" (PatchOperation.applyAll ops body)))
      = Members.find? key (PatchOperation.applyAll ops body) := by
    rw [Members.find?_insert_of_ne hschemas, h.find?_erase_of_ne hid]
  exact kind.confinedTo_normalize.find?_congr hmade h hsame

/-- A patch of a document and the same operations on its resource agree under all keys but the
directory's own. -/
theorem Document.find?_normalize_applyAll (h : kind.Document version created modified body)
    (ops : List PatchOperation) (baseUrl : String) (id : Uuid) {key : String}
    (hkey : key ∉ ["id", "meta", "schemas", versionKey]) :
    Members.find? key (kind.normalize (PatchOperation.applyAll ops
        (kind.shownMembers baseUrl id version created modified body)))
      = Members.find? key (kind.patched ops body) := by
  obtain ⟨hid, hmeta, hschemas, hversion⟩ :
      key ≠ "id" ∧ key ≠ "meta" ∧ key ≠ "schemas" ∧ key ≠ versionKey := by simpa using hkey
  have hshown := h.ascending_shownMembers baseUrl id
  have hpatched := PatchOperation.ascending_applyAll ops h.sorted.ascending
  have hsame : Members.find? key (PatchOperation.applyAll ops
        (kind.shownMembers baseUrl id version created modified body))
      = Members.find? key (PatchOperation.applyAll ops body) :=
    PatchOperation.find?_applyAll_congr ops hshown h.sorted.ascending
      (h.find?_shownMembers_of_not_mem baseUrl id (by simp [hid, hmeta, hversion]))
  rw [find?_patched hpatched hid hschemas]
  exact kind.confinedTo_normalize.find?_congr (PatchOperation.ascending_applyAll ops hshown)
    hpatched hsame

/-- What is shown of a document behind a patch, under keys that are not the directory's own, is what
the same operations make of the resource. -/
theorem Document.get?_shown_patched (h : kind.Document version created modified body)
    (hle : version ≤ maxWord64) {ops : List PatchOperation}
    (hcontent : kind.Content (kind.patched ops body)) (setting : Setting) (id : Uuid) {key : String}
    (hkey : key ∉ ["id", "meta", "schemas", versionKey]) :
    (setting.shown kind ⟨id, setting.stampOver body (kind.patched ops body)⟩).content.get? key
      = Members.find? key (kind.normalize (PatchOperation.applyAll ops
          (kind.shownMembers setting.baseUrl id version created modified body))) := by
  obtain ⟨hid, hmeta, hschemas, hversion⟩ :
      key ≠ "id" ∧ key ≠ "meta" ∧ key ≠ "schemas" ∧ key ≠ versionKey := by simpa using hkey
  have hother : key ∉ ["id", "meta", versionKey] := by simp [hid, hmeta, hversion]
  have hstamped := document_stamp hcontent (nextVersion version) created setting.now
  rw [Setting.shown, Setting.stampOver, h.versionOf_eq hle, h.metaText?_created,
    Option.getD_some, hstamped.present_eq (nextVersion_le version)]
  calc Members.find? key (kind.shownMembers _ id (nextVersion version) created _
        (stamp (nextVersion version) created _ (kind.patched ops body)))
      = Members.find? key (stamp (nextVersion version) created _ (kind.patched ops body)) :=
        hstamped.find?_shownMembers_of_not_mem _ id hother
    _ = Members.find? key (kind.patched ops body) := find?_stamp_of_ne _ _ _ _ hmeta hversion
    _ = _ := (h.find?_normalize_applyAll ops _ id hkey).symm

end ResourceKind

/-! ## Runs -/

namespace Directory

variable {clock : Nat → Timestamp} {events : List Event} {d : Directory} {config : ServiceConfig}
  {database : String} {ids : Nat → Uuid} {requests : List Request}

/-- Patching offline.  When a user is read after any run, and a patch of it succeeds, under any text
of its identifier and any precondition, then the command line can patch a file that holds what was
read, by a file that holds the body of the patch or the array of its operations.  The document that
comes about agrees with the answer of the patch under all keys but the directory's own. -/
theorem offline_patch_agrees
    (hrun : (opened config database ids clock).serveAll requests = (events, d))
    (hsorted : ∀ request ∈ requests, request.Sorted) {text : String} {read : Resource}
    (hread : (d.perform (.read .user text)).1 = .ok (some read))
    {written : String} (htext : Uuid.ofText? text = Uuid.ofText? written) {body : Json}
    (hbody : body.Sorted) {ifMatch : Option String} {answer : Option Resource}
    (hpatch : ((d.perform (.read .user text)).2.perform
      (.patch .user written body ifMatch)).1 = .ok answer) :
    ∃ patched, answer = some patched ∧ ∃ items, body.get? "Operations" = some (.arr items) ∧
      ∃ result : Json,
        (∀ (files : String → FileContent) (document operations : String),
          Invocation.readJson files document = .ok read.content →
          Invocation.readJson files operations = .ok body
            ∨ Invocation.readJson files operations = .ok (.arr items) →
          Invocation.patched files document operations = .ok result)
        ∧ ∀ key ∉ ["id", "meta", "schemas", versionKey],
          result.get? key = patched.content.get? key := by
  obtain ⟨⟨id, stored⟩, hfound, rfl⟩ := perform_read_eq_ok_iff.mp hread
  obtain ⟨version, created, modified, hle, hdocument⟩ :=
    documented_of_serveAll hrun hsorted .user _ (Store.mem_of_findById hfound).1
  obtain ⟨request, old, hreads, hold, rfl⟩ := perform_patch_of_ok hpatch
  rw [perform_read_snd] at hold ⊢
  -- the text of the patch leads to the entry that was read
  obtain rfl := Store.findById_unique htext hfound hold
  obtain ⟨items, hitems, hwhole, hlist⟩ := Invocation.exists_operationsOf_of_ofBody hreads
  have hcontent : ResourceKind.user.Content
      (ResourceKind.user.patched request.operations stored) :=
    ResourceKind.content_patched (PatchRequest.sortedHeld_of_ofBody hreads hbody) hdocument.sorted
  refine ⟨_, rfl, items, hitems, .obj (ResourceKind.user.normalize
    (PatchOperation.applyAll request.operations
      (ResourceKind.user.shownMembers d.setting.baseUrl id version created modified stored))),
    ?_, fun key hkey => ?_⟩
  · intro files document operations hfile hlisted
    rw [Setting.shown, hdocument.present_eq hle] at hfile
    rcases hlisted with hlisted | hlisted
    · exact Invocation.patched_of_readJson hfile hlisted hwhole
    · exact Invocation.patched_of_readJson hfile hlisted hlist
  · have hagree := hdocument.get?_shown_patched hle hcontent { d with ticks := d.ticks + 1 }.setting
      id hkey
    exact hagree.symm

/-- A client creates a user. -/
def requestsOfCountess : List Request :=
  [.operation (.create .user (.obj [("userName", .str "ada")]))]

/-- The user as it is read. -/
def shownCountess : Json :=
  .obj [("id", .str "00000000-0000-0000-0000-000000000000"),
    ("meta", .obj [("created", .str "1970-01-01T00:00:00.000Z"),
      ("lastModified", .str "1970-01-01T00:00:00.000Z"),
      ("location", .str "http://localhost:3999/Users/00000000-0000-0000-0000-000000000000"),
      ("resourceType", .str "User"), ("version", .str "W/\"1\"")]),
    ("schemas", .arr [.str Schemas.user]), ("userName", .str "ada")]

/-- An operation that gives a title. -/
def titling : Json :=
  .obj [("op", .str "add"), ("path", .str "title"), ("value", .str "Countess")]

set_option maxRecDepth 4000 in
/-- The user is given a title, by the directory and in a file. -/
theorem offline_patch_agrees_of_countess :
    ∃ patched result : Json,
      (∃ id location etag, (((plain.serveAll requestsOfCountess).2.perform
          (.read .user "00000000-0000-0000-0000-000000000000")).2.perform
        (.patch .user "00000000-0000-0000-0000-000000000000"
          (.obj [("Operations", .arr [titling])]) none)).1
          = .ok (some ⟨id, location, etag, patched⟩))
      ∧ patched.get? "title" = some (.str "Countess")
      ∧ result.get? "title" = patched.get? "title"
      ∧ ∀ (files : String → FileContent) (document operations : String),
        Invocation.readJson files document = .ok shownCountess →
        Invocation.readJson files operations = .ok (.arr [titling]) →
        Invocation.patched files document operations = .ok result := by
  have hrun : plain.serveAll requestsOfCountess = (_, _) := rfl
  have hsorted : ∀ request ∈ requestsOfCountess, request.Sorted := by decide
  have hread : ((plain.serveAll requestsOfCountess).2.perform
        (.read .user "00000000-0000-0000-0000-000000000000")).1
      = .ok (some ⟨_, _, _, shownCountess⟩) := rfl
  have hbody : (Json.obj [("Operations", .arr [titling])]).Sorted := by decide
  have hpatch : (((plain.serveAll requestsOfCountess).2.perform
          (.read .user "00000000-0000-0000-0000-000000000000")).2.perform
        (.patch .user "00000000-0000-0000-0000-000000000000"
          (.obj [("Operations", .arr [titling])]) none)).1 = .ok (some ⟨_, _, _, _⟩) := rfl
  obtain ⟨patched, hanswer, items, hitems, result, hresult, hagree⟩ :=
    offline_patch_agrees hrun hsorted hread rfl hbody hpatch
  obtain rfl := Option.some.inj hanswer
  have hlisted : some (Json.arr [titling]) = some (.arr items) := hitems
  obtain rfl := Json.arr.inj (Option.some.inj hlisted)
  exact ⟨_, result, ⟨_, _, _, hpatch⟩, rfl, hagree "title" (by decide),
    fun files document operations hdocument hoperations =>
      hresult files document operations hdocument (Or.inr hoperations)⟩

end Directory

end Scim
