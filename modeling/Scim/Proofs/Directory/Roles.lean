import Scim.Proofs.Directory.Stored

/-!
# One primary role

Roles can be written in many ways: by a creation, a replacement, or a patch that appends an element,
changes one that a filter selects, goes deeper into one, or merges into the whole document, each of
them also in a bulk request.  All of them settle the roles at their end, so in every state that a
run leads to, the flags of the roles of a stored user are booleans, and at most one of them is true.
To show a user settles the roles once more, and by then there is nothing left to do
(`Directory.single_primary_role`).
-/

namespace Scim

/-! ## Documents -/

namespace ResourceKind

variable {version : Nat} {created modified : String} {body : Members}

/-- The roles of a user's document are settled. -/
theorem Content.settled_roles (h : ResourceKind.user.Content body) {items : List Json}
    (hroles : Members.find? "roles" body = some (.arr items)) : Primary.Settled items := by
  have hsorted := Json.sorted_arr_iff.mp (Members.sortedHeld_some_iff.mp
    (hroles ▸ h.sorted.find? "roles"))
  have hsettled := h.roles
  rw [hroles] at hsettled
  have hsame : Primary.settleAll false items = items := by
    simpa [settledRoles, Primary.settledItems] using hsettled
  exact (Primary.settled_iff hsorted).mpr hsame

variable {kind : ResourceKind}

/-- A document is settled as it is, with or without its version. -/
theorem Content.normalize_erase (h : kind.Content body) {key : String} (hkey : key ≠ "roles") :
    kind.normalize (Members.erase key body) = Members.erase key body := by
  rw [normalize_eq_alter]
  refine Members.alter_eq_self ?_
  rw [h.sorted.ascending.find?_erase_of_ne hkey.symm, h.roles]

/-- A resource shows the roles that are stored. -/
theorem Document.get?_roles_present (h : kind.Document version created modified body)
    (hle : version ≤ maxWord64) (baseUrl now : String) (id : Uuid) :
    (kind.present baseUrl now ⟨id, body⟩).content.get? "roles" = Members.find? "roles" body := by
  rw [h.present_eq hle]
  exact h.find?_shownMembers_of_not_mem baseUrl id (by decide)

end ResourceKind

/-! ## Runs -/

namespace Directory

/-- One primary role at any time.  After any run, the flags in the roles of a stored user are
booleans and at most one of them is true.  So settling the roles of what is stored changes nothing,
and the user is shown with the roles that are stored, wherever and whenever. -/
theorem single_primary_role {config : ServiceConfig} {database : String} {ids : Nat → Uuid}
    {clock : Nat → Timestamp} {requests : List Request} {events : List Event} {d : Directory}
    (hrun : (opened config database ids clock).serveAll requests = (events, d))
    (hsorted : ∀ request ∈ requests, request.Sorted) :
    ∀ e ∈ d.store.entries ResourceKind.user.collection,
      (∀ items, Members.find? "roles" e.body = some (.arr items) → Primary.Settled items)
        ∧ ResourceKind.user.normalize (Members.erase versionKey e.body)
          = Members.erase versionKey e.body
        ∧ ∀ baseUrl now, (ResourceKind.user.present baseUrl now e).content.get? "roles"
          = Members.find? "roles" e.body := by
  intro e he
  obtain ⟨version, created, modified, hle, hdocument⟩ :=
    documented_of_serveAll hrun hsorted .user e he
  exact ⟨fun items hroles => hdocument.settled_roles hroles,
    hdocument.normalize_erase (by decide),
    fun baseUrl now => hdocument.get?_roles_present hle baseUrl now e.id⟩

/-- A client creates a user with two primary roles, and then appends a third one. -/
def requestsOfRoles : List Request :=
  [.operation (.create .user (.obj [
      ("roles", .arr [.obj [("primary", .str "True"), ("value", .str "admin")],
        .obj [("primary", .bool true), ("value", .str "editor")]]),
      ("userName", .str "ada")])),
    .operation (.patch .user "00000000-0000-0000-0000-000000000000"
      (.obj [("Operations", .arr [.obj [("op", .str "add"), ("path", .str "roles"),
        ("value", .obj [("primary", .bool true), ("value", .str "reader")])]])]) none)]

/-- Of the three, the first is primary. -/
theorem single_primary_role_of_three :
    ∃ e ∈ (plain.serveAll requestsOfRoles).2.store.entries ResourceKind.user.collection,
      ∃ first second third, Members.find? "roles" e.body = some (.arr [first, second, third])
        ∧ Primary.isPrimary first = true ∧ Primary.Settled [first, second, third] := by
  have hrun : plain.serveAll requestsOfRoles = (_, _) := rfl
  have hsorted : ∀ request ∈ requestsOfRoles, request.Sorted := by decide
  have hroles := (single_primary_role hrun hsorted ⟨.ofFn fun _ => 0, _⟩ List.mem_cons_self).1
  exact ⟨_, List.mem_cons_self, _, _, _, rfl, rfl, hroles _ rfl⟩

end Directory

end Scim
