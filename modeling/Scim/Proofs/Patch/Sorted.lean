import Scim.Message.Patch
import Scim.Proofs.Json.Reread
import Scim.Proofs.Patch.Element

/-!
# Patches keep documents in order

Whatever an operation changes, a document in order stays in order at any depth, as long as the value
of the operation is in order (`PatchOperation.sorted_apply`).  Nothing else comes into a document
but the fresh elements of filters, and the value of a filter in a path is a scalar.  The values of a
patch request are parts of its body, so a body in order yields values in order
(`PatchRequest.sortedHeld_of_ofBody`).
-/

namespace Scim

open Members (Sorted SortedHeld sortedHeld_none sortedHeld_some_iff)

/-! ## The values of filters -/

/-- A filter that selects its own fresh element compares with a scalar. -/
theorem ElementFilter.sorted_value {f : ElementFilter} (h : f.selects (.obj f.seed) = true) :
    f.value.Sorted := by
  simp only [selects, seed, Json.get?, Members.find?, if_true] at h
  cases hvalue : f.value with
  | str | num | bool => trivial
  | null | arr | obj =>
    rw [hvalue] at h
    cases h

/-- Every filter of the path has a value in order. -/
def Segment.Plain (segments : List Segment) : Prop :=
  ∀ segment ∈ segments, ∀ f, segment.filter = some f → f.value.Sorted

theorem Segment.plain_ofPath (path : String) : Plain (ofPath path) := by
  intro segment hmem f hf
  exact ElementFilter.sorted_value (selects_seed_of_mem_ofPath hmem hf)

namespace Patch

/-- A change that keeps documents in order. -/
def KeepsSorted (change : Members → Members) : Prop :=
  ∀ members, Sorted members → Sorted (change members)

variable {f : ElementFilter} {change : Members → Members} {items : List Json} {value : Json}
  {held : Option Json}

/-! ## Elements -/

theorem sorted_changeFirst (hchange : KeepsSorted change) (hitems : ∀ item ∈ items, item.Sorted) :
    ∀ item ∈ changeFirst f change items, item.Sorted := by
  induction items with
  | nil =>
    intro item hitem
    exact absurd hitem List.not_mem_nil
  | cons head items ih =>
    obtain ⟨hhead, hrest⟩ := List.forall_mem_cons.mp hitems
    cases head with
    | obj members =>
      simp only [changeFirst]
      split
      · have hchanged := hchange members (Json.sorted_obj_iff.mp hhead)
        exact List.forall_mem_cons.mpr ⟨Json.sorted_obj_iff.mpr hchanged, hrest⟩
      · exact List.forall_mem_cons.mpr ⟨hhead, ih hrest⟩
    | null | bool | num | str | arr => exact List.forall_mem_cons.mpr ⟨hhead, ih hrest⟩

theorem sorted_seed (hf : f.value.Sorted) : Sorted f.seed where
  ascending := List.pairwise_singleton _ _
  values := by simpa [ElementFilter.seed] using hf

theorem sorted_changeOrAppend (hf : f.value.Sorted) (hchange : KeepsSorted change)
    (hitems : ∀ item ∈ items, item.Sorted) :
    ∀ item ∈ changeOrAppend f change items, item.Sorted := by
  unfold changeOrAppend
  split
  · exact sorted_changeFirst hchange hitems
  · intro item hitem
    rcases List.mem_append.mp hitem with hold | hnew
    · exact hitems item hold
    · rw [List.mem_singleton.mp hnew, Json.sorted_obj_iff]
      exact hchange _ (sorted_seed hf)

theorem sorted_of_mem_itemsOf (h : SortedHeld held) : ∀ item ∈ itemsOf held, item.Sorted := by
  intro item hitem
  rcases held with _ | j
  · exact absurd hitem List.not_mem_nil
  · cases j with
    | arr items => exact Json.sorted_arr_iff.mp (sortedHeld_some_iff.mp h) item hitem
    | null | bool | num | str | obj => exact absurd hitem List.not_mem_nil

/-! ## On the way -/

theorem sorted_passCreating {filter : Option ElementFilter}
    (hfilter : ∀ f, filter = some f → f.value.Sorted) (hchange : KeepsSorted change)
    (h : SortedHeld held) : SortedHeld (passCreating filter change held) := by
  cases filter with
  | some f =>
    refine sortedHeld_some_iff.mpr (Json.sorted_arr_iff.mpr ?_)
    exact sorted_changeOrAppend (hfilter f rfl) hchange (sorted_of_mem_itemsOf h)
  | none =>
    have hfresh : (Json.obj (change [])).Sorted :=
      Json.sorted_obj_iff.mpr (hchange [] Members.sorted_nil)
    rcases held with _ | j
    · exact sortedHeld_some_iff.mpr hfresh
    · cases j with
      | arr items => exact h
      | obj members =>
        have hmembers := Json.sorted_obj_iff.mp (sortedHeld_some_iff.mp h)
        exact sortedHeld_some_iff.mpr (Json.sorted_obj_iff.mpr (hchange members hmembers))
      | null | bool | num | str => exact sortedHeld_some_iff.mpr hfresh

theorem sorted_passRemoving {filter : Option ElementFilter} (hchange : KeepsSorted change)
    (h : SortedHeld held) : SortedHeld (passRemoving filter change held) := by
  rcases held with _ | j
  · exact sortedHeld_none
  · have hj := sortedHeld_some_iff.mp h
    refine sortedHeld_some_iff.mpr ?_
    cases filter with
    | some f =>
      cases j with
      | arr items => exact Json.sorted_arr_iff.mpr (sorted_changeFirst hchange
          (Json.sorted_arr_iff.mp hj))
      | null | bool | num | str | obj => exact hj
    | none =>
      cases j with
      | obj members => exact Json.sorted_obj_iff.mpr (hchange members (Json.sorted_obj_iff.mp hj))
      | null | bool | num | str | arr => exact hj

/-! ## At the end of a path -/

theorem keepsSorted_mergeValue (hvalue : value.Sorted) : KeepsSorted (mergeValue value) := by
  intro members hmembers
  cases value with
  | obj more => exact hmembers.merge (Json.sorted_obj_iff.mp hvalue).values
  | null => exact hmembers
  | bool | num | str | arr => exact hmembers.insert "value" hvalue

theorem sorted_complexValue (key : String) (parent : Option String) (hvalue : value.Sorted) :
    (complexValue key parent value).Sorted := by
  unfold complexValue
  split
  · refine Json.sorted_obj_iff.mpr ⟨List.pairwise_singleton _ _, ?_⟩
    simpa using hvalue
  · exact hvalue

theorem sorted_addTo {fresh : Json} (hvalue : value.Sorted) (hfresh : fresh.Sorted)
    (h : SortedHeld held) : (addTo value fresh held).Sorted := by
  unfold addTo
  split
  · have hitems := Json.sorted_arr_iff.mp (sortedHeld_some_iff.mp h)
    have hadded := Json.sorted_arr_iff.mp hvalue
    exact Json.sorted_arr_iff.mpr (List.forall_mem_append.mpr ⟨hitems, hadded⟩)
  · have hitems := Json.sorted_arr_iff.mp (sortedHeld_some_iff.mp h)
    refine Json.sorted_arr_iff.mpr (List.forall_mem_append.mpr ⟨hitems, ?_⟩)
    simpa using hvalue
  · exact sortedHeld_some_iff.mp h
  · have hmembers := Json.sorted_obj_iff.mp (sortedHeld_some_iff.mp h)
    exact Json.sorted_obj_iff.mpr (hmembers.merge (Json.sorted_obj_iff.mp hvalue).values)
  · exact hfresh

theorem sorted_write (adding : Bool) {segment : Segment} (parent : Option String)
    (hsegment : ∀ f, segment.filter = some f → f.value.Sorted) (hvalue : value.Sorted)
    (h : SortedHeld held) : SortedHeld (write adding segment parent value held) := by
  unfold write
  split
  · next f hf =>
    refine sortedHeld_some_iff.mpr (Json.sorted_arr_iff.mpr ?_)
    exact sorted_changeOrAppend (hsegment f hf) (keepsSorted_mergeValue hvalue)
      (sorted_of_mem_itemsOf h)
  · have hfresh := sorted_complexValue segment.key parent hvalue
    refine sortedHeld_some_iff.mpr ?_
    split
    · exact sorted_addTo hvalue hfresh h
    · exact hfresh

/-- What is left of an array in order is in order. -/
theorem sorted_arr_filter (h : (Json.arr items).Sorted) (p : Json → Bool) :
    (Json.arr (items.filter p)).Sorted := by
  refine Json.sorted_arr_iff.mpr ?_
  intro item hitem
  exact Json.sorted_arr_iff.mp h item (List.mem_of_mem_filter hitem)

theorem sorted_clear (filter : Option ElementFilter) (value : Option Json) (h : SortedHeld held) :
    SortedHeld (clear filter value held) := by
  unfold clear
  split
  · have hitems := sortedHeld_some_iff.mp h
    split
    · exact sortedHeld_some_iff.mpr (sorted_arr_filter hitems _)
    · exact h
    · exact h
    · exact sortedHeld_some_iff.mpr (sorted_arr_filter hitems _)
    · exact sortedHeld_some_iff.mpr (sorted_arr_filter hitems _)
  · exact sortedHeld_none

/-! ## Along a path and at the root -/

theorem sorted_arrive (kind : PatchKind) {value : Option Json} (parent : Option String)
    {segment : Segment} (hsegment : ∀ f, segment.filter = some f → f.value.Sorted)
    (hvalue : SortedHeld value) (h : SortedHeld held) :
    SortedHeld (arrive kind value parent segment held) := by
  cases kind with
  | remove => exact sorted_clear segment.filter value h
  | add | replace =>
    cases value with
    | none => exact h
    | some value => exact sorted_write _ parent hsegment (sortedHeld_some_iff.mp hvalue) h

theorem keepsSorted_along (kind : PatchKind) {value : Option Json} (hvalue : SortedHeld value)
    (parent : Option String) {segments : List Segment} (hsegments : Segment.Plain segments) :
    KeepsSorted (along kind value parent segments) := by
  -- the change below a segment is the one along the rest of the path
  induction segments generalizing parent with
  | nil =>
    intro members hmembers
    exact hmembers
  | cons segment rest ih =>
    obtain ⟨hsegment, hrest⟩ := List.forall_mem_cons.mp hsegments
    intro members hmembers
    cases rest with
    | nil =>
      exact hmembers.alter segment.key
        (sorted_arrive kind parent hsegment hvalue (hmembers.find? segment.key))
    | cons next rest =>
      have hbelow := ih (some segment.raw) hrest
      refine hmembers.alter segment.key ?_
      cases kind with
      | remove => exact sorted_passRemoving hbelow (hmembers.find? segment.key)
      | add | replace => exact sorted_passCreating hsegment hbelow (hmembers.find? segment.key)

theorem sorted_writeMember {members : Members} (h : Sorted members) (key : String)
    (hvalue : value.Sorted) : Sorted (writeMember members key value) := by
  unfold writeMember
  split
  · exact h.insert key hvalue
  · next segments _ =>
    exact keepsSorted_along .replace (sortedHeld_some_iff.mpr hvalue) none
      (Segment.plain_ofPath key) members h

theorem keepsSorted_atRoot (kind : PatchKind) {value : Option Json} (hvalue : SortedHeld value) :
    KeepsSorted (atRoot kind value) := by
  intro members hmembers
  rcases value with _ | j
  · exact hmembers
  · cases j with
    | obj fields =>
      have hfields := (Json.sorted_obj_iff.mp (sortedHeld_some_iff.mp hvalue)).values
      cases kind with
      | remove => exact hmembers.foldl fun field _ ms hms => hms.erase field.1
      | add | replace =>
        exact hmembers.foldl fun field hfield ms hms =>
          sorted_writeMember hms _ (hfields field hfield)
    | null | bool | num | str | arr => exact hmembers

end Patch

/-! ## Operations -/

namespace PatchOperation

variable {members : Members}

/-- A document in order stays in order. -/
theorem sorted_apply {op : PatchOperation} (hop : SortedHeld op.value) (h : Sorted members) :
    Sorted (op.apply members) := by
  unfold apply
  split
  · exact Patch.keepsSorted_atRoot op.kind hop members h
  · next path _ =>
    split
    · exact Patch.keepsSorted_atRoot op.kind hop members h
    · exact Patch.keepsSorted_along op.kind hop none (Segment.plain_ofPath path) members h

theorem sorted_applyAll {ops : List PatchOperation} (hops : ∀ op ∈ ops, SortedHeld op.value)
    (h : Sorted members) : Sorted (applyAll ops members) := by
  induction ops generalizing members with
  | nil => exact h
  | cons op ops ih =>
    obtain ⟨hop, hrest⟩ := List.forall_mem_cons.mp hops
    exact ih hrest (sorted_apply hop h)

end PatchOperation

/-! ## Requests -/

namespace Shape

/-- The items of an array stand in the row as they are. -/
theorem mem_of_pairItems {shape : Shape} {count index : Nat} {fields : List Field}
    {items : List Json} {row : List (String × Json)}
    (h : shape.pairItems count index fields items = .ok row) :
    ∀ member ∈ row, member.2 ∈ items := by
  rw [pairItems_eq_zip h]
  intro member hmember
  exact (List.of_mem_zip hmember).2

/-- The row of a value in order holds values in order. -/
theorem sorted_row {shape : Shape} {j : Json} {row : Members} (h : shape.row j = .ok row)
    (hj : j.Sorted) : Sorted row := by
  cases j with
  | obj members =>
    simp only [Shape.row] at h
    cases hmembers : shape.checkMembers members with
    | error e =>
      rw [hmembers] at h
      cases h
    | ok =>
      rw [hmembers] at h
      cases hpresence : checkPresence members shape.fields with
      | error e =>
        simp only [hpresence] at h
        cases h
      | ok =>
        simp only [hpresence] at h
        cases h
        exact Json.sorted_obj_iff.mp hj
  | arr items =>
    simp only [Shape.row] at h
    cases hpaired : shape.pairItems items.length 0 shape.fields items with
    | error e =>
      rw [hpaired] at h
      cases h
    | ok paired =>
      rw [hpaired] at h
      cases h
      refine Members.sorted_ofList ?_
      intro member hmember
      exact Json.sorted_arr_iff.mp hj _ (mem_of_pairItems hpaired member hmember)
  | null | bool | num | str => cases h

end Shape

/-- The value of an operation is the member of that name of its row. -/
theorem PatchOperation.sortedHeld_of_decode {j : Json} {op : PatchOperation}
    (h : decode j = .ok op) (hj : j.Sorted) : SortedHeld op.value := by
  obtain ⟨row, hrow, h⟩ := Decoder.exists_of_bind_eq_ok h
  obtain ⟨kind, -, h⟩ := Decoder.exists_of_bind_eq_ok h
  obtain ⟨path, -, h⟩ := Decoder.exists_of_bind_eq_ok h
  cases h
  exact (Shape.sorted_row hrow hj).find? "value"

namespace PatchRequest

theorem sortedHeld_of_operationsOf {items : List Json} {ops : List PatchOperation}
    (h : operationsOf items = .ok ops) (hitems : ∀ item ∈ items, item.Sorted) :
    ∀ op ∈ ops, SortedHeld op.value := by
  induction items generalizing ops with
  | nil =>
    cases h
    simp
  | cons item items ih =>
    obtain ⟨hfirst, hrest⟩ := List.forall_mem_cons.mp hitems
    simp only [operationsOf, List.mapM_cons] at h
    cases hitem : PatchOperation.decode item with
    | error e =>
      simp only [hitem] at h
      cases h
    | ok op =>
      cases hmore : operationsOf items with
      | error e =>
        simp only [operationsOf] at hmore
        simp only [hitem, hmore] at h
        cases h
      | ok more =>
        have hlater := ih hmore hrest
        simp only [operationsOf] at hmore
        simp only [hitem, hmore] at h
        cases h
        exact List.forall_mem_cons.mpr ⟨PatchOperation.sortedHeld_of_decode hitem hfirst, hlater⟩

/-- The operations of a request that is read are those of an array in its body. -/
theorem exists_items_of_ofBody {body : Json} {request : PatchRequest}
    (h : ofBody body = .ok request) :
    ∃ items, body.get? "Operations" = some (.arr items)
      ∧ operationsOf items = .ok request.operations := by
  unfold ofBody at h
  cases hoperations : body.get? "Operations" with
  | none =>
    rw [hoperations] at h
    cases h
  | some listed =>
    cases listed with
    | arr items =>
      simp only [hoperations, Option.bind_some, Json.items?] at h
      cases hops : operationsOf items with
      | error e =>
        rw [hops] at h
        cases h
      | ok ops =>
        rw [hops] at h
        cases h
        exact ⟨items, rfl, hops⟩
    | null | bool | num | str | obj =>
      rw [hoperations] at h
      cases h

/-- The operations that a body in order lists have values in order. -/
theorem sortedHeld_of_ofBody {body : Json} {request : PatchRequest}
    (h : ofBody body = .ok request) (hbody : body.Sorted) :
    ∀ op ∈ request.operations, SortedHeld op.value := by
  obtain ⟨items, hitems, hops⟩ := exists_items_of_ofBody h
  have hlisted := hbody.get? "Operations" _ hitems
  exact sortedHeld_of_operationsOf hops (Json.sorted_arr_iff.mp hlisted)

end PatchRequest

end Scim
