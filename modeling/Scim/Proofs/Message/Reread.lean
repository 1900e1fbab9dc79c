import Scim.Message.Bulk
import Scim.Message.Listing
import Scim.Message.Patch
import Scim.Proofs.Json.Reread
import Scim.Schema.Attribute

/-!
# Messages that are read again

Whatever is read as a message, in object or in array form, is read again from its own encoding, and
as the same message.  So after one pass through decoder and encoder a message no longer changes.

The value of a patch operation is the one field in which `null` differs from absence, and it stays
different: what the operation was given is what its encoding gives
(`PatchOperation.value_of_decode`).  The attributes of a schema nest, and an attribute is read with
as many levels as its encoding is deep, so the sub-attributes are read with fewer.
-/

namespace Scim

open Decoder (Rereads exists_of_bind_eq_ok rereads_string rereads_boolean rereads_list
  rereads_nullable_any)
open Members (need_reread want_reread needOr_reread accepts_required accepts_optional
  accepts_optionalDefaulted accepts_defaulted)

/-! ## Fields of messages -/

namespace Decoder

theorem rereads_strings : Rereads (list string) Json.ofStrings :=
  rereads_list rereads_string

theorem rereads_nullable_string : Rereads string.nullable (orNull .str) :=
  rereads_nullable rereads_string fun _ => Json.noConfusion

theorem rereads_nullable_u64 : Rereads u64.nullable (orNull .ofNat) :=
  rereads_nullable (rereads_natural _ _) fun _ => Json.noConfusion

theorem rereads_nullable_u32 : Rereads u32.nullable (orNull .ofNat) :=
  rereads_nullable (rereads_natural _ _) fun _ => Json.noConfusion

end Decoder

open Decoder (rereads_strings rereads_nullable_string rereads_nullable_u64 rereads_nullable_u32)

theorem PatchKind.rereads_decode : Rereads decode fun kind => .str kind.name := by
  rintro - kind -
  cases kind <;> rfl

theorem ErrorType.rereads_decode : Rereads decode encode := by
  rintro - t -
  cases t <;> rfl

theorem ErrorType.rereads_nullable : Rereads (Decoder.nullable decode) (Decoder.orNull encode) :=
  Decoder.rereads_nullable rereads_decode fun _ => Json.noConfusion

/-! ## Patches -/

namespace PatchOperation

theorem rereads_decode : Rereads decode encode := by
  intro j op h
  obtain ⟨row, -, h⟩ := exists_of_bind_eq_ok h
  obtain ⟨kind, hkind, h⟩ := exists_of_bind_eq_ok h
  obtain ⟨path, hpath, h⟩ := exists_of_bind_eq_ok h
  cases h
  simp only [encode, Json.ofPairs]
  generalize hwritten : Members.ofList _ = written
  replace hkind := need_reread PatchKind.rereads_decode hwritten hkind (by simp)
  replace hpath := want_reread rereads_nullable_string hwritten hpath (by simp)
  -- the value is no field with `null`: it is whatever the row holds, and is written as that
  have hvalue : Members.find? "value" written = Members.find? "value" row := by
    simp [← hwritten]
  have hrow : shape.row (.obj written) = .ok written := Shape.row_ofPairs hwritten
    ⟨accepts_required hkind, accepts_optionalDefaulted hpath, Members.accepts_any _⟩
  simp only [decode, hrow, Decoder.ok_bind, hkind, hpath, hvalue]
  rfl

/-- The value that an operation is given: the member of that name, or the third item. -/
def givenValue? : Json → Option Json
  | .obj members => Members.find? "value" members
  | .arr items => items[2]?
  | _ => none

/-- An operation has the value that it is given, and none if it is given none. -/
theorem value_of_decode {j : Json} {op : PatchOperation} (h : decode j = .ok op) :
    op.value = givenValue? j := by
  obtain ⟨row, hrow, h⟩ := exists_of_bind_eq_ok h
  obtain ⟨kind, -, h⟩ := exists_of_bind_eq_ok h
  obtain ⟨path, -, h⟩ := exists_of_bind_eq_ok h
  cases h
  cases j with
  | obj members =>
    obtain ⟨_, -, hrow⟩ := exists_of_bind_eq_ok hrow
    obtain ⟨_, -, hrow⟩ := exists_of_bind_eq_ok hrow
    cases hrow
    rfl
  | arr items =>
    -- the row holds the items under the names of the fields
    obtain ⟨paired, hpaired, rfl⟩ := Decoder.exists_of_map_eq_ok hrow
    have hnames : shape.fields.map Field.name = ["op", "path", "value"] := rfl
    rw [Shape.pairItems_eq_zip hpaired, hnames]
    match items with
    | [] | [_] | [_, _] | _ :: _ :: _ :: _ => simp [givenValue?]
  | null | bool | num | str => cases hrow

theorem get?_value_encode (op : PatchOperation) : op.encode.get? "value" = op.value := by
  simp [encode, Json.ofPairs, Json.get?]

end PatchOperation

namespace PatchRequest

theorem rereads_decode : Rereads decode encode := by
  intro j request h
  obtain ⟨row, -, h⟩ := exists_of_bind_eq_ok h
  obtain ⟨schemas, hschemas, h⟩ := exists_of_bind_eq_ok h
  obtain ⟨operations, hoperations, h⟩ := exists_of_bind_eq_ok h
  cases h
  simp only [encode, Json.ofPairs]
  generalize hwritten : Members.ofList _ = written
  replace hschemas := needOr_reread rereads_strings rfl hwritten hschemas (by simp)
  replace hoperations := need_reread (rereads_list PatchOperation.rereads_decode)
    hwritten hoperations (by simp)
  have hrow : shape.row (.obj written) = .ok written := Shape.row_ofPairs hwritten
    ⟨accepts_defaulted hschemas, accepts_required hoperations⟩
  simp only [decode, hrow, Decoder.ok_bind, hschemas, hoperations]
  rfl

end PatchRequest

/-! ## Searches -/

namespace SearchRequest

theorem rereads_decode : Rereads decode encode := by
  intro j request h
  obtain ⟨row, -, h⟩ := exists_of_bind_eq_ok h
  obtain ⟨schemas, hschemas, h⟩ := exists_of_bind_eq_ok h
  obtain ⟨filter, hfilter, h⟩ := exists_of_bind_eq_ok h
  obtain ⟨startIndex, hstartIndex, h⟩ := exists_of_bind_eq_ok h
  obtain ⟨count, hcount, h⟩ := exists_of_bind_eq_ok h
  obtain ⟨sortBy, hsortBy, h⟩ := exists_of_bind_eq_ok h
  obtain ⟨sortOrder, hsortOrder, h⟩ := exists_of_bind_eq_ok h
  cases h
  simp only [encode, Json.ofPairs]
  generalize hwritten : Members.ofList _ = written
  replace hschemas := needOr_reread rereads_strings rfl hwritten hschemas (by simp)
  replace hfilter := want_reread rereads_nullable_string hwritten hfilter (by simp)
  replace hstartIndex := want_reread rereads_nullable_u64 hwritten hstartIndex (by simp)
  replace hcount := want_reread rereads_nullable_u64 hwritten hcount (by simp)
  replace hsortBy := want_reread rereads_nullable_string hwritten hsortBy (by simp)
  replace hsortOrder := want_reread rereads_nullable_string hwritten hsortOrder (by simp)
  have hrow : shape.row (.obj written) = .ok written := Shape.row_ofPairs hwritten
    ⟨accepts_defaulted hschemas, accepts_optionalDefaulted hfilter,
      accepts_optionalDefaulted hstartIndex, accepts_optionalDefaulted hcount,
      accepts_optionalDefaulted hsortBy, accepts_optionalDefaulted hsortOrder⟩
  simp only [decode, hrow, Decoder.ok_bind, hschemas, hfilter, hstartIndex, hcount, hsortBy,
    hsortOrder]
  rfl

end SearchRequest

/-! ## Bulk messages -/

namespace BulkOperation

theorem rereads_decode : Rereads decode encode := by
  intro j op h
  obtain ⟨row, -, h⟩ := exists_of_bind_eq_ok h
  obtain ⟨method, hmethod, h⟩ := exists_of_bind_eq_ok h
  obtain ⟨path, hpath, h⟩ := exists_of_bind_eq_ok h
  obtain ⟨bulkId, hbulkId, h⟩ := exists_of_bind_eq_ok h
  obtain ⟨data, hdata, h⟩ := exists_of_bind_eq_ok h
  cases h
  simp only [encode, Json.ofPairs]
  generalize hwritten : Members.ofList _ = written
  replace hmethod := need_reread rereads_string hwritten hmethod (by simp)
  replace hpath := needOr_reread rereads_string rfl hwritten hpath (by simp)
  replace hbulkId := want_reread rereads_nullable_string hwritten hbulkId (by simp)
  replace hdata := want_reread rereads_nullable_any hwritten hdata (by simp)
  have hrow : shape.row (.obj written) = .ok written := Shape.row_ofPairs hwritten
    ⟨accepts_required hmethod, accepts_defaulted hpath, accepts_optionalDefaulted hbulkId,
      accepts_optionalDefaulted hdata⟩
  simp only [decode, hrow, Decoder.ok_bind, hmethod, hpath, hbulkId, hdata]
  rfl

end BulkOperation

namespace BulkRequest

theorem rereads_decode : Rereads decode encode := by
  intro j request h
  obtain ⟨row, -, h⟩ := exists_of_bind_eq_ok h
  obtain ⟨schemas, hschemas, h⟩ := exists_of_bind_eq_ok h
  obtain ⟨operations, hoperations, h⟩ := exists_of_bind_eq_ok h
  obtain ⟨failOnErrors, hfailOnErrors, h⟩ := exists_of_bind_eq_ok h
  cases h
  simp only [encode, Json.ofPairs]
  generalize hwritten : Members.ofList _ = written
  replace hschemas := needOr_reread rereads_strings rfl hwritten hschemas (by simp)
  replace hoperations := need_reread (rereads_list BulkOperation.rereads_decode)
    hwritten hoperations (by simp)
  replace hfailOnErrors := want_reread rereads_nullable_u32 hwritten hfailOnErrors (by simp)
  have hrow : shape.row (.obj written) = .ok written := Shape.row_ofPairs hwritten
    ⟨accepts_defaulted hschemas, accepts_required hoperations,
      accepts_optionalDefaulted hfailOnErrors⟩
  simp only [decode, hrow, Decoder.ok_bind, hschemas, hoperations, hfailOnErrors]
  rfl

end BulkRequest

namespace BulkOutcome

theorem rereads_decode : Rereads decode encode := by
  intro j outcome h
  obtain ⟨row, -, h⟩ := exists_of_bind_eq_ok h
  obtain ⟨method, hmethod, h⟩ := exists_of_bind_eq_ok h
  obtain ⟨bulkId, hbulkId, h⟩ := exists_of_bind_eq_ok h
  obtain ⟨status, hstatus, h⟩ := exists_of_bind_eq_ok h
  obtain ⟨location, hlocation, h⟩ := exists_of_bind_eq_ok h
  obtain ⟨response, hresponse, h⟩ := exists_of_bind_eq_ok h
  cases h
  simp only [encode, Json.ofPairs]
  generalize hwritten : Members.ofList _ = written
  replace hmethod := need_reread rereads_string hwritten hmethod (by simp)
  replace hbulkId := want_reread rereads_nullable_string hwritten hbulkId (by simp)
  replace hstatus := need_reread rereads_string hwritten hstatus (by simp)
  replace hlocation := want_reread rereads_nullable_string hwritten hlocation (by simp)
  replace hresponse := want_reread rereads_nullable_any hwritten hresponse (by simp)
  have hrow : shape.row (.obj written) = .ok written := Shape.row_ofPairs hwritten
    ⟨accepts_required hmethod, accepts_optional hbulkId, accepts_required hstatus,
      accepts_optional hlocation, accepts_optional hresponse⟩
  simp only [decode, hrow, Decoder.ok_bind, hmethod, hbulkId, hstatus, hlocation, hresponse]
  rfl

end BulkOutcome

namespace BulkResponse

theorem rereads_decode : Rereads decode encode := by
  intro j response h
  obtain ⟨row, -, h⟩ := exists_of_bind_eq_ok h
  obtain ⟨schemas, hschemas, h⟩ := exists_of_bind_eq_ok h
  obtain ⟨operations, hoperations, h⟩ := exists_of_bind_eq_ok h
  cases h
  simp only [encode, Json.ofPairs]
  generalize hwritten : Members.ofList _ = written
  replace hschemas := need_reread rereads_strings hwritten hschemas (by simp)
  replace hoperations := need_reread (rereads_list BulkOutcome.rereads_decode)
    hwritten hoperations (by simp)
  have hrow : shape.row (.obj written) = .ok written := Shape.row_ofPairs hwritten
    ⟨accepts_required hschemas, accepts_required hoperations⟩
  simp only [decode, hrow, Decoder.ok_bind, hschemas, hoperations]
  rfl

end BulkResponse

/-! ## Errors -/

namespace ErrorResponse

theorem rereads_decode : Rereads decode encode := by
  intro j response h
  obtain ⟨row, -, h⟩ := exists_of_bind_eq_ok h
  obtain ⟨schemas, hschemas, h⟩ := exists_of_bind_eq_ok h
  obtain ⟨status, hstatus, h⟩ := exists_of_bind_eq_ok h
  obtain ⟨scimType, hscimType, h⟩ := exists_of_bind_eq_ok h
  obtain ⟨detail, hdetail, h⟩ := exists_of_bind_eq_ok h
  cases h
  simp only [encode, Json.ofPairs]
  generalize hwritten : Members.ofList _ = written
  replace hschemas := need_reread rereads_strings hwritten hschemas (by simp)
  replace hstatus := need_reread rereads_string hwritten hstatus (by simp)
  replace hscimType := want_reread ErrorType.rereads_nullable hwritten hscimType (by simp)
  replace hdetail := need_reread rereads_string hwritten hdetail (by simp)
  have hrow : shape.row (.obj written) = .ok written := Shape.row_ofPairs hwritten
    ⟨accepts_required hschemas, accepts_required hstatus, accepts_optional hscimType,
      accepts_required hdetail⟩
  simp only [decode, hrow, Decoder.ok_bind, hschemas, hstatus, hscimType, hdetail]
  rfl

end ErrorResponse

/-! ## Attributes of schemas -/

namespace SchemaAttribute

theorem encodeAll_eq_map (attributes : List SchemaAttribute) :
    encodeAll attributes = attributes.map encode := by
  induction attributes with
  | nil => rfl
  | cons a attributes ih => rw [encodeAll, ih, List.map_cons]

/-- An attribute that was read with some number of levels is read again with as many as its encoding
is deep. -/
theorem decodeWithin_encode {levels : Nat} {j : Json} {a : SchemaAttribute}
    (h : decodeWithin levels j = .ok a) {more : Nat} (hmore : a.encode.depth < more) :
    decodeWithin more a.encode = .ok a := by
  induction levels generalizing j a more with
  | zero => cases h
  | succ levels ih =>
    obtain ⟨more, rfl⟩ := Nat.exists_eq_add_one_of_ne_zero (Nat.ne_zero_of_lt hmore)
    obtain ⟨row, -, h⟩ := exists_of_bind_eq_ok h
    obtain ⟨name, hname, h⟩ := exists_of_bind_eq_ok h
    obtain ⟨type, htype, h⟩ := exists_of_bind_eq_ok h
    obtain ⟨multiValued, hmultiValued, h⟩ := exists_of_bind_eq_ok h
    obtain ⟨description, hdescription, h⟩ := exists_of_bind_eq_ok h
    obtain ⟨required, hrequired, h⟩ := exists_of_bind_eq_ok h
    obtain ⟨caseExact, hcaseExact, h⟩ := exists_of_bind_eq_ok h
    obtain ⟨mutability, hmutability, h⟩ := exists_of_bind_eq_ok h
    obtain ⟨returned, hreturned, h⟩ := exists_of_bind_eq_ok h
    obtain ⟨uniqueness, huniqueness, h⟩ := exists_of_bind_eq_ok h
    obtain ⟨subs, hsubs, h⟩ := exists_of_bind_eq_ok h
    cases h
    simp only [encode, Json.ofPairs] at hmore ⊢
    generalize hwritten : Members.ofList _ = written at hmore ⊢
    replace hname := need_reread rereads_string hwritten hname (by simp)
    replace htype := need_reread rereads_string hwritten htype (by simp)
    replace hmultiValued := need_reread rereads_boolean hwritten hmultiValued (by simp)
    replace hdescription := want_reread rereads_nullable_string hwritten hdescription (by simp)
    replace hrequired := need_reread rereads_boolean hwritten hrequired (by simp)
    replace hcaseExact := need_reread rereads_boolean hwritten hcaseExact (by simp)
    replace hmutability := need_reread rereads_string hwritten hmutability (by simp)
    replace hreturned := need_reread rereads_string hwritten hreturned (by simp)
    replace huniqueness := need_reread rereads_string hwritten huniqueness (by simp)
    have hlisted : Members.find? "subAttributes" written
        = if subs ≠ [] then some (.arr (subs.map encode)) else none := by
      simp [← hwritten, encodeAll_eq_map]
    -- the sub-attributes are two levels further in
    have hbelow : ∀ sub ∈ subs, decodeWithin more sub.encode = .ok sub := by
      intro sub hsub
      obtain ⟨i, hi⟩ := Members.exists_of_mem_of_needOr_nil hsubs sub hsub
      rw [if_pos (List.ne_nil_of_mem hsub)] at hlisted
      have houter := Json.depth_le_depthMembers (Members.mem_of_find? hlisted)
      have hinner := Json.depth_le_depthItems (List.mem_map_of_mem (f := encode) hsub)
      simp only [Json.depth] at hmore houter
      exact ih hi (by omega)
    replace hsubs := Members.needOr_nil_eq_ok hbelow hlisted
    have hrow : (shape (decodeWithin more)).row (.obj written) = .ok written :=
      Shape.row_ofPairs hwritten
        ⟨accepts_required hname, accepts_required htype, accepts_required hmultiValued,
          accepts_optional hdescription, accepts_required hrequired, accepts_required hcaseExact,
          accepts_required hmutability, accepts_required hreturned, accepts_required huniqueness,
          accepts_defaulted hsubs⟩
    simp only [decodeWithin, hrow, Decoder.ok_bind, hname, htype, hmultiValued, hdescription,
      hrequired, hcaseExact, hmutability, hreturned, huniqueness, hsubs]
    rfl

theorem rereads_decode : Rereads decode encode :=
  fun _ _ h => decodeWithin_encode h (Nat.lt_succ_self _)

end SchemaAttribute

/-! ## All messages -/

/-- Whatever is read as a patch operation, a patch request, a search request, a bulk request, an
operation of one, a bulk response, an operation of one, an attribute of a schema or an error, is
read again from its own encoding, and as the same message.  A patch operation keeps the value that
it was given through its encoding, so that `null` stays apart from no value. -/
theorem messages_reread :
    Rereads PatchOperation.decode PatchOperation.encode ∧
      Rereads PatchRequest.decode PatchRequest.encode ∧
      Rereads SearchRequest.decode SearchRequest.encode ∧
      Rereads BulkRequest.decode BulkRequest.encode ∧
      Rereads BulkOperation.decode BulkOperation.encode ∧
      Rereads BulkResponse.decode BulkResponse.encode ∧
      Rereads BulkOutcome.decode BulkOutcome.encode ∧
      Rereads SchemaAttribute.decode SchemaAttribute.encode ∧
      Rereads ErrorResponse.decode ErrorResponse.encode ∧
      ∀ j op, PatchOperation.decode j = .ok op →
        op.value = PatchOperation.givenValue? j
          ∧ op.encode.get? "value" = PatchOperation.givenValue? j := by
  refine ⟨PatchOperation.rereads_decode, PatchRequest.rereads_decode, SearchRequest.rereads_decode,
    BulkRequest.rereads_decode, BulkOperation.rereads_decode, BulkResponse.rereads_decode,
    BulkOutcome.rereads_decode, SchemaAttribute.rereads_decode, ErrorResponse.rereads_decode, ?_⟩
  intro j op h
  have hvalue := PatchOperation.value_of_decode h
  exact ⟨hvalue, op.get?_value_encode.trans hvalue⟩

/-- A bulk request that creates one user. -/
def BulkRequest.creatingAda : BulkRequest where
  operations :=
    [{ method := "POST", path := "/Users", bulkId := some "ada"
       data := some (.obj [("userName", .str "ada")]) }]
  failOnErrors := some 1

/-- That request and its operation in array form. -/
def BulkRequest.positionalAda : Json :=
  .arr [.arr [], .arr [.arr [.str "POST", .str "/Users", .str "ada",
    .obj [("userName", .str "ada")]]], .num (.int 1)]

/-- A complex attribute with one sub-attribute. -/
def SchemaAttribute.nickname : SchemaAttribute where
  name := "nickname"
  type := "complex"
  subAttributes := [{ name := "value", type := "string", caseExact := true }]

/-- That attribute with its sub-attribute in array form. -/
def SchemaAttribute.nestedNickname : Json :=
  .obj [("caseExact", .bool false), ("multiValued", .bool false), ("mutability", .str "readWrite"),
    ("name", .str "nickname"), ("required", .bool false), ("returned", .str "default"),
    ("subAttributes", .arr [.arr [.str "value", .str "string", .bool false, .null, .bool false,
      .bool true, .str "readWrite", .str "default", .str "none"]]),
    ("type", .str "complex"), ("uniqueness", .str "none")]

/-- An operation in array form that replaces a title by `null` is read again as one that does, and
one that is given no value as one that has none.  A bulk request is read again with its operation,
and an attribute with its sub-attribute. -/
theorem messages_reread_of_null :
    PatchOperation.decode (.arr [.str "Replace", .str "title", .null])
        = .ok ⟨.replace, some "title", some .null⟩ ∧
      PatchOperation.decode (PatchOperation.encode ⟨.replace, some "title", some .null⟩)
        = .ok ⟨.replace, some "title", some .null⟩ ∧
      PatchOperation.decode (.arr [.str "Replace", .str "title"])
        = .ok ⟨.replace, some "title", none⟩ ∧
      PatchOperation.decode (PatchOperation.encode ⟨.replace, some "title", none⟩)
        = .ok ⟨.replace, some "title", none⟩ ∧
      BulkRequest.decode BulkRequest.positionalAda = .ok .creatingAda ∧
      BulkRequest.decode (BulkRequest.encode .creatingAda) = .ok .creatingAda ∧
      SchemaAttribute.decode SchemaAttribute.nestedNickname = .ok .nickname ∧
      SchemaAttribute.decode (SchemaAttribute.encode .nickname) = .ok .nickname := by
  obtain ⟨hoperation, -, -, hrequest, -, -, -, hattribute, -⟩ := messages_reread
  have hbulk : BulkRequest.decode BulkRequest.positionalAda = .ok .creatingAda := rfl
  have hnested : SchemaAttribute.decode SchemaAttribute.nestedNickname = .ok .nickname :=
    rfl
  exact ⟨rfl, hoperation (.arr [.str "Replace", .str "title", .null]) _ rfl, rfl,
    hoperation (.arr [.str "Replace", .str "title"]) _ rfl, hbulk, hrequest _ _ hbulk, hnested,
    hattribute _ _ hnested⟩

end Scim
