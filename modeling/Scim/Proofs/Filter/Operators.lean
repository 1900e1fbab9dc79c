import Scim.Proofs.Filter.Agreement
import Scim.Proofs.Json.Sorted

/-!
# Operators in query documents

A document store takes the keys of a query for attribute paths, unless they begin with a dollar
sign: those are its operators.  A predicate is rendered node by node, so every object in its query
document is the rendering of a node or the condition of a leaf
(`Predicate.nodeOrCondition_of_at?`), and its operators are those of these two
(`Predicate.operator_keys`).  There is a third place for a dollar sign: paths are written as they
stand.  A filter text may name a path that begins with one, and every such path becomes an operator
of the store, unless it stands in a comparison without a value, which is not rendered.
-/

namespace Scim

/-! ## Places in a value -/

namespace Json

/-- A value that is neither an array nor an object. -/
def isScalar : Json → Bool
  | arr _ | obj _ => false
  | _ => true

/-- A step into a value: to what an object holds under a key, or to an item of an array. -/
inductive Turn where
  | key (name : String)
  | item (index : Nat)
deriving DecidableEq, Repr

/-- The value at a place, which is a list of turns. -/
def at? : List Turn → Json → Option Json
  | [], j => some j
  | .key name :: place, obj members => (Members.find? name members).bind (at? place)
  | .item index :: place, arr items => items[index]?.bind (at? place)
  | _ :: _, _ => none

end Json

namespace Predicate

open Json (Turn)

/-- An object with one member leads on under its key alone. -/
theorem at?_field {path : String} {condition j : Json} {turn : Turn} {place : List Turn}
    (h : (field path condition).at? (turn :: place) = some j) :
    turn = .key path ∧ condition.at? place = some j := by
  cases turn with
  | item index => cases h
  | key name =>
    obtain ⟨held, hheld, hrest⟩ := Option.bind_eq_some_iff.mp h
    by_cases hname : path = name
    · subst hname
      obtain rfl : condition = held := by simpa [Members.find?] using hheld
      exact ⟨rfl, hrest⟩
    · simp [Members.find?, hname] at hheld

theorem queries_eq_map (parts : List Predicate) : queries parts = parts.map query := by
  induction parts with
  | nil => rfl
  | cons p ps ih => rw [queries, ih, List.map_cons]

/-! ## Nodes -/

/-- The operator and the parts of a logical node. -/
def logical? : Predicate → Option (String × List Predicate)
  | and parts => some ("$and", parts)
  | or parts => some ("$or", parts)
  | _ => none

/-- The path and the condition of a leaf. -/
def leaf? : Predicate → Option (String × Json)
  | nothing => some ("_id", field "$exists" (.bool false))
  | present path => some (path, field "$exists" (.bool true))
  | equals path value => some (path, value)
  | pattern path p => some (path, .obj [("$options", .str "i"), ("$regex", .str p)])
  | _ => none

theorem query_of_logical? {p : Predicate} {operator : String} {parts : List Predicate}
    (h : p.logical? = some (operator, parts)) :
    p.query = field operator (.arr (parts.map query)) := by
  cases p <;> cases h <;> simp only [query, queries_eq_map]

theorem query_of_leaf? {p : Predicate} {path : String} {condition : Json}
    (h : p.leaf? = some (path, condition)) : p.query = field path condition := by
  cases p <;> cases h <;> rfl

/-- A predicate is logical, a leaf, or without any condition. -/
theorem eq_all_of_eq_none {p : Predicate} (hlogical : p.logical? = none) (hleaf : p.leaf? = none) :
    p = .all := by
  cases p with
  | all => rfl
  | and | or => cases hlogical
  | nothing | present | equals | pattern => cases hleaf

/-- A predicate has a node, which is rendered at a place of its query document. -/
inductive NodeAt : Predicate → List Turn → Predicate → Prop
  | root (p : Predicate) : NodeAt p [] p
  | part {p : Predicate} {operator : String} {parts : List Predicate} {index : Nat}
      {part node : Predicate} {place : List Turn} (logical : p.logical? = some (operator, parts))
      (member : parts[index]? = some part) (inside : NodeAt part place node) :
      NodeAt p (.key operator :: .item index :: place) node

/-- A node is rendered where it stands. -/
theorem NodeAt.at?_query {p node : Predicate} {place : List Turn} (h : NodeAt p place node) :
    p.query.at? place = some node.query := by
  induction h with
  | root p => rfl
  | part logical member inside ih =>
    simp [query_of_logical? logical, field, Json.at?, Members.find?, member, ih]

/-! ## Objects -/

/-- The object at a place of a query document is the rendering of the node that stands there, or it
lies in the condition of a leaf. -/
def NodeOrCondition (p : Predicate) (place : List Turn) (members : Members) : Prop :=
  (∃ node, NodeAt p place node ∧ node.query = .obj members)
    ∨ ∃ node before path condition rest, NodeAt p before node
      ∧ node.leaf? = some (path, condition) ∧ place = before ++ .key path :: rest
      ∧ condition.at? rest = some (.obj members)

theorem NodeOrCondition.of_part {p part : Predicate} {operator : String} {parts : List Predicate}
    {index : Nat} {place : List Turn} {members : Members}
    (h : part.NodeOrCondition place members) (hlogical : p.logical? = some (operator, parts))
    (hpart : parts[index]? = some part) :
    p.NodeOrCondition (.key operator :: .item index :: place) members := by
  rcases h with ⟨node, hnode, hquery⟩
    | ⟨node, before, path, condition, rest, hnode, hleaf, rfl, hrest⟩
  · exact Or.inl ⟨node, .part hlogical hpart hnode, hquery⟩
  · exact Or.inr ⟨node, _, path, condition, rest, .part hlogical hpart hnode, hleaf, rfl, hrest⟩

/-- An object behind the operator of a logical node lies in the rendering of one of the parts. -/
theorem exists_part_of_at? {parts : List Predicate} {place : List Turn} {members : Members}
    (h : (Json.arr (parts.map query)).at? place = some (.obj members)) :
    ∃ index part rest, place = .item index :: rest ∧ parts[index]? = some part
      ∧ part.query.at? rest = some (.obj members) := by
  match place with
  | [] | .key _ :: _ => cases h
  | .item index :: rest =>
    obtain ⟨query, hquery, hrest⟩ := Option.bind_eq_some_iff.mp h
    rw [List.getElem?_map] at hquery
    obtain ⟨part, hpart, rfl⟩ := Option.map_eq_some_iff.mp hquery
    exact ⟨index, part, rest, rfl, hpart, hrest⟩

/-- Every object in a query document is one of the two. -/
theorem nodeOrCondition_of_at? (p : Predicate) (place : List Turn) {members : Members}
    (h : p.query.at? place = some (.obj members)) : p.NodeOrCondition place members := by
  match place with
  | [] => exact Or.inl ⟨p, .root p, Option.some.inj h⟩
  | turn :: place =>
    cases hlogical : p.logical? with
    | some logical =>
      obtain ⟨operator, parts⟩ := logical
      rw [query_of_logical? hlogical] at h
      obtain ⟨rfl, hparts⟩ := at?_field h
      obtain ⟨index, part, rest, hplace, hpart, hrest⟩ := exists_part_of_at? hparts
      have hshorter : rest.length < place.length + 1 := by
        rw [hplace, List.length_cons]
        omega
      rw [hplace]
      exact (nodeOrCondition_of_at? part rest hrest).of_part hlogical hpart
    | none =>
      cases hleaf : p.leaf? with
      | some leaf =>
        obtain ⟨path, condition⟩ := leaf
        rw [query_of_leaf? hleaf] at h
        obtain ⟨rfl, hcondition⟩ := at?_field h
        exact Or.inr ⟨p, [], path, condition, place, .root p, hleaf, rfl, hcondition⟩
      | none =>
        rw [eq_all_of_eq_none hlogical hleaf] at h
        cases turn <;> simp [query, Json.at?, Members.find?] at h
termination_by place.length

/-! ## Leaves of compiled filters -/

theorem logical?_of_leaf? {p : Predicate} {leaf : String × Json} (h : p.leaf? = some leaf) :
    p.logical? = none := by
  cases p with
  | and | or => cases h
  | all | nothing | present | equals | pattern => rfl

/-- A leaf has no node but itself. -/
theorem NodeAt.eq_of_leaf? {p node : Predicate} {place : List Turn} (h : NodeAt p place node)
    (hleaf : p.leaf?.isSome = true) : node = p := by
  obtain ⟨leaf, hleaf⟩ := Option.isSome_iff_exists.mp hleaf
  cases h with
  | root => rfl
  | part logical =>
    rw [logical?_of_leaf? hleaf] at logical
    cases logical

/-- A leaf below a logical node is one of its parts. -/
theorem NodeAt.exists_part {p node : Predicate} {place : List Turn} (h : NodeAt p place node)
    {operator : String} {parts : List Predicate} (hlogical : p.logical? = some (operator, parts))
    {leaf : String × Json} (hleaf : node.leaf? = some leaf) :
    ∃ part ∈ parts, ∃ rest, NodeAt part rest node := by
  cases h with
  | root =>
    rw [logical?_of_leaf? hleaf] at hlogical
    cases hlogical
  | part logical member inside =>
    rw [hlogical] at logical
    cases logical
    exact ⟨_, List.mem_of_getElem? member, _, inside⟩

/-- The operators that conditions are made of. -/
def conditionOperators : List String :=
  ["$exists", "$options", "$regex"]

/-- A condition is a scalar, or it holds scalars under operators of its own. -/
def IsCondition (condition : Json) : Prop :=
  condition.isScalar = true ∨ ∃ members, condition = .obj members
    ∧ ∀ member ∈ members, member.1 ∈ conditionOperators ∧ member.2.isScalar = true

/-- There is no object inside of a scalar. -/
theorem at?_ne_of_isScalar {j : Json} (h : j.isScalar = true) (place : List Turn)
    (members : Members) : j.at? place ≠ some (.obj members) := by
  intro hplace
  cases j with
  | arr | obj => cases h
  | null | bool | num | str =>
    match place with
    | [] | _ :: _ => simp [Json.at?] at hplace

/-- Inside of a condition there is no further object. -/
theorem IsCondition.eq_of_at? {condition : Json} (h : IsCondition condition) {place : List Turn}
    {members : Members} (hplace : condition.at? place = some (.obj members)) :
    place = [] ∧ condition = .obj members := by
  rcases h with h | ⟨held, rfl, hheld⟩
  · exact absurd hplace (at?_ne_of_isScalar h place members)
  · match place with
    | [] => exact ⟨rfl, Option.some.inj hplace⟩
    | .item _ :: _ => cases hplace
    | .key name :: rest =>
      obtain ⟨value, hvalue, hrest⟩ := Option.bind_eq_some_iff.mp hplace
      have hscalar := (hheld _ (Members.mem_of_find? hvalue)).2
      exact absurd hrest (at?_ne_of_isScalar hscalar rest members)

theorem isCondition_singleton {operator : String} (h : operator ∈ conditionOperators) {value : Json}
    (hvalue : value.isScalar = true) : IsCondition (field operator value) :=
  Or.inr ⟨[(operator, value)], rfl, by simp [h, hvalue]⟩

end Predicate

namespace Filter

open Json (Turn)
open Predicate (IsCondition)

theorem isScalar_operandValue (text : String) : (operandValue text).isScalar = true := by
  rcases operandValue_cases text with ⟨b, h⟩ | ⟨n, h⟩ | h <;> rw [h] <;> rfl

theorem leaf?_comparePredicate (path : String) (comparison : Comparison) (value : String) :
    ∃ condition, (comparePredicate path comparison value).leaf? = some (path, condition)
      ∧ IsCondition condition := by
  cases comparison with
  | equal => exact ⟨_, rfl, Or.inl (isScalar_operandValue value)⟩
  | contains | startsWith =>
    exact ⟨_, rfl, Or.inr ⟨_, rfl, by simp [Predicate.conditionOperators, Json.isScalar]⟩⟩

/-- The leaves of a compiled filter are at its paths, unless something is missing. -/
theorem leaf_of_nodeAt {filter : Filter} {place : List Turn} {node : Predicate}
    (h : filter.compile.NodeAt place node) {path : String} {condition : Json}
    (hleaf : node.leaf? = some (path, condition)) :
    (path = "_id" ∨ path ∈ filter.readPaths) ∧ IsCondition condition := by
  have hexists (b : Bool) : IsCondition (Predicate.field "$exists" (.bool b)) :=
    Predicate.isCondition_singleton (by decide) rfl
  induction filter generalizing place with
  | present name =>
    obtain rfl := h.eq_of_leaf? rfl
    cases hleaf
    exact ⟨Or.inr List.mem_cons_self, hexists true⟩
  | compare name comparison value =>
    cases value with
    | none =>
      obtain rfl := h.eq_of_leaf? rfl
      cases hleaf
      exact ⟨Or.inl rfl, hexists false⟩
    | some value =>
      obtain ⟨written, hwritten, hcondition⟩ := leaf?_comparePredicate name comparison value
      obtain rfl := h.eq_of_leaf? (Option.isSome_iff_exists.mpr ⟨_, hwritten⟩)
      rw [compile, hwritten] at hleaf
      cases hleaf
      exact ⟨Or.inr List.mem_cons_self, hcondition⟩
  | and left right ihLeft ihRight | or left right ihLeft ihRight =>
    obtain ⟨part, hpart, rest, hnode⟩ := h.exists_part rfl hleaf
    rcases List.mem_pair.mp hpart with rfl | rfl
    · obtain ⟨hpath, hcondition⟩ := ihLeft hnode
      exact ⟨hpath.imp_right (List.mem_append_left _), hcondition⟩
    · obtain ⟨hpath, hcondition⟩ := ihRight hnode
      exact ⟨hpath.imp_right (List.mem_append_right _), hcondition⟩
  | missing =>
    obtain rfl := h.eq_of_leaf? rfl
    cases hleaf
    exact ⟨Or.inl rfl, hexists false⟩

/-- At every path of a filter there is a leaf. -/
theorem exists_leaf_of_mem_readPaths {filter : Filter} {path : String}
    (h : path ∈ filter.readPaths) :
    ∃ place node condition, filter.compile.NodeAt place node
      ∧ node.leaf? = some (path, condition) := by
  induction filter with
  | present name =>
    obtain rfl := List.mem_singleton.mp h
    exact ⟨[], _, _, .root _, rfl⟩
  | compare name comparison value =>
    cases value with
    | none => cases h
    | some value =>
      obtain rfl := List.mem_singleton.mp h
      obtain ⟨condition, hleaf, -⟩ := leaf?_comparePredicate path comparison value
      exact ⟨[], _, condition, .root _, hleaf⟩
  | and left right ihLeft ihRight | or left right ihLeft ihRight =>
    rcases List.mem_append.mp h with h | h
    · obtain ⟨place, node, condition, hnode, hleaf⟩ := ihLeft h
      have hpart : [left.compile, right.compile][0]? = some left.compile := rfl
      exact ⟨_, node, condition, .part rfl hpart hnode, hleaf⟩
    · obtain ⟨place, node, condition, hnode, hleaf⟩ := ihRight h
      have hpart : [left.compile, right.compile][1]? = some right.compile := rfl
      exact ⟨_, node, condition, .part rfl hpart hnode, hleaf⟩
  | missing => cases h

end Filter

/-! ## Keys of query documents -/

/-- A document store takes a key for one of its operators. -/
def IsOperator (key : String) : Prop :=
  key.toList.head? = some '$'

instance (key : String) : Decidable (IsOperator key) :=
  inferInstanceAs (Decidable (key.toList.head? = some '$'))

namespace Predicate

open Json (Turn)

/-- A predicate that is compiled from a text is that of a filter, or matches everything. -/
theorem ofText_cases (text : Option String) :
    (ofText text = .all ∧ Filter.readPathsOfText text = [])
      ∨ ∃ filter : Filter, ofText text = filter.compile
        ∧ Filter.readPathsOfText text = filter.readPaths := by
  cases h : text.bind Filter.ofText? with
  | none => exact Or.inl ⟨by rw [ofText, h], by rw [Filter.readPathsOfText, h]; rfl⟩
  | some filter => exact Or.inr ⟨filter, by rw [ofText, h], by rw [Filter.readPathsOfText, h]; rfl⟩

theorem leaf_of_nodeAt_ofText {text : Option String} {place : List Turn} {node : Predicate}
    (h : (ofText text).NodeAt place node) {path : String} {condition : Json}
    (hleaf : node.leaf? = some (path, condition)) :
    (path = "_id" ∨ path ∈ Filter.readPathsOfText text) ∧ IsCondition condition := by
  rcases ofText_cases text with ⟨hall, -⟩ | ⟨filter, hcompile, hpaths⟩
  · rw [hall] at h
    cases h with
    | root => cases hleaf
    | part logical => cases logical
  · rw [hpaths]
    rw [hcompile] at h
    exact Filter.leaf_of_nodeAt h hleaf

/-- The keys of a condition are operators. -/
theorem IsCondition.operators {members : Members} (h : IsCondition (.obj members)) {key : String}
    {value : Json} (hmember : (key, value) ∈ members) : key ∈ conditionOperators := by
  rcases h with h | ⟨held, heq, hheld⟩
  · cases h
  · cases heq
    exact (hheld _ hmember).1

/-- The key of a node is its operator or its path. -/
theorem node_key {node : Predicate} {members : Members} (h : node.query = .obj members)
    {key : String} {value : Json} (hmember : (key, value) ∈ members) :
    (∃ parts, (node = .and parts ∧ key = "$and" ∨ node = .or parts ∧ key = "$or")
        ∧ value = .arr (parts.map query))
      ∨ node.leaf? = some (key, value) := by
  cases hleaf : node.leaf? with
  | some leaf =>
    obtain ⟨path, condition⟩ := leaf
    rw [query_of_leaf? hleaf] at h
    obtain rfl := Json.obj.inj h
    cases List.mem_singleton.mp hmember
    exact Or.inr rfl
  | none =>
    cases node with
    | nothing | present | equals | pattern => cases hleaf
    | all =>
      obtain rfl := Json.obj.inj h
      cases hmember
    | and parts | or parts =>
      rw [query_of_logical? rfl] at h
      obtain rfl := Json.obj.inj h
      cases List.mem_singleton.mp hmember
      exact Or.inl ⟨parts, by simp, rfl⟩

/-- The operators of a query document.  Whatever key of an object in it begins with a dollar sign
belongs to a node of the predicate: it is the operator of a logical node and holds the array of its
parts, or it stands in the condition of a leaf, or it is the path of a leaf, which the filter text
names.  Every path of a presence test or of a comparison with a value in the filter text is a key,
so it becomes an operator exactly if it begins with a dollar sign. -/
theorem operator_keys (text : Option String) :
    (∀ place members, (ofText text).query.at? place = some (.obj members) →
      ∀ key value, (key, value) ∈ members → IsOperator key →
        (∃ node parts, (ofText text).NodeAt place node
            ∧ (node = .and parts ∧ key = "$and" ∨ node = .or parts ∧ key = "$or")
            ∧ value = .arr (parts.map query))
          ∨ (∃ node before path, (ofText text).NodeAt before node
            ∧ node.leaf? = some (path, .obj members) ∧ place = before ++ [.key path]
            ∧ key ∈ conditionOperators)
          ∨ ∃ node, (ofText text).NodeAt place node ∧ node.leaf? = some (key, value)
            ∧ key ∈ Filter.readPathsOfText text)
      ∧ ∀ path ∈ Filter.readPathsOfText text, ∃ place node condition,
        (ofText text).NodeAt place node ∧ node.leaf? = some (path, condition)
          ∧ (ofText text).query.at? place = some (.obj [(path, condition)]) := by
  constructor
  · intro place members hplace key value hmember hoperator
    rcases nodeOrCondition_of_at? _ place hplace with
      ⟨node, hnode, hquery⟩ | ⟨node, before, path, condition, rest, hnode, hleaf, rfl, hrest⟩
    · rcases node_key hquery hmember with ⟨parts, hkey, hvalue⟩ | hleaf
      · exact Or.inl ⟨node, parts, hnode, hkey, hvalue⟩
      · rcases (leaf_of_nodeAt_ofText hnode hleaf).1 with rfl | hpath
        · exact absurd hoperator (by decide)
        · exact Or.inr (Or.inr ⟨node, hnode, hleaf, hpath⟩)
    · have hcondition := (leaf_of_nodeAt_ofText hnode hleaf).2
      obtain ⟨rfl, rfl⟩ := hcondition.eq_of_at? hrest
      exact Or.inr (Or.inl ⟨node, before, path, hnode, hleaf, rfl, hcondition.operators hmember⟩)
  · intro path hpath
    rcases ofText_cases text with ⟨-, hpaths⟩ | ⟨filter, hcompile, hpaths⟩
    · rw [hpaths] at hpath
      cases hpath
    · rw [hpaths] at hpath
      obtain ⟨place, node, condition, hnode, hleaf⟩ := Filter.exists_leaf_of_mem_readPaths hpath
      rw [hcompile]
      refine ⟨place, node, condition, hnode, hleaf, ?_⟩
      rw [hnode.at?_query, query_of_leaf? hleaf]
      rfl

/-- A filter text that names an operator of the store. -/
def whereText : String :=
  "title sw \"C\" or $where eq \"x\""

theorem ofText_whereText : ofText (some whereText)
    = .or [.pattern "title" "^C", .equals "$where" (.str "x")] := by
  have hfilter : Filter.ofText? whereText = some (.or (.compare "title" .startsWith (some "C"))
      (.compare "$where" .equal (some "x"))) := by decide +kernel
  rw [ofText, Option.bind_some, hfilter]
  rfl

/-- The path of the second comparison becomes an operator. -/
theorem operator_keys_of_where :
    (ofText (some whereText)).query.at? [.key "$or", .item 1] = some (.obj [("$where", .str "x")])
      ∧ IsOperator "$where"
      ∧ ∃ node, (ofText (some whereText)).NodeAt [.key "$or", .item 1] node
        ∧ node.leaf? = some ("$where", .str "x")
        ∧ "$where" ∈ Filter.readPathsOfText (some whereText) := by
  have hplace : (ofText (some whereText)).query.at? [.key "$or", .item 1]
      = some (.obj [("$where", .str "x")]) := by
    rw [ofText_whereText]
    rfl
  have hoperator : IsOperator "$where" := by decide
  refine ⟨hplace, hoperator, ?_⟩
  rcases (operator_keys (some whereText)).1 _ _ hplace _ _ List.mem_cons_self hoperator with
    ⟨node, parts, -, hkey, -⟩ | ⟨node, before, path, -, -, -, hkey⟩ | hnode
  · rcases hkey with ⟨-, hkey⟩ | ⟨-, hkey⟩
    · exact absurd hkey (by decide)
    · exact absurd hkey (by decide)
  · exact absurd hkey (by decide)
  · exact hnode

/-- A path of a filter text becomes an operator that is none of the rendering's own. -/
theorem where_becomes_operator :
    (ofText (some "$where eq \"x\"")).query = .obj [("$where", .str "x")] ∧ IsOperator "$where"
      ∧ "$where" ∉ "$and" :: "$or" :: conditionOperators := by
  have hfilter : Filter.ofText? "$where eq \"x\""
      = some (.compare "$where" .equal (some "x")) := by decide +kernel
  refine ⟨?_, by decide, by decide⟩
  rw [ofText, Option.bind_some, hfilter]
  rfl

end Predicate

end Scim
