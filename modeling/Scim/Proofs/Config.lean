import Mathlib.Data.List.Nodup
import Mathlib.Data.List.TakeWhile
import Scim.Config.Source

/-!
# What a stack of layers sets

In a stack of layers every field has the value of the last layer that sets it, and its default where
no layer does (`Config.last_set_wins`).  This goes by induction along the layers, since one more
layer keeps a field or replaces it (`ConfigField.get_override`).  The stack is checked only when it
is resolved, so one layer may leave it invalid and a later one repair it.  The order in which
sources are listed does not matter if no two of them have the same precedence: then there is only
one way to sort them.
-/

namespace Scim

/-! ## Fields -/

/-- The fields of a configuration, by the types of their values. -/
inductive ConfigField : Type → Type where
  | uri : ConfigField String
  | database : ConfigField String
  | baseUrl : ConfigField String
  | maxResults : ConfigField Nat
  | defaultCount : ConfigField Nat
  | bulkMaxOperations : ConfigField Nat
  | bulkMaxPayloadSize : ConfigField Nat
  | level : ConfigField String
  | format : ConfigField LogFormat

namespace ConfigField

variable {α : Type}

/-- What a layer sets a field to, if it has the section and sets the field there. -/
def get : ConfigField α → ConfigLayer → Option α
  | uri, l => l.store.bind (·.uri)
  | database, l => l.store.bind (·.database)
  | baseUrl, l => l.service.bind (·.baseUrl)
  | maxResults, l => l.service.bind (·.maxResults)
  | defaultCount, l => l.service.bind (·.defaultCount)
  | bulkMaxOperations, l => l.service.bind (·.bulkMaxOperations)
  | bulkMaxPayloadSize, l => l.service.bind (·.bulkMaxPayloadSize)
  | level, l => l.logging.bind (·.level)
  | format, l => l.logging.bind (·.format)

/-- The value of a field in a configuration. -/
def value : ConfigField α → Config → α
  | uri, c => c.store.uri
  | database, c => c.store.database
  | baseUrl, c => c.service.baseUrl
  | maxResults, c => c.service.maxResults
  | defaultCount, c => c.service.defaultCount
  | bulkMaxOperations, c => c.service.bulkMaxOperations
  | bulkMaxPayloadSize, c => c.service.bulkMaxPayloadSize
  | level, c => c.logging.level
  | format, c => c.logging.format

/-- What becomes of the value of a field: the base URL loses the slashes at its end. -/
def finish : ConfigField α → α → α
  | baseUrl => trimSlashes
  | uri | database | level => id
  | maxResults | defaultCount | bulkMaxOperations | bulkMaxPayloadSize => id
  | format => id

/-- What the last of the layers that set a field sets it to. -/
def lastSet (field : ConfigField α) (layers : List ConfigLayer) : Option α :=
  (layers.filterMap field.get).getLast?

/-! ## Fields of a stack -/

@[simp] theorem get_empty (field : ConfigField α) : field.get {} = none := by
  cases field <;> rfl

theorem lastSet_cons (field : ConfigField α) (layer : ConfigLayer) (layers : List ConfigLayer) :
    field.lastSet (layer :: layers) = (field.lastSet layers).or (field.get layer) := by
  unfold lastSet
  cases hset : field.get layer with
  | none => rw [List.filterMap_cons_none hset, Option.or_none]
  | some a =>
    rw [List.filterMap_cons_some hset, List.getLast?_cons]
    cases (layers.filterMap field.get).getLast? <;> rfl

end ConfigField

/-- A field of merged sections is that of the upper one, where it sets the field. -/
theorem bind_merge_sections {σ α : Type} {override : σ → σ → σ} {get : σ → Option α}
    (hget : ∀ lower upper, get (override lower upper) = (get upper).or (get lower))
    (lower upper : Option σ) :
    (lower.merge override upper).bind get = (upper.bind get).or (lower.bind get) := by
  cases lower <;> cases upper <;> simp [hget]

namespace ConfigField

variable {α : Type}

/-- One more layer replaces a field that it sets and keeps every other one. -/
theorem get_override (field : ConfigField α) (lower upper : ConfigLayer) :
    field.get (lower.override upper) = (field.get upper).or (field.get lower) := by
  cases field <;> exact bind_merge_sections (fun _ _ => rfl) _ _

theorem get_foldl (field : ConfigField α) (layers : List ConfigLayer) (lower : ConfigLayer) :
    field.get (layers.foldl ConfigLayer.override lower)
      = (field.lastSet layers).or (field.get lower) := by
  induction layers generalizing lower with
  | nil => rfl
  | cons layer layers ih =>
    rw [List.foldl_cons, ih, get_override, lastSet_cons, Option.or_assoc]

theorem get_stack (field : ConfigField α) (layers : List ConfigLayer) :
    field.get (ConfigLayer.stack layers) = field.lastSet layers := by
  rw [ConfigLayer.stack, get_foldl, get_empty, Option.or_none]

end ConfigField

/-! ## Merging -/

theorem merge_sections_assoc {σ : Type} (override : σ → σ → σ)
    (hoverride : ∀ a b c, override (override a b) c = override a (override b c))
    (a b c : Option σ) :
    (a.merge override b).merge override c = a.merge override (b.merge override c) := by
  cases a <;> cases b <;> cases c <;> simp [hoverride]

namespace ConfigLayer

theorem override_assoc (a b c : ConfigLayer) :
    (a.override b).override c = a.override (b.override c) := by
  have hstore := merge_sections_assoc StoreLayer.override
    (by simp [StoreLayer.override, Option.or_assoc]) a.store b.store c.store
  have hservice := merge_sections_assoc ServiceLayer.override
    (by simp [ServiceLayer.override, Option.or_assoc]) a.service b.service c.service
  have hlogging := merge_sections_assoc LoggingLayer.override
    (by simp [LoggingLayer.override, Option.or_assoc]) a.logging b.logging c.logging
  simp only [override, hstore, hservice, hlogging]

theorem empty_override (l : ConfigLayer) : override {} l = l := by
  simp [override]

theorem override_empty (l : ConfigLayer) : override l {} = l := by
  simp [override]

/-! ## Layers that set the same -/

/-- The layer with its absent sections written out, as sections that set nothing. -/
def written (l : ConfigLayer) : ConfigLayer where
  store := some (l.store.getD {})
  service := some (l.service.getD {})
  logging := some (l.logging.getD {})

/-- The layers that set something, with all their sections written out. -/
def setting (layers : List ConfigLayer) : List ConfigLayer :=
  (layers.map written).filter (· ≠ written {})

theorem get_written {α : Type} (field : ConfigField α) (l : ConfigLayer) :
    field.get l.written = field.get l := by
  obtain ⟨store, service, logging⟩ := l
  cases field
  case uri | database => cases store <;> rfl
  case level | format => cases logging <;> rfl
  all_goals cases service <;> rfl

/-- A field is set last by a layer that sets something, and its sections may be written out. -/
theorem lastSet_setting {α : Type} (field : ConfigField α) (layers : List ConfigLayer) :
    field.lastSet (setting layers) = field.lastSet layers := by
  induction layers with
  | nil => rfl
  | cons layer layers ih =>
    rw [ConfigField.lastSet_cons]
    by_cases hblank : layer.written = written {}
    · have hunset : field.get layer = none := by
        rw [← get_written, hblank, get_written, ConfigField.get_empty]
      have hdropped : setting (layer :: layers) = setting layers := by
        simp [setting, hblank]
      rw [hdropped, ih, hunset, Option.or_none]
    · have hkept : setting (layer :: layers) = layer.written :: setting layers := by
        simp [setting, hblank]
      rw [hkept, ConfigField.lastSet_cons, ih, get_written]

/-! ## Resolving -/

/-- The configuration that a layer stands for, valid or not. -/
def configuration (l : ConfigLayer) : Config where
  store := (l.store.getD {}).resolve
  service := (l.service.getD {}).resolve
  logging := (l.logging.getD {}).resolve

theorem value_configuration {α : Type} (field : ConfigField α) (l : ConfigLayer) :
    field.value l.configuration = field.finish ((field.get l).getD (field.value {})) := by
  obtain ⟨store, service, logging⟩ := l
  cases field
  case uri | database => cases store <;> rfl
  case level | format => cases logging <;> rfl
  all_goals cases service <;> rfl

end ConfigLayer

theorem ServiceConfig.validate_eq_ok_iff (c : ServiceConfig) :
    c.validate = .ok () ↔ c.defaultCount ≤ c.maxResults ∧ 1 ≤ c.bulkMaxOperations := by
  unfold validate
  split
  · next hlarge => exact iff_of_false (by simp) (by omega)
  · next hsmall =>
    split
    · next hnone => exact iff_of_false (by simp) (by omega)
    · next hsome => exact iff_of_true rfl (by omega)

/-- A configuration is what its fields are. -/
theorem Config.ext_value {c d : Config}
    (h : ∀ {α : Type} (field : ConfigField α), field.value c = field.value d) : c = d := by
  obtain ⟨⟨_, _⟩, ⟨_, _, _, _, _⟩, ⟨_, _⟩⟩ := c
  obtain ⟨⟨_, _⟩, ⟨_, _, _, _, _⟩, ⟨_, _⟩⟩ := d
  obtain rfl := h .uri
  obtain rfl := h .database
  obtain rfl := h .baseUrl
  obtain rfl := h .maxResults
  obtain rfl := h .defaultCount
  obtain rfl := h .bulkMaxOperations
  obtain rfl := h .bulkMaxPayloadSize
  obtain rfl := h .level
  obtain rfl := h .format
  rfl

namespace ConfigLayer

theorem resolve_eq (l : ConfigLayer) :
    l.resolve = l.configuration.service.validate.map fun _ => l.configuration := by
  show (l.configuration.service.validate >>= fun _ => pure l.configuration) = _
  cases l.configuration.service.validate <;> rfl

theorem resolve_eq_ok_iff (l : ConfigLayer) (config : Config) :
    l.resolve = .ok config ↔ config = l.configuration
      ∧ l.configuration.service.defaultCount ≤ l.configuration.service.maxResults
      ∧ 1 ≤ l.configuration.service.bulkMaxOperations := by
  rw [resolve_eq, ← ServiceConfig.validate_eq_ok_iff]
  cases l.configuration.service.validate <;> simp [Except.map, eq_comm]

/-- Stacks that set every field alike are resolved alike. -/
theorem resolve_stack_congr {layers others : List ConfigLayer}
    (h : ∀ {α : Type} (field : ConfigField α), field.lastSet layers = field.lastSet others) :
    (stack layers).resolve = (stack others).resolve := by
  have hconfiguration : (stack layers).configuration = (stack others).configuration := by
    apply Config.ext_value
    intro α field
    rw [value_configuration, value_configuration, field.get_stack, field.get_stack, h]
  rw [resolve_eq, resolve_eq, hconfiguration]

end ConfigLayer

/-- Trimming takes all the slashes at the end and nothing else. -/
theorem trimSlashes_spec (text : String) :
    (∃ n, text = trimSlashes text ++ String.ofList (List.replicate n '/'))
      ∧ (trimSlashes text).toList.getLast? ≠ some '/' := by
  have hkept : (trimSlashes text).toList = (text.toList.reverse.dropWhile (· == '/')).reverse :=
    String.toList_ofList
  have hslashes : text.toList.reverse.takeWhile (· == '/')
      = List.replicate (text.toList.reverse.takeWhile (· == '/')).length '/' :=
    List.eq_replicate_of_mem fun c hc => by simpa using List.mem_takeWhile_imp hc
  refine ⟨⟨(text.toList.reverse.takeWhile (· == '/')).length, ?_⟩, ?_⟩
  · rw [← String.toList_inj, String.toList_append, hkept, String.toList_ofList, ← List.reverse_inj,
      List.reverse_append, List.reverse_reverse, List.reverse_replicate, ← hslashes,
      List.takeWhile_append_dropWhile]
  · rw [hkept, List.getLast?_reverse]
    intro hslash
    have hfirst := List.head?_dropWhile_not (· == '/') text.toList.reverse
    simp [hslash] at hfirst

/-! ## Sorting sources -/

namespace Config

/-- Sources are read by ascending precedence. -/
theorem load_of_ascending {sources : List ConfigSource} {layers : List ConfigLayer}
    (hascending : sources.Pairwise (·.precedence < ·.precedence))
    (hlayers : sources.mapM ConfigSource.layer = .ok layers) :
    load sources = (ConfigLayer.stack layers).resolve := by
  have hsorted : sources.mergeSort (·.precedence ≤ ·.precedence) = sources := by
    apply List.mergeSort_of_pairwise
    exact hascending.imp fun h => decide_eq_true (Nat.le_of_lt h)
  rw [load, hsorted, hlayers]
  rfl

/-- There is one way to sort sources of distinct precedences. -/
theorem mergeSort_eq_of_perm {sources others : List ConfigSource} (hperm : sources.Perm others)
    (hdistinct : (sources.map (·.precedence)).Nodup) :
    sources.mergeSort (·.precedence ≤ ·.precedence)
      = others.mergeSort (·.precedence ≤ ·.precedence) := by
  have htotal : ∀ a b : ConfigSource,
      (decide (a.precedence ≤ b.precedence) || decide (b.precedence ≤ a.precedence)) = true := by
    intro a b
    simpa using Nat.le_total a.precedence b.precedence
  have htrans : ∀ a b c : ConfigSource, decide (a.precedence ≤ b.precedence) = true →
      decide (b.precedence ≤ c.precedence) = true →
      decide (a.precedence ≤ c.precedence) = true := by
    intro a b c hab hbc
    simp only [decide_eq_true_eq] at hab hbc ⊢
    exact Nat.le_trans hab hbc
  have hsort := fun xs : List ConfigSource =>
    List.mergeSort_perm xs fun a b => decide (a.precedence ≤ b.precedence)
  refine List.Perm.eq_of_pairwise ?_ (List.pairwise_mergeSort htrans htotal sources)
    (List.pairwise_mergeSort htrans htotal others)
    ((hsort sources).trans (hperm.trans (hsort others).symm))
  intro a b ha hb hab hba
  have hsame : a.precedence = b.precedence :=
    Nat.le_antisymm (of_decide_eq_true hab) (of_decide_eq_true hba)
  exact List.inj_on_of_nodup_map hdistinct ((hsort sources).mem_iff.mp ha)
    (hperm.mem_iff.mpr ((hsort others).mem_iff.mp hb)) hsame

/-- In every stack of layers each field has the value of the last layer that sets it, or else its
default, and the base URL has lost exactly the slashes at its end.  The stack is resolved if and
only if these values are valid together.  Merging is associative, and a layer that sets nothing is
its unit; nor does it matter which sections are absent and which set nothing.  Sources that are
loaded give the stack of their layers by ascending precedence, in whatever order they are listed, if
no two of them have the same precedence. -/
theorem last_set_wins :
    (∀ layers : List ConfigLayer, ∃ config : Config,
      (∀ {α : Type} (field : ConfigField α),
        field.value config = field.finish ((field.lastSet layers).getD (field.value {})))
      ∧ ∀ found, (ConfigLayer.stack layers).resolve = .ok found ↔
        found = config ∧ config.service.defaultCount ≤ config.service.maxResults
          ∧ 1 ≤ config.service.bulkMaxOperations)
    ∧ (∀ text, (∃ n, text = trimSlashes text ++ String.ofList (List.replicate n '/'))
        ∧ (trimSlashes text).toList.getLast? ≠ some '/')
    ∧ (∀ a b c : ConfigLayer, (a.override b).override c = a.override (b.override c))
    ∧ (∀ l : ConfigLayer, ConfigLayer.override {} l = l ∧ l.override {} = l)
    ∧ (∀ layers others, ConfigLayer.setting layers = ConfigLayer.setting others →
        (ConfigLayer.stack layers).resolve = (ConfigLayer.stack others).resolve)
    ∧ (∀ sources layers, sources.Pairwise (·.precedence < ·.precedence) →
        sources.mapM ConfigSource.layer = .ok layers →
        load sources = (ConfigLayer.stack layers).resolve)
    ∧ ∀ sources others, sources.Perm others → (sources.map (·.precedence)).Nodup →
        load sources = load others := by
  refine ⟨fun layers => ?_, trimSlashes_spec, ConfigLayer.override_assoc,
    fun l => ⟨l.empty_override, l.override_empty⟩, fun layers others h => ?_,
    fun _ _ => load_of_ascending, fun sources others hperm hdistinct => ?_⟩
  · refine ⟨(ConfigLayer.stack layers).configuration, fun field => ?_, fun found => ?_⟩
    · rw [ConfigLayer.value_configuration, field.get_stack]
    · exact ConfigLayer.resolve_eq_ok_iff _ found
  · apply ConfigLayer.resolve_stack_congr
    intro α field
    rw [← ConfigLayer.lastSet_setting, h, ConfigLayer.lastSet_setting]
  · rw [load, load, mergeSort_eq_of_perm hperm hdistinct]

/-- A file with a default count above the default limit. -/
def countFile : ConfigSource :=
  .file (.text "[scim]\ndefault_count = 2000\n")

/-- An environment that raises the limit and sets a base URL. -/
def limitEnvironment : ConfigSource :=
  .environment fun name =>
    if name = "SCIMITAR_SERVER_SCIM_MAX_RESULTS" then some "3000"
    else if name = "SCIMITAR_SERVER_BASE_URL" then some "https://scim.example//"
    else none

/-- The file alone cannot be resolved.  With the environment it can, in any order, and a section
without fields makes no difference. -/
theorem last_set_wins_of_countFile :
    load [.defaults, countFile] = .error (.defaultCountTooLarge 2000 1000)
      ∧ load [limitEnvironment, countFile, .defaults] = .ok { service :=
          { baseUrl := "https://scim.example", maxResults := 3000, defaultCount := 2000 } }
      ∧ (ConfigLayer.stack [{}, { logging := some {} }]).resolve = .ok {} := by
  obtain ⟨-, -, -, -, hsetting, hascending, hperm⟩ := last_set_wins
  refine ⟨?_, ?_, ?_⟩
  · rw [hascending [.defaults, countFile] [{}, { service := some { defaultCount := some 2000 } }]
      (by decide) (by decide +kernel)]
    decide +kernel
  · rw [hperm [limitEnvironment, countFile, .defaults] [.defaults, countFile, limitEnvironment]
      (List.reverse_perm [limitEnvironment, countFile, .defaults]).symm (by decide),
      hascending [.defaults, countFile, limitEnvironment]
        [{}, { service := some { defaultCount := some 2000 } },
          { store := some {}, logging := some {}, service := some {
              baseUrl := some "https://scim.example//", maxResults := some 3000 } }]
        (by decide) (by decide +kernel)]
    decide +kernel
  · rw [hsetting [{}, { logging := some {} }] [] (by decide)]
    decide

end Config

end Scim
