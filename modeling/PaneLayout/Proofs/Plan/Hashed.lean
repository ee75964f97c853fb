import PaneLayout.Proofs.Compile.Keyed
import PaneLayout.Proofs.Plan.Alike
import PaneLayout.Proofs.Plan.Emitted
import PaneLayout.Proofs.Plan.Terminals

/-!
# What the digest of a plan tells

The digest of a plan is taken of a text.  The text is written from the record of
the plan without loss, and it is read in one way only.  So two plans with the same
text are the same plan up to the order of mappings.
-/

namespace PaneLayout

open Value

/-! ### Finite numbers -/

/-- The numbers in the options are finite. -/
def Terminal.HasFiniteOptions (leaf : Terminal) : Prop :=
  ∀ fields ∈ leaf.options,
    ∀ field ∈ fields, field.2.Everywhere HasFiniteDoubles

instance (leaf : Terminal) : Decidable leaf.HasFiniteOptions :=
  inferInstanceAs (Decidable (∀ fields ∈ leaf.options, _))

/-- The weights are finite. -/
def Ratio.HasFiniteWeights (ratio : Ratio) : Prop :=
  ∀ weight ∈ ratio.weights, weight.isFinite = true

instance (ratio : Ratio) : Decidable ratio.HasFiniteWeights :=
  inferInstanceAs (Decidable (∀ weight ∈ ratio.weights, _))

/-- The numbers in ratios and options are finite. -/
structure Plan.HasFiniteNumbers (plan : Plan) : Prop where
  ratios : ∀ ratio ∈ plan.root.ratios, ratio.HasFiniteWeights
  options : ∀ entry ∈ plan.root.terminals, entry.2.HasFiniteOptions

instance (plan : Plan) : Decidable plan.HasFiniteNumbers :=
  decidable_of_iff
    ((∀ ratio ∈ plan.root.ratios, ratio.HasFiniteWeights) ∧
      ∀ entry ∈ plan.root.terminals, entry.2.HasFiniteOptions)
    ⟨fun both => ⟨both.1, both.2⟩, fun finite => ⟨finite.1, finite.2⟩⟩

/-! ### Records without loss -/

namespace Value

theorem isExact_null : IsExact .null := ⟨trivial, trivial, trivial⟩

theorem isExact_bool (value : Bool) : IsExact (.bool value) :=
  ⟨trivial, trivial, trivial⟩

theorem isExact_int (value : Int) : IsExact (.int value) :=
  ⟨trivial, trivial, trivial⟩

theorem isExact_text (content : String) : IsExact (.text content) :=
  ⟨trivial, trivial, trivial⟩

theorem isExact_float {x : Float} (finite : x.isFinite = true) :
    IsExact (.float x) :=
  ⟨trivial, trivial, finite⟩

theorem isExact_optional {α : Type} {form : α → Value} {content : Option α}
    (exact : ∀ present, content = some present → (form present).IsExact) :
    (optional form content).IsExact := by
  cases content with
  | none => exact isExact_null
  | some present => exact exact present rfl

theorem isExact_ofText? (content : Option String) :
    IsExact (.ofText? content) := by
  rw [ofText?_eq_optional]
  exact isExact_optional fun present _ => isExact_text present

end Value

theorem Ratio.isExact {ratio : Ratio} (finite : ratio.HasFiniteWeights) :
    IsExact (.list (ratio.map RatioEntry.toValue)) := by
  refine isExact_list (List.forall_mem_map.mpr fun entry member => ?_)
  cases entry with
  | weight value =>
      exact isExact_float
        (finite value (List.mem_filterMap.mpr ⟨_, member, rfl⟩))
  | cells count _ =>
      change IsExact
        (.record [("kind", .text "fixed-cells"), ("cells", .int count)])
      have unique : ["kind", "cells"].Nodup := by decide
      refine isExact_record unique ?_
      simp only [List.forall_mem_cons]
      exact ⟨isExact_text _, isExact_int _, List.forall_mem_nil _⟩

namespace Terminal

theorem IsKeyed.isExact {leaf : Terminal} (isKeyed : leaf.IsKeyed)
    (finite : leaf.HasFiniteOptions) :
    ∀ field ∈ leaf.fields, field.2.IsExact := by
  rw [leaf.fields_eq]
  simp only [List.forall_mem_cons, isExact_text, isExact_ofText?,
    isExact_bool, true_and]
  refine ⟨isExact_optional ?_, isExact_optional fun _ _ => isExact_int _,
    isExact_optional ?_, List.forall_mem_nil _⟩
  · intro env isEnv
    refine isExact_record ?_
      (List.forall_mem_map.mpr fun assignment _ => isExact_text _)
    rw [Entries.keys, List.map_map]
    exact isKeyed.env env isEnv
  · intro fields areOptions
    have keyed := isKeyed.options fields areOptions
    refine isExact_record keyed.unique fun field member => ?_
    exact ⟨keyed.isJson field member, keyed.distinct field member,
      finite fields areOptions field member⟩

end Terminal

namespace PlanNode

mutual

theorem isExact_toValue : ∀ {node : PlanNode},
    (∀ entry ∈ node.terminals, entry.2.IsKeyed ∧ entry.2.HasFiniteOptions) →
    (∀ ratio ∈ node.ratios, ratio.HasFiniteWeights) → node.toValue.IsExact
  | .terminal id leaf, leaves, _ => by
      obtain ⟨isKeyed, finite⟩ := List.forall_mem_singleton.mp leaves
      exact isExact_record (terminalKeys_nodup id leaf)
        (List.forall_mem_append.mpr ⟨isKeyed.isExact finite,
          List.forall_mem_singleton.mpr (isExact_text id)⟩)
  | .split _ _ ratio panes, leaves, ratios => by
      obtain ⟨own, below⟩ := List.forall_mem_cons.mp ratios
      refine isExact_record splitKeys_nodup ?_
      simp only [List.forall_mem_cons, isExact_text, true_and]
      exact ⟨Ratio.isExact own,
        isExact_list (isExact_toValueList leaves below),
        List.forall_mem_nil _⟩

theorem isExact_toValueList : ∀ {panes : List PlanNode},
    (∀ entry ∈ terminalsList panes,
      entry.2.IsKeyed ∧ entry.2.HasFiniteOptions) →
    (∀ ratio ∈ ratiosList panes, ratio.HasFiniteWeights) →
    ∀ value ∈ toValueList panes, value.IsExact
  | [], _, _ => List.forall_mem_nil _
  | _ :: _, leaves, ratios => by
      obtain ⟨first, rest⟩ := List.forall_mem_append.mp leaves
      obtain ⟨own, others⟩ := List.forall_mem_append.mp ratios
      exact List.forall_mem_cons.mpr
        ⟨isExact_toValue first own, isExact_toValueList rest others⟩

end

end PlanNode

namespace Plan

/-- The terminals of a plan have what the compiled terminals have. -/
theorem isKeyed_ofPreset {source : String} {value : Value} {preset : Preset}
    {plan : Plan} (compiled : Preset.ofValue source value = .ok preset)
    (planned : ofPreset preset = .ok plan) :
    ∀ entry ∈ plan.root.terminals, entry.2.IsKeyed := by
  rw [terminals_ofPreset planned, List.forall_mem_map]
  intro leaf member
  have isTerminal : leaf.2 ∈ preset.builtLayout.terminals := by
    rw [← preset.builtLayout.map_snd_leaves []]
    exact List.mem_map_of_mem member
  have isKeyed := Preset.builtLayout_isKeyed compiled leaf.2 isTerminal
  exact ⟨isKeyed.env, isKeyed.options⟩

theorem root_isExact {source : String} {value : Value} {preset : Preset}
    {plan : Plan} (compiled : Preset.ofValue source value = .ok preset)
    (planned : ofPreset preset = .ok plan) (finite : plan.HasFiniteNumbers) :
    plan.root.toValue.IsExact :=
  PlanNode.isExact_toValue
    (fun entry member => ⟨isKeyed_ofPreset compiled planned entry member,
      finite.options entry member⟩) finite.ratios

/-- A canonical text is written from the id of the focus and the record of the
tree. -/
theorem exists_recorded {plan : Plan} {steps : List Step} {text : String}
    (exact : plan.root.toValue.IsExact)
    (ok : plan.canonicalText steps = .ok text) :
    ∃ (json : Json) (recorded : Entries Value),
      json.render .canonical = .ok text ∧
      json.toValue = .record recorded ∧ recorded.keys.Nodup ∧
      ("focusPaneId", .text plan.focusPaneId) ∈ recorded ∧
      ("root", plan.root.toValue) ∈ recorded := by
  obtain ⟨json, saved, rendered⟩ := exists_of_bind_eq_ok ok
  have unique : ["focusPaneId", "root", "steps"].Nodup := by decide
  obtain ⟨recorded, isRecord, isUnique, kept⟩ :=
    exists_record_of_saved saved unique
  refine ⟨json, recorded, rendered, isRecord, isUnique,
    kept _ List.mem_cons_self (isExact_text _), ?_⟩
  exact kept _ (List.mem_cons_of_mem _ List.mem_cons_self) exact

/-- Plans with exact records are known from their texts. -/
theorem alike_of_texts {plan other : Plan} {steps otherSteps : List Step}
    {text : String} (exact : plan.root.toValue.IsExact)
    (otherExact : other.root.toValue.IsExact)
    (ok : plan.canonicalText steps = .ok text)
    (otherOk : other.canonicalText otherSteps = .ok text) :
    plan.Alike other := by
  obtain ⟨json, recorded, rendered, isRecord, _, focus, root⟩ :=
    exists_recorded exact ok
  obtain ⟨otherJson, otherRecorded, otherRendered, otherIsRecord, unique,
    otherFocus, otherRoot⟩ := exists_recorded otherExact otherOk
  have alike :=
    Json.alike_of_render Json.isPlain_canonical nofun nofun rendered
      otherRendered
  rw [isRecord, otherIsRecord] at alike
  constructor
  · exact PlanNode.alike_of_toValue (alike.field unique root otherRoot)
  · exact (alike.field unique focus otherFocus).text

/-- A digest is taken of the bytes of a text without surrogates. -/
theorem exists_of_hash {plan : Plan} {steps : List Step} {digest : String}
    (hashed : plan.hash steps = .ok digest) :
    ∃ (json : Json) (text : String),
      (plan.hashedValue steps).saved = .ok json ∧
      json.render .canonical = .ok text ∧ json.holdsSurrogate = false ∧
      digest = Digest.hexadecimal (Digest.sha256 text.toUTF8.toList) := by
  obtain ⟨json, saved, hashed⟩ := exists_of_bind_eq_ok hashed
  obtain ⟨octets, encoded, made⟩ := exists_of_bind_eq_ok hashed
  obtain ⟨text, rendered, encoded⟩ := exists_of_bind_eq_ok encoded
  split at encoded
  · cases encoded
  · next plain =>
    cases encoded
    cases made
    exact ⟨json, text, saved, rendered, Bool.eq_false_iff.mpr plain, rfl⟩

theorem exists_canonicalText {plan : Plan} {emission : Emission}
    (emitted : plan.emit = .ok emission) :
    ∃ text, plan.canonicalText emission.steps = .ok text := by
  obtain ⟨splits, _, emitted⟩ := exists_of_bind_eq_ok emitted
  obtain ⟨initial, _, emitted⟩ := exists_of_bind_eq_ok emitted
  obtain ⟨hash, hashed, made⟩ := exists_of_bind_eq_ok emitted
  obtain ⟨json, text, saved, rendered, _⟩ := exists_of_hash hashed
  cases made
  refine ⟨text, ?_⟩
  unfold canonicalText
  rw [saved]
  exact rendered

end Plan

namespace Prepared

/-- Prepared plans whose digests are taken of one text are equal, apart from the
order in which environments and options are given. -/
theorem plans_alike {source otherSource : String} {value otherValue : Value}
    {prepared other : Prepared} (ok : ofValue source value = .ok prepared)
    (otherOk : ofValue otherSource otherValue = .ok other)
    (finite : prepared.plan.HasFiniteNumbers)
    (otherFinite : other.plan.HasFiniteNumbers)
    (same : prepared.plan.canonicalText prepared.emission.steps =
      other.plan.canonicalText other.emission.steps) :
    prepared.plan.Alike other.plan := by
  obtain ⟨compiled, planned, emitted⟩ := stages_ofValue ok
  obtain ⟨otherCompiled, otherPlanned, _⟩ := stages_ofValue otherOk
  obtain ⟨text, isText⟩ := Plan.exists_canonicalText emitted
  exact Plan.alike_of_texts (Plan.root_isExact compiled planned finite)
    (Plan.root_isExact otherCompiled otherPlanned otherFinite) isText
    (same ▸ isText)

/-- A fixed pane beside a pane with an environment and options. -/
def logBesideService : Value :=
  .mapping [(.text "layout", .mapping [
    (.text "type", .text "horizontal"),
    (.text "ratio", .list [.text "30c", .int 1]),
    (.text "panes", .list [
      .mapping [(.text "name", .text "log")],
      .mapping [
        (.text "command", .text "serve"),
        (.text "env", .mapping [
          (.text "PORT", .int 80), (.text "HOST", .text "::1")]),
        (.text "options", .mapping [
          (.text "scale", .float 1.5), (.int 2, .list [.null, .int 1])])]])])]

/-- The label of a document does not get into the text. -/
theorem plans_alike_logBesideService :
    ∃ prepared other, ofValue "local" logBesideService = .ok prepared ∧
      ofValue "shared" logBesideService = .ok other ∧
      prepared.plan.HasFiniteNumbers ∧ prepared.plan.Alike other.plan := by
  have evaluated : (ofValue "local" logBesideService).toOption.map
      (fun prepared => decide prepared.plan.HasFiniteNumbers) = some true := by
    decide +kernel
  obtain ⟨prepared, isPrepared, decided⟩ := Option.map_eq_some_iff.mp evaluated
  have finite := of_decide_eq_true decided
  have ok := ok_of_toOption_eq_some isPrepared
  have otherOk : ofValue "shared" logBesideService =
      .ok (prepared.relabeled "shared") := by
    rw [ofValue_relabeled "local" "shared", ok]
  exact ⟨prepared, _, ok, otherOk, finite,
    plans_alike ok otherOk finite finite rfl⟩

end Prepared

end PaneLayout
