import PaneLayout.Proofs.Compile.Reordered
import PaneLayout.Proofs.Diagnosis.Total
import PaneLayout.Proofs.Json.Encoded
import PaneLayout.Proofs.Plan.Hashed

/-!
# Emissions of reordered presets

Planning and emitting keep what the compiler makes of reordered documents alike.
The steps do not depend on environments and options at all, and the text that
the digest is taken of does not depend on their order.  So reordered documents
fail in the same way, or they have the same steps and the same digest.
-/

namespace PaneLayout

open Value

/-! ### Terminals -/

theorem Entries.IsKeyed.record {fields : Entries Value}
    (isKeyed : fields.IsKeyed) : Value.IsKeyed (.record fields) where
  isJson := ⟨List.forall_mem_map.mpr fun field _ => ⟨field.1, rfl⟩,
    everywhereEntries_iff.mpr (List.forall_mem_map.mpr
      fun field member => ⟨trivial, isKeyed.isJson field member⟩)⟩
  distinct := ⟨(distinctKeys_iff Prod.snd).mpr isKeyed.unique,
    everywhereEntries_iff.mpr (List.forall_mem_map.mpr
      fun field member => ⟨trivial, isKeyed.distinct field member⟩)⟩

namespace Terminal

variable {related : Value → Value → Prop} {leaf other : Terminal}

theorem AlikeBy.focus_eq (alike : leaf.AlikeBy related other) :
    leaf.focus = other.focus := by
  rw [alike.same]

theorem AlikeBy.withFocus (alike : leaf.AlikeBy related other)
    (focus : Bool) :
    Terminal.AlikeBy related { leaf with focus } { other with focus } := by
  refine ⟨?_, alike.env, alike.options⟩
  rw [alike.same]

/-- In the options no two surrogates make a pair. -/
def HasUnpairedOptions (leaf : Terminal) : Prop :=
  ∀ fields ∈ leaf.options, (Value.record fields).Everywhere HasUnpairedText

theorem alike_of_unpaired (alike : leaf.AlikeBy UnpairedAlike other)
    (unpaired : leaf.HasUnpairedOptions) : leaf.Alike other where
  same := alike.same
  env := alike.env
  options := by
    have options := alike.options
    unfold HasUnpairedOptions at unpaired
    generalize leaf.options = fields at options unpaired
    generalize other.options = others at options
    cases options with
    | none => exact .none
    | some alike => exact .some (alike.alike (unpaired _ rfl))

theorem savedAlike_env {content other : Option (Entries String)}
    (perm : Option.Rel List.Perm content other)
    (unique : ∀ env, content = some env → env.keys.Nodup)
    (otherUnique : ∀ env, other = some env → env.keys.Nodup) :
    SavedAlike
      (.optional (fun env : Entries String =>
        .record (env.map fun (key, value) => (key, .text value))) content)
      (.optional (fun env : Entries String =>
        .record (env.map fun (key, value) => (key, .text value))) other) := by
  have keys (env : Entries String) :
      Entries.keys (env.map fun (key, value) => (key, Value.text value)) =
        env.keys := by
    rw [Entries.keys, List.map_map]
    rfl
  cases perm with
  | none => exact savedAlike_refl _
  | some perm =>
      refine savedAlike_record ?_ ?_ (perm.map _) (.refl _)
        (List.forall₂_same.mpr fun _ _ => pair_savedAlike _ _)
      · rw [keys]
        exact unique _ rfl
      · rw [keys]
        exact otherUnique _ rfl

theorem savedAlike_options {content other : Option (Entries Value)}
    (alike : Option.Rel (fun fields others =>
      (Value.record fields).Alike (.record others)) content other)
    (isKeyed : ∀ fields, content = some fields → fields.IsKeyed)
    (otherIsKeyed : ∀ fields, other = some fields → fields.IsKeyed) :
    SavedAlike (.optional .record content) (.optional .record other) := by
  cases alike with
  | none => exact savedAlike_refl _
  | some alike =>
      exact savedAlike_of_alike alike (isKeyed _ rfl).record
        (otherIsKeyed _ rfl).record

/-- The fields of alike terminals are saved in the same way, whatever the
order of their mappings. -/
theorem Alike.savedAlike (alike : leaf.Alike other)
    (isKeyed : leaf.IsKeyed) (otherIsKeyed : other.IsKeyed) :
    List.Forall₂ (Entries.Pair SavedAlike) leaf.fields other.fields := by
  have env := savedAlike_env alike.env isKeyed.env otherIsKeyed.env
  have options :=
    savedAlike_options alike.options isKeyed.options otherIsKeyed.options
  have rest := alike.same
  rw [leaf.fields_eq, other.fields_eq]
  generalize other.env = otherEnv at env rest
  generalize other.options = otherOptions at options rest
  cases rest
  exact .cons (pair_savedAlike _ _) <| .cons (pair_savedAlike _ _) <|
    .cons (pair_savedAlike _ _) <| .cons (pair_savedAlike _ _) <|
    .cons ⟨rfl, env⟩ <| .cons (pair_savedAlike _ _) <|
    .cons (pair_savedAlike _ _) <| .cons (pair_savedAlike _ _) <|
    .cons (pair_savedAlike _ _) <| .cons (pair_savedAlike _ _) <|
    .cons ⟨rfl, options⟩ .nil

end Terminal

/-! ### Plans of alike layouts -/

/-- What is wrong with a layout that has no plan is always explained. -/
instance : CarriesFault PlanError where
  fault? _ := none

namespace Layout

mutual

theorem Alike.planned : ∀ {layout other : Layout}, layout.Alike other →
    ∀ id path, Agree Eq (PlanNode.AlikeBy UnpairedAlike)
      (layout.planned id path) (other.planned id path)
  | _, _, .terminal alike, _, _ => .ok (.terminal alike)
  | _, _, .split panes, id, path => by
      unfold Layout.planned
      split
      · exact .error rfl
      · exact (panes.planned id path 0).bind fun _ _ alike => .ok (.split alike)

theorem AlikeList.planned : ∀ {panes others : List Layout},
    AlikeList panes others → ∀ id path index,
    Agree Eq (PlanNode.AlikeListBy UnpairedAlike)
      (plannedList id path index panes) (plannedList id path index others)
  | _, _, .nil, _, _, _ => .ok .nil
  | _, _, .cons first rest, id, path, index => by
      unfold plannedList
      exact (first.planned _ _).bind fun _ _ alike =>
        (rest.planned id path (index + 1)).bind fun _ _ areAlike =>
          .ok (.cons alike areAlike)

end

end Layout

namespace PlanNode

variable {related : Value → Value → Prop}

theorem AlikeBy.id_eq {node other : PlanNode}
    (alike : node.AlikeBy related other) : node.id = other.id := by
  cases alike <;> rfl

theorem AlikeListBy.ids_eq {panes others : List PlanNode}
    (alike : AlikeListBy related panes others) :
    panes.map id = others.map id := by
  induction panes generalizing others with
  | nil =>
      cases alike
      rfl
  | cons pane panes induction =>
      cases alike with
      | cons first rest =>
          exact congrArg₂ List.cons first.id_eq (induction rest)

mutual

theorem AlikeBy.terminals : ∀ {node other : PlanNode},
    node.AlikeBy related other →
    List.Forall₂ (Entries.Pair (Terminal.AlikeBy related)) node.terminals
      other.terminals
  | _, _, .terminal alike => .cons ⟨rfl, alike⟩ .nil
  | _, _, .split panes => panes.terminalsList

theorem AlikeListBy.terminalsList : ∀ {panes others : List PlanNode},
    AlikeListBy related panes others →
    List.Forall₂ (Entries.Pair (Terminal.AlikeBy related))
      (PlanNode.terminalsList panes) (PlanNode.terminalsList others)
  | _, _, .nil => .nil
  | _, _, .cons first rest => List.rel_append first.terminals rest.terminalsList

end

/-- The same terminals ask for the focus. -/
theorem focusIds_of_pairs {entries others : Entries Terminal}
    (pairs : List.Forall₂ (Entries.Pair (Terminal.AlikeBy related)) entries
      others) :
    Entries.keys (entries.filter fun entry => entry.2.focus) =
      Entries.keys (others.filter fun other => other.2.focus) := by
  induction pairs with
  | nil => rfl
  | @cons entry other _ _ pair _ induction =>
      rw [List.filter_cons, List.filter_cons, pair.2.focus_eq]
      split
      · exact congrArg₂ List.cons pair.1 induction
      · exact induction

theorem AlikeBy.focusOf {root other : PlanNode}
    (alike : root.AlikeBy related other) :
    Plan.focusOf root = Plan.focusOf other := by
  have asking : root.focusIds = other.focusIds :=
    focusIds_of_pairs alike.terminals
  have ids : root.terminalIds = other.terminalIds :=
    Entries.keys_of_pairs alike.terminals
  rw [Plan.focusOf, Plan.focusOf, asking, ids]

mutual

theorem AlikeBy.withFocus (focusPaneId : String) :
    ∀ {node other : PlanNode}, node.AlikeBy related other →
    (node.withFocus focusPaneId).AlikeBy related (other.withFocus focusPaneId)
  | _, _, .terminal alike => .terminal (alike.withFocus _)
  | _, _, .split panes => .split (panes.withFocus focusPaneId)

theorem AlikeListBy.withFocus (focusPaneId : String) :
    ∀ {panes others : List PlanNode}, AlikeListBy related panes others →
    AlikeListBy related (withFocusList focusPaneId panes)
      (withFocusList focusPaneId others)
  | _, _, .nil => .nil
  | _, _, .cons first rest =>
      .cons (first.withFocus focusPaneId) (rest.withFocus focusPaneId)

end

mutual

theorem alike_of_unpaired : ∀ {node other : PlanNode},
    node.AlikeBy UnpairedAlike other →
    (∀ entry ∈ node.terminals, entry.2.HasUnpairedOptions) → node.Alike other
  | _, _, .terminal alike, unpaired =>
      .terminal (Terminal.alike_of_unpaired alike
        (unpaired _ List.mem_cons_self))
  | _, _, .split panes, unpaired =>
      .split (alikeList_of_unpaired panes unpaired)

theorem alikeList_of_unpaired : ∀ {panes others : List PlanNode},
    AlikeListBy UnpairedAlike panes others →
    (∀ entry ∈ terminalsList panes, entry.2.HasUnpairedOptions) →
    AlikeListBy Value.Alike panes others
  | _, _, .nil, _ => .nil
  | _, _, .cons first rest, unpaired => by
      obtain ⟨here, later⟩ := List.forall_mem_append.mp unpaired
      exact .cons (alike_of_unpaired first here)
        (alikeList_of_unpaired rest later)

end

/-! ### Steps -/

mutual

/-- The steps do not depend on the mappings of terminals. -/
theorem AlikeBy.splitSteps_eq : ∀ {node other : PlanNode},
    node.AlikeBy related other → node.splitSteps = other.splitSteps
  | _, _, .terminal _ => rfl
  | _, _, .split panes => by
      rw [splitSteps, splitSteps, panes.ids_eq, panes.splitStepsList_eq]

theorem AlikeListBy.splitStepsList_eq : ∀ {panes others : List PlanNode},
    AlikeListBy related panes others →
    splitStepsList panes = splitStepsList others
  | _, _, .nil => rfl
  | _, _, .cons first rest => by
      rw [splitStepsList, splitStepsList, first.splitSteps_eq,
        rest.splitStepsList_eq]

end

/-! ### Records -/

theorem savedAlike_terminal {id : String} {leaf other : Terminal}
    (alike : leaf.Alike other) (isKeyed : leaf.IsKeyed)
    (otherIsKeyed : other.IsKeyed) :
    SavedAlike (terminal id leaf).toValue (terminal id other).toValue := by
  refine savedAlike_record (terminalKeys_nodup id leaf)
    (terminalKeys_nodup id other) (.refl _) (.refl _) ?_
  exact List.rel_append (alike.savedAlike isKeyed otherIsKeyed)
    (.cons (pair_savedAlike _ _) .nil)

theorem savedAlike_split {id : String} {orientation : Orientation}
    {ratio : Ratio} {panes others : List PlanNode}
    (alike : List.Forall₂ SavedAlike (toValueList panes)
      (toValueList others)) :
    SavedAlike (split id orientation ratio panes).toValue
      (split id orientation ratio others).toValue := by
  refine savedAlike_record splitKeys_nodup splitKeys_nodup (.refl _)
    (.refl _) ?_
  exact .cons (pair_savedAlike _ _) <| .cons (pair_savedAlike _ _) <|
    .cons (pair_savedAlike _ _) <| .cons (pair_savedAlike _ _) <|
    .cons ⟨rfl, savedAlike_list alike⟩ .nil

mutual

theorem AlikeBy.savedAlike : ∀ {node other : PlanNode}, node.Alike other →
    (∀ entry ∈ node.terminals, entry.2.IsKeyed) →
    (∀ entry ∈ other.terminals, entry.2.IsKeyed) →
    SavedAlike node.toValue other.toValue
  | _, _, .terminal alike, areKeyed, othersAreKeyed =>
      savedAlike_terminal alike (areKeyed _ List.mem_cons_self)
        (othersAreKeyed _ List.mem_cons_self)
  | _, _, .split panes, areKeyed, othersAreKeyed =>
      savedAlike_split (panes.savedAlike areKeyed othersAreKeyed)

theorem AlikeListBy.savedAlike : ∀ {panes others : List PlanNode},
    AlikeListBy Value.Alike panes others →
    (∀ entry ∈ PlanNode.terminalsList panes, entry.2.IsKeyed) →
    (∀ entry ∈ PlanNode.terminalsList others, entry.2.IsKeyed) →
    List.Forall₂ SavedAlike (toValueList panes) (toValueList others)
  | _, _, .nil, _, _ => .nil
  | _, _, .cons first rest, areKeyed, othersAreKeyed => by
      obtain ⟨here, later⟩ := List.forall_mem_append.mp areKeyed
      obtain ⟨otherHere, otherLater⟩ := List.forall_mem_append.mp othersAreKeyed
      exact .cons (first.savedAlike here otherHere)
        (rest.savedAlike later otherLater)

end

mutual

/-- The options of a node that is saved without surrogates have none. -/
theorem hasUnpairedOptions_of_saved : ∀ {node : PlanNode},
    (∀ entry ∈ node.terminals, entry.2.IsKeyed) →
    node.toValue.IsSavedPlain →
    ∀ entry ∈ node.terminals, entry.2.HasUnpairedOptions
  | .terminal id leaf, areKeyed, plain => by
      refine List.forall_mem_singleton.mpr fun fields areOptions => ?_
      have isKeyed := (areKeyed _ List.mem_cons_self).options fields areOptions
      have arePlain := plain.fields (terminalKeys_nodup id leaf)
      rw [leaf.fields_eq, areOptions] at arePlain
      have options : (Value.record fields).IsSavedPlain :=
        (arePlain ("options", .optional .record (some fields)) (by simp)).2
      exact Everywhere.mono (fun _ => IsEncodable.hasUnpairedText) _
        (options.encodable isKeyed.record)
  | .split _ _ _ panes, areKeyed, plain => by
      have arePlain := plain.fields splitKeys_nodup
      have children := (arePlain ("panes", .list (toValueList panes))
        (by simp)).2
      exact hasUnpairedOptions_of_savedList areKeyed children.items

theorem hasUnpairedOptions_of_savedList : ∀ {panes : List PlanNode},
    (∀ entry ∈ terminalsList panes, entry.2.IsKeyed) →
    (∀ value ∈ toValueList panes, value.IsSavedPlain) →
    ∀ entry ∈ terminalsList panes, entry.2.HasUnpairedOptions
  | [], _, _ => List.forall_mem_nil _
  | _ :: _, areKeyed, arePlain => by
      obtain ⟨here, later⟩ := List.forall_mem_append.mp areKeyed
      obtain ⟨plain, arePlain⟩ := List.forall_mem_cons.mp arePlain
      exact List.forall_mem_append.mpr
        ⟨hasUnpairedOptions_of_saved here plain,
          hasUnpairedOptions_of_savedList later arePlain⟩

end

end PlanNode

/-! ### Digests -/

namespace Plan

theorem ofPreset_alike {preset other : Preset} (alike : preset.Alike other) :
    Agree Eq (AlikeBy UnpairedAlike) (ofPreset preset) (ofPreset other) := by
  have layouts := alike.layout
  unfold ofPreset
  rw [alike.name, alike.command]
  generalize preset.layout = layout at layouts
  generalize other.layout = otherLayout at layouts
  cases layouts with
  | none => exact .ok ⟨.terminal (Terminal.alike_refl _), rfl⟩
  | some alike =>
      refine (alike.planned _ _).bind fun root otherRoot alike => ?_
      rw [alike.focusOf]
      cases focusOf otherRoot with
      | error error => exact .error rfl
      | ok focusPaneId => exact .ok ⟨alike.withFocus focusPaneId, rfl⟩

theorem hashKeys_nodup : ["focusPaneId", "root", "steps"].Nodup := by
  decide

/-- A plan with a digest has no surrogates in its options. -/
theorem hasUnpairedOptions_of_hash {plan : Plan} {steps : List Step}
    {digest : String} (areKeyed : ∀ entry ∈ plan.root.terminals,
      entry.2.IsKeyed) (hashed : plan.hash steps = .ok digest) :
    ∀ entry ∈ plan.root.terminals, entry.2.HasUnpairedOptions := by
  obtain ⟨json, _, saved, _, plain, _⟩ := exists_of_hash hashed
  have isPlain : (plan.hashedValue steps).IsSavedPlain :=
    ⟨json, saved, (Json.holdsSurrogate_eq_false_iff json).mp plain⟩
  have root := (isPlain.fields hashKeys_nodup ("root", plan.root.toValue)
    (by simp)).2
  exact PlanNode.hasUnpairedOptions_of_saved areKeyed root

/-- Alike plans have one canonical text. -/
theorem canonicalText_eq {plan other : Plan} (alike : plan.Alike other)
    (areKeyed : ∀ entry ∈ plan.root.terminals, entry.2.IsKeyed)
    (othersAreKeyed : ∀ entry ∈ other.root.terminals, entry.2.IsKeyed)
    {steps : List Step} {json otherJson : Json} {text otherText : String}
    (saved : (plan.hashedValue steps).saved = .ok json)
    (otherSaved : (other.hashedValue steps).saved = .ok otherJson)
    (rendered : json.render .canonical = .ok text)
    (otherRendered : otherJson.render .canonical = .ok otherText) :
    text = otherText := by
  have records : SavedAlike (plan.hashedValue steps)
      (other.hashedValue steps) := by
    unfold hashedValue
    rw [alike.focusPaneId]
    exact savedAlike_record hashKeys_nodup hashKeys_nodup (.refl _) (.refl _)
      (.cons (pair_savedAlike _ _) <|
        .cons ⟨rfl, alike.root.savedAlike areKeyed othersAreKeyed⟩ <|
        .cons (pair_savedAlike _ _) .nil)
  exact Json.render_eq_of_alike Json.isPlain_canonical rfl
    (records json otherJson saved otherSaved) (hasDistinctKeys_saved saved)
    (hasDistinctKeys_saved otherSaved) rendered otherRendered

/-- Plans that have digests are alike if they are so unless surrogates make
pairs, and then they have the same digest. -/
theorem hash_eq {plan other : Plan} (alike : plan.AlikeBy UnpairedAlike other)
    (areKeyed : ∀ entry ∈ plan.root.terminals, entry.2.IsKeyed)
    (othersAreKeyed : ∀ entry ∈ other.root.terminals, entry.2.IsKeyed)
    {steps : List Step} {digest otherDigest : String}
    (hashed : plan.hash steps = .ok digest)
    (otherHashed : other.hash steps = .ok otherDigest) :
    digest = otherDigest := by
  have plansAlike : plan.Alike other :=
    ⟨PlanNode.alike_of_unpaired alike.root
      (hasUnpairedOptions_of_hash areKeyed hashed), alike.focusPaneId⟩
  obtain ⟨json, text, saved, rendered, _, isDigest⟩ := exists_of_hash hashed
  obtain ⟨otherJson, otherText, otherSaved, otherRendered, _, otherIsDigest⟩ :=
    exists_of_hash otherHashed
  rw [isDigest, otherIsDigest, canonicalText_eq plansAlike areKeyed
    othersAreKeyed saved otherSaved rendered otherRendered]

end Plan

/-- The emissions have the same steps and the same digest. -/
structure Emission.SameSteps (emission other : Emission) : Prop where
  steps : emission.steps = other.steps
  hash : emission.hash = other.hash

namespace Plan

/-- Alike plans have the same steps and the same digest. -/
theorem emit_alike {plan other : Plan}
    (alike : plan.AlikeBy UnpairedAlike other)
    (areKeyed : ∀ entry ∈ plan.root.terminals, entry.2.IsKeyed)
    (othersAreKeyed : ∀ entry ∈ other.root.terminals, entry.2.IsKeyed)
    {emission otherEmission : Emission} (emitted : plan.emit = .ok emission)
    (otherEmitted : other.emit = .ok otherEmission) :
    emission.SameSteps otherEmission := by
  obtain ⟨splits, isSplit, emitted⟩ := exists_of_bind_eq_ok emitted
  obtain ⟨initial, _, emitted⟩ := exists_of_bind_eq_ok emitted
  obtain ⟨hash, hashed, made⟩ := exists_of_bind_eq_ok emitted
  obtain ⟨_, otherIsSplit, otherEmitted⟩ :=
    exists_of_bind_eq_ok otherEmitted
  obtain ⟨otherInitial, _, otherEmitted⟩ := exists_of_bind_eq_ok otherEmitted
  obtain ⟨otherHash, otherHashed, otherMade⟩ :=
    exists_of_bind_eq_ok otherEmitted
  rw [alike.root.splitSteps_eq, otherIsSplit] at isSplit
  cases isSplit
  have focusStep : plan.focusStep = other.focusStep := by
    rw [focusStep, focusStep, alike.focusPaneId]
  rw [focusStep] at hashed
  cases hash_eq alike areKeyed othersAreKeyed hashed otherHashed
  cases made
  cases otherMade
  exact ⟨congrArg (splits ++ [Step.focus ·]) focusStep, rfl⟩

end Plan

/-! ### Prepared presets -/

/-- The problems have one code and are at one place. -/
inductive SameProblem : Problem → Problem → Prop where
  | failure {failure other : Failure} :
      failure.code = other.code → failure.path = other.path →
      SameProblem (.failure failure) (.failure other)

/-- The same errors are faults as problems. -/
theorem Compile.fault?_problem (source : String) (error : Compile.Error) :
    CarriesFault.fault? (error.problem source) = CarriesFault.fault? error := by
  cases error <;> rfl

theorem Preset.ofValue_alike {value other : Value}
    (reordered : value.Reordered other) (source otherSource : String) :
    Agree SameProblem Preset.Alike (ofValue source value)
      (ofValue otherSource other) := by
  have compiled := Compile.compile_reordered reordered source otherSource
  unfold ofValue
  generalize Compile.compile source value = result at compiled
  generalize Compile.compile otherSource other = otherResult at compiled
  cases compiled with
  | ok alike => exact .ok alike
  | error same =>
      cases same with
      | violation path sameCode => exact .error (.failure sameCode rfl)
  | fault _ isFault =>
      exact .fault _ ((Compile.fault?_problem source _).trans isFault)
  | otherFault _ isFault =>
      exact .otherFault _ ((Compile.fault?_problem otherSource _).trans isFault)

namespace Prepared

theorem ofPreset_alike {source otherSource : String} {value otherValue : Value}
    {preset other : Preset} (alike : preset.Alike other)
    (compiled : Preset.ofValue source value = .ok preset)
    (otherCompiled : Preset.ofValue otherSource otherValue = .ok other) :
    Agree SameProblem
      (fun prepared other => prepared.emission.SameSteps other.emission)
      (ofPreset preset) (ofPreset other) := by
  have plans := Plan.ofPreset_alike alike
  unfold ofPreset
  generalize planned : Plan.ofPreset preset = result at plans
  generalize otherPlanned : Plan.ofPreset other = otherResult at plans
  cases plans with
  | error same =>
      cases same
      exact .error (.failure rfl rfl)
  | fault _ isFault => cases isFault
  | otherFault _ isFault => cases isFault
  | @ok plan otherPlan alike =>
      have areKeyed := Plan.isKeyed_ofPreset compiled planned
      have othersAreKeyed := Plan.isKeyed_ofPreset otherCompiled otherPlanned
      dsimp only
      cases emitted : plan.emit with
      | error cause => exact .fault _ rfl
      | ok emission =>
          cases otherEmitted : otherPlan.emit with
          | error cause => exact .otherFault _ rfl
          | ok otherEmission =>
              exact .ok (Plan.emit_alike alike areKeyed othersAreKeyed emitted
                otherEmitted)

theorem ofValue_agree {value other : Value}
    (reordered : value.Reordered other) (source otherSource : String) :
    Agree SameProblem
      (fun prepared other => prepared.emission.SameSteps other.emission)
      (ofValue source value) (ofValue otherSource other) :=
  (Preset.ofValue_alike reordered source otherSource).remember.bind
    fun _ _ ⟨alike, compiled, otherCompiled⟩ =>
      ofPreset_alike alike compiled otherCompiled

/-- Documents that differ only in the order of mappings and sets fail with one
code at one place, or they have the same steps and the same digest. -/
theorem ofValue_reordered {source otherSource : String} {value other : Value}
    (reordered : value.Reordered other)
    (noFault : ∀ cause, ofValue source value ≠ .error (.fault cause))
    (otherNoFault : ∀ cause,
      ofValue otherSource other ≠ .error (.fault cause)) :
    (∃ failure otherFailure,
      ofValue source value = .error (.failure failure) ∧
      ofValue otherSource other = .error (.failure otherFailure) ∧
      failure.code = otherFailure.code ∧ failure.path = otherFailure.path) ∨
    (∃ prepared otherPrepared, ofValue source value = .ok prepared ∧
      ofValue otherSource other = .ok otherPrepared ∧
      prepared.emission.steps = otherPrepared.emission.steps ∧
      prepared.emission.hash = otherPrepared.emission.hash) := by
  have agree := ofValue_agree reordered source otherSource
  generalize ofValue source value = result at agree noFault
  generalize ofValue otherSource other = otherResult at agree otherNoFault
  cases agree with
  | ok same => exact .inr ⟨_, _, rfl, rfl, same.steps, same.hash⟩
  | error same =>
      cases same with
      | failure code path => exact .inl ⟨_, _, rfl, rfl, code, path⟩
  | @fault problem cause _ isFault =>
      cases problem with
      | failure => cases isFault
      | fault cause => exact absurd rfl (noFault cause)
  | @otherFault problem cause _ isFault =>
      cases problem with
      | failure => cases isFault
      | fault cause => exact absurd rfl (otherNoFault cause)

/-- A terminal with an environment and a set among its options. -/
def taggedShell : Value :=
  .mapping [(.text "name", .text "Tagged"), (.text "layout", .mapping [
    (.text "name", .text "shell"),
    (.text "env", .mapping [
      (.text "PORT", .text "80"), (.text "HOST", .text "::1")]),
    (.text "tags", .list [.set [.text "b", .null, .bool true]])])]

def taggedShellReordered : Value :=
  .mapping [(.text "layout", .mapping [
    (.text "name", .text "shell"),
    (.text "tags", .list [.set [.null, .text "b", .bool true]]),
    (.text "env", .mapping [
      (.text "HOST", .text "::1"), (.text "PORT", .text "80")])]),
    (.text "name", .text "Tagged")]

theorem taggedShell_reordered :
    taggedShell.Reordered taggedShellReordered := by
  have env : Value.Reordered
      (.record [("PORT", .text "80"), ("HOST", .text "::1")])
      (.record [("HOST", .text "::1"), ("PORT", .text "80")]) :=
    .mapping (hasTextKeys_textEntries (by decide)) (.swap _ _ [])
      (.cons (.refl _) (.cons (.refl _) .nil))
  have tags : Value.Reordered (.list [.set [.text "b", .null, .bool true]])
      (.list [.set [.null, .text "b", .bool true]]) :=
    .list (.cons (.set (.swap _ _ _)
      (.cons (.refl _) (.cons (.refl _) (.cons (.refl _) .nil)))) .nil)
  have shell := Reordered.mapping
    (hasTextKeys_textEntries (by decide : (Entries.keys [
      ("name", Value.text "shell"), ("env", _), ("tags", _)]).Nodup))
    ((List.Perm.swap _ _ []).cons _)
    (.cons (.refl _) (.cons tags (.cons env .nil)))
  exact .mapping (hasTextKeys_textEntries (by decide : (Entries.keys [
      ("name", Value.text "Tagged"), ("layout", _)]).Nodup))
    (.swap _ _ []) (.cons shell (.cons (.refl _) .nil))

theorem ofValue_reordered_taggedShell :
    ∃ prepared other, ofValue "local" taggedShell = .ok prepared ∧
      ofValue "local" taggedShellReordered = .ok other ∧
      prepared.emission.steps = other.emission.steps ∧
      prepared.emission.hash = other.emission.hash := by
  have inLimits : taggedShell.Everywhere Compile.InLimits := by
    simp [taggedShell, Everywhere, EverywhereEntries, EverywhereList,
      Compile.InLimits, lookup, isText, HasShortNumbers]
  have otherInLimits : taggedShellReordered.Everywhere Compile.InLimits := by
    simp [taggedShellReordered, Everywhere, EverywhereEntries, EverywhereList,
      Compile.InLimits, lookup, isText, HasShortNumbers]
  have encodable : taggedShell.Everywhere IsEncodable := by decide +kernel
  have otherEncodable : taggedShellReordered.Everywhere IsEncodable := by
    decide +kernel
  have noFault := ofValue_noFault inLimits encodable "local"
  have otherNoFault := ofValue_noFault otherInLimits otherEncodable "local"
  rcases ofValue_reordered taggedShell_reordered noFault otherNoFault with
    ⟨failure, _, failed, _⟩ | same
  · have evaluated : ((Preset.ofValue "local" taggedShell).toOption.bind
        fun preset => (Plan.ofPreset preset).toOption).isSome = true := by
      decide +kernel
    obtain ⟨plan, evaluated⟩ := Option.isSome_iff_exists.mp evaluated
    obtain ⟨preset, compiled, planned⟩ := Option.bind_eq_some_iff.mp evaluated
    rw [ofValue, ok_of_toOption_eq_some compiled] at failed
    change ofPreset preset = _ at failed
    rw [ofPreset, ok_of_toOption_eq_some planned] at failed
    dsimp only at failed
    split at failed <;> cases failed
  · exact same

end Prepared

end PaneLayout
