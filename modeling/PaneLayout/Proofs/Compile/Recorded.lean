import PaneLayout.Proofs.Compile.Layout
import PaneLayout.Proofs.Compile.Limits
import PaneLayout.Proofs.Json.Encoded

/-!
# What a compiled layout records

A split has one entry of its ratio for each child.  The numbers that the records
of a layout hold are delays, numbers in options, and the counts of ratios.  They
can all be written if the numbers of the document keep to their limits, and no
text has a surrogate if no text of the document has one.
-/

namespace PaneLayout

open Value

/-- The texts of a terminal, apart from its environment and its options. -/
def Terminal.labels (leaf : Terminal) : List String :=
  leaf.name ::
    (leaf.command.toList ++ leaf.cwd.toList ++ leaf.title.toList)

/-- The delay can be written, the texts have no surrogates if a condition holds,
and the options are made of records. -/
structure Terminal.IsRecordable (numbers texts : Prop) (leaf : Terminal) :
    Prop where
  labels : texts → ∀ label ∈ leaf.labels, hasSurrogate label = false
  env : ∀ env, leaf.env = some env → texts → ∀ assignment ∈ env,
    hasSurrogate assignment.1 = false ∧ hasSurrogate assignment.2 = false
  delay : ∀ milliseconds, leaf.delay = some milliseconds →
    (Value.int milliseconds).HasShortNumbers
  options : ∀ fields, leaf.options = some fields →
    ∀ field ∈ fields, IsField numbers texts field

/-- The number of entries and the sum of the fixed ones can be written. -/
structure Ratio.HasShortCounts (ratio : Ratio) : Prop where
  length : ratio.length < Nat.pow 10 digitLimit
  cells : total ratio.fixedCells < Nat.pow 10 digitLimit

namespace Layout

mutual

/-- There is an entry of the ratio for each child, and what is recorded can be
written if the conditions hold. -/
def IsRecordable (numbers texts : Prop) : Layout → Prop
  | .terminal leaf => leaf.IsRecordable numbers texts
  | .split _ ratio panes =>
      ratio.length = panes.length ∧ (numbers → ratio.HasShortCounts) ∧
        IsRecordableList numbers texts panes

def IsRecordableList (numbers texts : Prop) : List Layout → Prop
  | [] => True
  | pane :: panes =>
      pane.IsRecordable numbers texts ∧ IsRecordableList numbers texts panes

end

end Layout

namespace Compile

variable {numbers texts : Prop}

/-! ### Terminals -/

theorem delay_short {value : Option Value} {milliseconds : Int}
    (ok : delay value = .ok (some milliseconds)) :
    (Value.int milliseconds).HasShortNumbers := by
  unfold delay at ok
  split at ok
  · next whole =>
    obtain ⟨x, converted, ok⟩ := exists_of_bind_eq_ok ok
    split at ok <;> cases ok
    exact FitsDouble.hasShortNumbers ⟨x, converted⟩
  · next x =>
    split at ok
    · next finite =>
      rw [Bool.and_eq_true, Bool.not_eq_true', decide_eq_false_iff_not]
        at finite
      cases truncated : Binary64.truncate x with
      | error cause =>
          rw [truncated] at ok
          cases ok
      | ok whole =>
          rw [truncated] at ok
          cases ok
          have positive := (Binary64.pos_iff_of_isFinite finite.1).mpr finite.2
          have nonneg := Binary64.truncate_nonneg finite.1 positive truncated
          have below := Binary64.truncate_lt finite.1 truncated
          exact short_of_lt_two_pow (n := milliseconds.natAbs) le_rfl (by omega)
    · cases ok
  · cases ok

section Members

variable {value : Value} {json : Json}
  (short : numbers → value.Everywhere HasShortNumbers)
  (encodable : texts → value.Everywhere IsEncodable)

include short encodable

theorem memberValues_isField (ok : value.canonical = .ok json) :
    ∀ field ∈ memberValues json, IsField numbers texts field := by
  have writable (holds : numbers) := writable_of_canonical (short holds) ok
  have plain (holds : texts) := encodable_canonical _ _ (encodable holds) ok
  cases json with
  | object members =>
      refine List.forall_mem_map.mpr fun field member => ⟨?_, ?_⟩
      · exact fun holds => (encodable_object_iff.mp (plain holds) _ member).1
      · exact Json.toValue_isRecord
          (fun holds => Json.writableMembers_iff.mp (writable holds) _ member)
          fun holds => (encodable_object_iff.mp (plain holds) _ member).2
  | _ => exact List.forall_mem_nil _

end Members

section Terminals

variable {entries : List (Value × Value)}
  (short : numbers → EverywhereEntries HasShortNumbers entries)
  (encodable : texts → EverywhereEntries IsEncodable entries)

include short encodable

theorem options_isField {merged : Entries Value}
    (ok : options entries = .ok (some merged)) :
    ∀ field ∈ merged, IsField numbers texts field := by
  obtain ⟨json, converted, ok⟩ := exists_of_bind_eq_ok ok
  have unused {property : Value → Prop} (here : property (.mapping (entries.filter
        fun entry => !isTerminalKey entry.1)))
      (inside : EverywhereEntries property entries) :
      (Value.mapping (entries.filter fun entry =>
        !isTerminalKey entry.1)).Everywhere property := by
    refine ⟨here, everywhereEntries_iff.mpr fun entry member => ?_⟩
    exact everywhereEntries_iff.mp inside entry (List.mem_filter.mp member).1
  have overlay : ∀ field ∈ memberValues json, IsField numbers texts field :=
    memberValues_isField (fun holds => unused trivial (short holds))
      (fun holds => unused trivial (encodable holds)) converted
  dsimp only at ok
  split at ok
  · next explicit found =>
    obtain ⟨base, baseConverted, made⟩ := exists_of_bind_eq_ok ok
    obtain ⟨_, isMerged⟩ :=
      Option.ite_none_left_eq_some.mp (Except.ok.inj made)
    cases isMerged
    have bases := memberValues_isField
      (fun holds : numbers => Everywhere.of_lookup (short holds) found)
      (fun holds : texts => Everywhere.of_lookup (encodable holds) found)
      baseConverted
    intro field member
    exact (Entries.mem_putAll member).elim (bases field) (overlay field)
  · obtain ⟨_, isMerged⟩ := Option.ite_none_left_eq_some.mp (Except.ok.inj ok)
    cases isMerged
    exact overlay

end Terminals

section Texts

variable {entries : List (Value × Value)}
  (encodable : EverywhereEntries IsEncodable entries)

include encodable

theorem hasSurrogate_textField {key text : String}
    (found : textField entries key = some text) :
    hasSurrogate text = false := by
  obtain ⟨value, isValue, isText⟩ := Option.bind_eq_some_iff.mp found
  have plain := Everywhere.of_lookup encodable isValue
  cases value with
  | text content =>
      cases isText
      exact plain
  | _ => cases isText

theorem hasSurrogate_assignments {named : Entries String}
    (ok : entries.filterMapM assignment? = .ok named) :
    ∀ assignment ∈ named, hasSurrogate assignment.1 = false ∧
      hasSurrogate assignment.2 = false := by
  induction entries generalizing named with
  | nil =>
      cases ok
      exact List.forall_mem_nil _
  | cons entry entries induction =>
      obtain ⟨key, value⟩ := entry
      obtain ⟨plainKey, plain, later⟩ := encodable
      rw [List.filterMapM_cons] at ok
      obtain ⟨kept, isKept, ok⟩ := exists_of_bind_eq_ok ok
      cases value with
      | text content =>
          obtain ⟨name, isName, made⟩ := exists_of_bind_eq_ok isKept
          cases made
          obtain ⟨rest, isRest, made⟩ := exists_of_bind_eq_ok ok
          cases made
          exact List.forall_mem_cons.mpr
            ⟨⟨hasSurrogate_keyText plainKey isName, plain⟩,
              induction later isRest⟩
      | _ =>
          cases isKept
          exact induction later ok

end Texts

theorem hasSurrogate_environment {content : Option Value}
    {env : Entries String}
    (encodable : ∀ value, content = some value →
      value.Everywhere IsEncodable)
    (ok : environment content = .ok (some env)) :
    ∀ assignment ∈ env, hasSurrogate assignment.1 = false ∧
      hasSurrogate assignment.2 = false := by
  unfold environment at ok
  split at ok
  · obtain ⟨named, isNamed, made⟩ := exists_of_bind_eq_ok ok
    obtain ⟨_, isEnv⟩ := Option.ite_none_left_eq_some.mp (Except.ok.inj made)
    cases isEnv
    exact fun assignment member =>
      hasSurrogate_assignments (encodable _ rfl).2 isNamed assignment
        (Entries.mem_ofList member)
  · cases ok

theorem terminal_isRecordable {entries : List (Value × Value)}
    {leaf : Terminal}
    (short : numbers → EverywhereEntries HasShortNumbers entries)
    (encodable : texts → EverywhereEntries IsEncodable entries)
    (ok : terminal entries = .ok leaf) : leaf.IsRecordable numbers texts := by
  obtain ⟨env, envOk, ok⟩ := exists_of_bind_eq_ok ok
  obtain ⟨milliseconds, delayOk, ok⟩ := exists_of_bind_eq_ok ok
  obtain ⟨merged, optionsOk, made⟩ := exists_of_bind_eq_ok ok
  cases made
  constructor
  · intro holds
    have field {key label : String}
        (member : label ∈ (textField entries key).toList) :
        hasSurrogate label = false :=
      hasSurrogate_textField (encodable holds) (Option.mem_toList.mp member)
    refine List.forall_mem_cons.mpr ⟨?_, List.forall_mem_append.mpr
      ⟨List.forall_mem_append.mpr ⟨fun _ => field, fun _ => field⟩,
        fun _ => field⟩⟩
    cases found : textField entries "name" with
    | none => rfl
    | some name => exact hasSurrogate_textField (encodable holds) found
  · rintro some rfl holds
    exact hasSurrogate_environment
      (fun _ found => Everywhere.of_lookup (encodable holds) found) envOk
  · rintro some rfl
    exact delay_short delayOk
  · rintro fields rfl
    exact options_isField short encodable optionsOk

/-! ### Splits -/

theorem hasShortCounts_of_parse {raw : List Value} {ratio : Ratio}
    (read : List.Forall₂
      (fun value entry => RatioEntry.parse value = .ok (some entry)) raw ratio)
    (inLimits : RatioInLimits raw) : ratio.HasShortCounts where
  length := read.length_eq ▸ inLimits.length
  cells := by
    refine inLimits.cells ratio ?_
    have both := (List.forall₂_and_left _ _).mpr ⟨inLimits.entries, read⟩
    exact both.imp fun value entry ⟨⟨short, _⟩, isParsed⟩ =>
      (RatioEntry.parse_eq_some_iff short).mp isParsed

theorem CompilesAll.length_eq : ∀ {path : String} {index : Nat}
    {items : List Value} {panes : List Layout},
    CompilesAll path index items panes → items.length = panes.length
  | _, _, _, _, .nil => rfl
  | _, _, _, _, .cons _ rest => congrArg (· + 1) rest.length_eq

/-! ### Nodes -/

mutual

theorem Compiles.isRecordable : ∀ {path : String} {value : Value}
    {layout : Layout}, Compiles path value layout →
    (numbers → value.Everywhere InLimits) →
    (texts → value.Everywhere IsEncodable) → layout.IsRecordable numbers texts
  | _, _, _, .split _ headerOk found _ children, inLimits, encodable => by
      obtain ⟨items, raw, isPanes, _, hasRatio, same, ratioOk⟩ :=
        splitHeader_ok headerOk
      rw [found] at isPanes
      cases isPanes
      have read := ratioEntries_parse ratioOk
      refine ⟨?_, fun holds => ?_, ?_⟩
      · rw [← read.length_eq, same, children.length_eq]
      · exact hasShortCounts_of_parse read ((inLimits holds).1.2 raw hasRatio)
      · exact children.isRecordable
          (fun holds => (Everywhere.of_lookup (inLimits holds).2 found).2)
          fun holds => (Everywhere.of_lookup (encodable holds).2 found).2
  | _, _, _, .terminal _ leafOk, inLimits, encodable =>
      terminal_isRecordable (fun holds =>
        Everywhere.monoEntries (fun _ => InLimits.hasShortNumbers) _
          (inLimits holds).2) (fun holds => (encodable holds).2) leafOk

theorem CompilesAll.isRecordable : ∀ {path : String} {index : Nat}
    {items : List Value} {panes : List Layout},
    CompilesAll path index items panes →
    (numbers → EverywhereList InLimits items) →
    (texts → EverywhereList IsEncodable items) →
    Layout.IsRecordableList numbers texts panes
  | _, _, _, _, .nil, _, _ => trivial
  | _, _, _, _, .cons first rest, inLimits, encodable =>
      ⟨first.isRecordable (fun holds => (inLimits holds).1)
          fun holds => (encodable holds).1,
        rest.isRecordable (fun holds => (inLimits holds).2)
          fun holds => (encodable holds).2⟩

end

end Compile

end PaneLayout
