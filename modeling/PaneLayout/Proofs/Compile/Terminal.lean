import PaneLayout.Preset.Compile
import PaneLayout.Proofs.Json.Written

/-!
# Terminals are never refused

Fields of the wrong kind are ignored, so a mapping that counts as a terminal is
one, as long as its numbers are not too long and its delay fits a double.
-/

namespace PaneLayout.Compile

open Value

theorem assignments_failsUnless (entries : List (Value × Value)) :
    FailsUnless (EverywhereEntries HasShortNumbers entries)
      (entries.filterMapM assignment?) := by
  induction entries with
  | nil => exact failsUnless_ok _
  | cons entry entries induction =>
      obtain ⟨key, value⟩ := entry
      rw [List.filterMapM_cons]
      refine FailsUnless.bind ?_ fun kept _ => ?_
      · cases value with
        | text value =>
            exact ((keyText_failsUnless key).mono And.left).bind
              fun _ _ => failsUnless_ok _
        | _ => exact failsUnless_ok _
      · have later := induction.mono fun short :
          EverywhereEntries HasShortNumbers ((key, value) :: entries) =>
            short.2.2
        cases kept with
        | none => exact later
        | some assignment => exact later.bind fun _ _ => failsUnless_ok _

theorem environment_failsUnless (value : Option Value) :
    FailsUnless
      (∀ present, value = some present → present.Everywhere HasShortNumbers)
      (environment value) := by
  unfold environment
  split
  · next entries =>
    exact ((assignments_failsUnless entries).mono
      fun short => (short _ rfl).2).bind fun _ _ => failsUnless_ok _
  · exact failsUnless_ok _

theorem truncate_ok {x : Float} (finite : x.isFinite) :
    ∃ whole, Binary64.truncate x = .ok whole := by
  obtain ⟨value, exact_⟩ := Binary64.dyadic?_of_isFinite finite
  exact ⟨_, by rw [Binary64.truncate, exact_]⟩

theorem delay_failsUnless (value : Option Value) :
    FailsUnless (∀ n, value = some (.int n) → (Value.int n).FitsDouble)
      (delay value) := by
  unfold delay
  split
  · next n =>
    exact ((ofInt_failsUnless n).mono fun fits => fits n rfl).bind
      fun _ _ => failsUnless_ok _
  · next x =>
    split
    · next finite =>
      rw [Bool.and_eq_true] at finite
      exact (failsUnless_of_ok (truncate_ok finite.1)).map some
    · exact failsUnless_ok _
  · exact failsUnless_ok _

theorem options_failsUnless (entries : List (Value × Value)) :
    FailsUnless (EverywhereEntries HasShortNumbers entries)
      (options entries) := by
  unfold options
  refine FailsUnless.bind ((canonical_failsUnless _).mono
    fun short => ⟨trivial, everywhereEntries_iff.mpr fun entry member => ?_⟩)
    fun _ _ => ?_
  · exact everywhereEntries_iff.mp short entry (List.mem_filter.mp member).1
  · split
    · next explicit found =>
      exact ((canonical_failsUnless _).mono fun short =>
        Everywhere.of_lookup short found).bind fun _ _ => failsUnless_ok _
    · exact failsUnless_ok _

/-- Reading a terminal fails only on numbers: on those with too many digits, and
on a delay that does not fit a double. -/
theorem terminal_failsUnless (entries : List (Value × Value)) :
    FailsUnless (EverywhereEntries HasShortNumbers entries ∧
      ∀ n, lookup entries "delay" = some (.int n) → (Value.int n).FitsDouble)
      (terminal entries) := by
  have environmentFails := (environment_failsUnless (lookup entries "env")).mono
    fun (short : EverywhereEntries HasShortNumbers entries) _ =>
      Everywhere.of_lookup short
  exact (environmentFails.mono And.left).bind fun _ _ =>
    ((delay_failsUnless _).mono And.right).bind fun _ _ =>
      ((options_failsUnless entries).mono And.left).bind
        fun _ _ => failsUnless_ok _

theorem terminal_ok {entries : List (Value × Value)}
    (short : EverywhereEntries HasShortNumbers entries)
    (fits : ∀ n, lookup entries "delay" = some (.int n) →
      (Value.int n).FitsDouble) :
    ∃ leaf, terminal entries = .ok leaf ∧
      leaf.name = (textField entries "name").getD "" ∧
      leaf.command = textField entries "command" := by
  obtain ⟨leaf, ok⟩ := (terminal_failsUnless entries).exists_ok ⟨short, fits⟩
  refine ⟨leaf, ok, ?_⟩
  obtain ⟨env, _, ok⟩ := exists_of_bind_eq_ok ok
  obtain ⟨milliseconds, _, ok⟩ := exists_of_bind_eq_ok ok
  obtain ⟨merged, _, made⟩ := exists_of_bind_eq_ok ok
  cases made
  exact ⟨rfl, rfl⟩

end PaneLayout.Compile
