import PaneLayout.Diagnosis
import PaneLayout.Proofs.Plan.Recorded

/-!
# Where a diagnosis ends

A diagnosis ends in a report on every value, unless a stage of the preparation
meets a number that does not fit a double or has too many digits, or the digest
is taken of a text with a surrogate.  The fault of that stage is then the end of
the diagnosis.
-/

namespace PaneLayout

/-! ### Preparing -/

namespace Prepared

theorem ofPreset_faultsOnly {source : String} {value : Value}
    {preset : Preset} (compiled : Preset.ofValue source value = .ok preset) :
    FaultsOnly (Fault.IsDue (value.Everywhere Compile.InLimits)
      (value.Everywhere Value.IsEncodable)) (ofPreset preset) := by
  intro error cause isError isFault
  unfold ofPreset at isError
  cases planned : Plan.ofPreset preset with
  | error known =>
      rw [planned] at isError
      cases isError
      cases isFault
  | ok plan =>
      have emits := Plan.emit_faultsOnly_ofPreset compiled planned
      rw [planned] at isError
      dsimp only at isError
      split at isError
      · next known emitted =>
        cases isError
        exact emits known cause emitted isFault
      · cases isError

/-- Only the numbers and the texts of a value can keep it from being prepared
without a failure that explains why. -/
theorem ofValue_faultsOnly (source : String) (value : Value) :
    FaultsOnly (Fault.IsDue (value.Everywhere Compile.InLimits)
      (value.Everywhere Value.IsEncodable)) (ofValue source value) :=
  (Preset.ofValue_failsUnless source value).isDue.bind fun _ compiled =>
    ofPreset_faultsOnly compiled

/-- A value with numbers in their limits and without surrogates is prepared
without a fault. -/
theorem ofValue_noFault {value : Value}
    (inLimits : value.Everywhere Compile.InLimits)
    (encodable : value.Everywhere Value.IsEncodable) (source : String)
    (cause : Fault) : ofValue source value ≠ .error (.fault cause) := by
  intro isError
  rcases ofValue_faultsOnly source value _ cause isError rfl with
    ⟨_, beyond⟩ | ⟨_, surrogate⟩
  · exact beyond inLimits
  · exact surrogate encodable

end Prepared

/-! ### Diagnosing -/

namespace Diagnosis

/-- The fault of a diagnosis is the fault of preparing the preset under any
label. -/
theorem prepared_of_fault {preset : Value} {issues : List String}
    {cause : Fault} (isError : ofValue preset issues = .error cause)
    (source : String) :
    Prepared.ofValue source preset = .error (.fault cause) := by
  have advised : presetAdvice preset = .error cause := by
    cases advice : presetAdvice preset with
    | ok advices =>
        rw [ofValue, advice] at isError
        cases isError
    | error known =>
        rw [ofValue, advice] at isError
        cases isError
        rfl
  have prepared : preparationAdvice preset = .error cause := by
    cases preset with
    | mapping entries =>
        unfold presetAdvice at advised
        dsimp only at advised
        split at advised
        · cases advised
        · cases result : preparationAdvice (.mapping entries) with
          | ok advices =>
              rw [result] at advised
              cases advised
          | error known =>
              rw [result] at advised
              cases advised
              rfl
    | _ => cases advised
  rw [Prepared.ofValue_relabeled sourceLabel source]
  unfold preparationAdvice at prepared
  split at prepared
  · cases prepared
  · next known isKnown =>
    cases prepared
    rw [isKnown]
    rfl
  · cases prepared

/-- On every value a diagnosis ends in a report or in the fault that preparing
the value comes to.  Then a number of the value is not in its limits: it does
not fit a double, or it has too many digits.  Or a text of the value holds a
surrogate, so that no digest can be taken. -/
theorem report_or_fault (preset : Value) (issues : List String) :
    (∃ report, ofValue preset issues = .ok report) ∨
      ∃ cause, ofValue preset issues = .error cause ∧
        (cause.IsNumeric ∧ ¬ preset.Everywhere Compile.InLimits ∨
          cause = .unencodableText ∧
            ¬ preset.Everywhere Value.IsEncodable) ∧
        ∀ source, Prepared.ofValue source preset = .error (.fault cause) := by
  cases result : ofValue preset issues with
  | ok report => exact .inl ⟨report, rfl⟩
  | error cause =>
      have prepared := prepared_of_fault result
      exact .inr ⟨cause, rfl, Prepared.ofValue_faultsOnly sourceLabel preset _
        cause (prepared sourceLabel) rfl, prepared⟩

/-- No digest is taken of a plan with a surrogate in a name. -/
example :
    ofValue (.mapping [(.text "layout", .mapping [(.text "name",
      .text (String.singleton (Char.ofNat firstStandIn)))])]) [] =
      .error .unencodableText := by
  decide +kernel

/-- A weight that is beyond the range of doubles. -/
def hugeWeight : Value :=
  .mapping [(.text "layout", .mapping [
    (.text "type", .text "horizontal"),
    (.text "ratio", .list [.int (10 ^ 400), .int 1]),
    (.text "panes", .list [
      .mapping [(.text "name", .text "a")],
      .mapping [(.text "name", .text "b")]])])]

/-- A diagnosis may end without a report. -/
theorem no_report_hugeWeight :
    ¬ ∃ report, ofValue hugeWeight [] = .ok report := by
  have failed : ofValue hugeWeight [] = .error .numberTooLarge := by
    decide +kernel
  rintro ⟨report, reported⟩
  rw [failed] at reported
  cases reported

end Diagnosis

end PaneLayout
