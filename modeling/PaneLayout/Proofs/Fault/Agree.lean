import PaneLayout.Proofs.Fault

/-!
# Results that agree

Two results agree if both are values that are related, or both are errors that
are.  A fault agrees with everything: nothing is claimed where one strikes.
Operations that agree are composed of operations that do so.
-/

namespace PaneLayout

/-- The results are related, unless one of them is a fault. -/
inductive Agree {ε α β : Type} [CarriesFault ε] (errors : ε → ε → Prop)
    (values : α → β → Prop) : Except ε α → Except ε β → Prop where
  | ok {value : α} {other : β} : values value other →
      Agree errors values (.ok value) (.ok other)
  | error {error other : ε} : errors error other →
      Agree errors values (.error error) (.error other)
  | fault {error : ε} {cause : Fault} (result : Except ε β) :
      CarriesFault.fault? error = some cause →
      Agree errors values (.error error) result
  | otherFault {error : ε} {cause : Fault} (result : Except ε α) :
      CarriesFault.fault? error = some cause →
      Agree errors values result (.error error)

namespace Agree

variable {ε α β γ δ : Type} [CarriesFault ε] {errors : ε → ε → Prop}
  {values : α → β → Prop} {laterValues : γ → δ → Prop}
  {result : Except ε α} {other : Except ε β}

theorem bind {next : α → Except ε γ} {otherNext : β → Except ε δ}
    (agree : Agree errors values result other)
    (later : ∀ value otherValue, values value otherValue →
      Agree errors laterValues (next value) (otherNext otherValue)) :
    Agree errors laterValues (result >>= next) (other >>= otherNext) := by
  cases agree with
  | ok related => exact later _ _ related
  | error related => exact .error related
  | fault _ isFault => exact .fault _ isFault
  | otherFault _ isFault => exact .otherFault _ isFault

theorem map {make : α → γ} {otherMake : β → δ}
    (agree : Agree errors values result other)
    (made : ∀ value otherValue, values value otherValue →
      laterValues (make value) (otherMake otherValue)) :
    Agree errors laterValues (result.map make) (other.map otherMake) := by
  cases agree with
  | ok related => exact .ok (made _ _ related)
  | error related => exact .error related
  | fault _ isFault => exact .fault _ isFault
  | otherFault _ isFault => exact .otherFault _ isFault

/-- What agrees also comes from the results that agree. -/
theorem remember (agree : Agree errors values result other) :
    Agree errors (fun value otherValue => values value otherValue ∧
      result = .ok value ∧ other = .ok otherValue) result other := by
  cases agree with
  | ok related => exact .ok ⟨related, rfl, rfl⟩
  | error related => exact .error related
  | fault _ isFault => exact .fault _ isFault
  | otherFault _ isFault => exact .otherFault _ isFault

end Agree

end PaneLayout
