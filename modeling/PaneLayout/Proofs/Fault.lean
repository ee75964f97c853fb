import Mathlib.Data.List.Forall2
import PaneLayout.Fault

/-!
# Operations that may fail

An operation that fails only because of its numbers is composed of operations
that do so.  Errors of several types may stand for a fault.
-/

namespace PaneLayout

theorem exists_of_bind_eq_ok {ε α β : Type} {first : Except ε α}
    {next : α → Except ε β} {result : β} (ok : first >>= next = .ok result) :
    ∃ value, first = .ok value ∧ next value = .ok result := by
  cases first with
  | error error => cases ok
  | ok value => exact ⟨value, rfl, ok⟩

theorem forall₂_of_mapM {ε α β : Type} {operation : α → Except ε β}
    {items : List α} {results : List β}
    (mapped : items.mapM operation = .ok results) :
    List.Forall₂ (fun item result => operation item = .ok result) items
      results := by
  induction items generalizing results with
  | nil =>
      cases mapped
      exact .nil
  | cons item items induction =>
      rw [List.mapM_cons] at mapped
      obtain ⟨first, isFirst, mapped⟩ := exists_of_bind_eq_ok mapped
      obtain ⟨rest, isRest, mapped⟩ := exists_of_bind_eq_ok mapped
      cases mapped
      exact .cons isFirst (induction isRest)

theorem mapM_of_forall₂ {ε α β : Type} {operation : α → Except ε β}
    {items : List α} {results : List β}
    (ok : List.Forall₂ (fun item result => operation item = .ok result) items
      results) :
    items.mapM operation = .ok results := by
  induction ok with
  | nil => rfl
  | cons isFirst _ induction =>
      rw [List.mapM_cons, isFirst, induction]
      rfl

theorem exists_of_mem_right {α β : Type} {related : α → β → Prop}
    {items : List α} {results : List β}
    (all : List.Forall₂ related items results) {result : β}
    (member : result ∈ results) : ∃ item ∈ items, related item result := by
  induction all with
  | nil => cases member
  | cons first _ induction =>
      rcases List.mem_cons.mp member with rfl | later
      · exact ⟨_, List.mem_cons_self, first⟩
      · obtain ⟨item, isItem, isRelated⟩ := induction later
        exact ⟨item, List.mem_cons_of_mem _ isItem, isRelated⟩

theorem exists_error_of_mapM {ε α β : Type} {operation : α → Except ε β}
    {items : List α} {error : ε}
    (failed : items.mapM operation = .error error) :
    ∃ item ∈ items, operation item = .error error := by
  induction items with
  | nil => cases failed
  | cons item items induction =>
      rw [List.mapM_cons] at failed
      cases isFirst : operation item with
      | error other =>
          rw [isFirst] at failed
          cases failed
          exact ⟨item, List.mem_cons_self, isFirst⟩
      | ok first =>
          rw [isFirst] at failed
          cases isRest : items.mapM operation with
          | error other =>
              rw [isRest] at failed
              cases failed
              obtain ⟨later, member, isError⟩ := induction isRest
              exact ⟨later, List.mem_cons_of_mem _ member, isError⟩
          | ok rest =>
              rw [isRest] at failed
              cases failed

theorem exists_mapM_ok {ε α β : Type} {operation : α → Except ε β}
    {items : List α}
    (ok : ∀ item ∈ items, ∃ result, operation item = .ok result) :
    ∃ results, items.mapM operation = .ok results := by
  cases mapped : items.mapM operation with
  | ok results => exact ⟨results, rfl⟩
  | error error =>
      obtain ⟨item, member, failed⟩ := exists_error_of_mapM mapped
      obtain ⟨result, isOk⟩ := ok item member
      rw [failed] at isOk
      cases isOk

theorem ok_of_toOption_eq_some {ε α : Type} {result : Except ε α} {value : α}
    (found : result.toOption = some value) : result = .ok value := by
  cases result with
  | error error => cases found
  | ok other =>
      cases found
      rfl

/-- Errors of which some stand for a fault. -/
class CarriesFault (ε : Type) where
  fault? : ε → Option Fault

instance : CarriesFault Fault where
  fault? := some

/-- If there is a fault, it has one of the given causes. -/
def FaultsOnly {ε α : Type} [CarriesFault ε] (causes : Fault → Prop)
    (result : Except ε α) : Prop :=
  ∀ error cause, result = .error error →
    CarriesFault.fault? error = some cause → causes cause

section FaultsOnly

variable {ε α β : Type} [CarriesFault ε] {causes : Fault → Prop}

theorem faultsOnly_ok (value : α) :
    FaultsOnly causes (.ok value : Except ε α) :=
  fun _ _ isError => nomatch isError

theorem FaultsOnly.mono {others : Fault → Prop} {result : Except ε α}
    (faults : FaultsOnly causes result)
    (weaker : ∀ cause, causes cause → others cause) :
    FaultsOnly others result :=
  fun error cause isError isFault =>
    weaker cause (faults error cause isError isFault)

theorem FaultsOnly.bind {first : Except ε α} {next : α → Except ε β}
    (ofFirst : FaultsOnly causes first)
    (ofNext : ∀ value, first = .ok value → FaultsOnly causes (next value)) :
    FaultsOnly causes (first >>= next) := by
  intro error cause isError isFault
  cases first with
  | error known => exact ofFirst error cause (by cases isError; rfl) isFault
  | ok value => exact ofNext value rfl error cause isError isFault

theorem FaultsOnly.map {result : Except ε α}
    (faults : FaultsOnly causes result) (change : α → β) :
    FaultsOnly causes (result.map change) := by
  intro error cause isError isFault
  cases result with
  | error known => exact faults error cause (by cases isError; rfl) isFault
  | ok value => cases isError

end FaultsOnly

/-- A number is beyond the range of doubles or has too many digits. -/
def Fault.IsNumeric (cause : Fault) : Prop :=
  cause = .numberTooLarge ∨ cause = .numeralTooLong

/-- It is the fault of a number, and one condition does not hold, or the fault of
a text, and another one does not. -/
def Fault.IsDue (numbers texts : Prop) (cause : Fault) : Prop :=
  cause.IsNumeric ∧ ¬ numbers ∨ cause = .unencodableText ∧ ¬ texts

/-- If there is a fault, it is a number, and a condition does not hold. -/
def FailsUnless {ε α : Type} [CarriesFault ε] (condition : Prop)
    (result : Except ε α) : Prop :=
  ∀ error cause, result = .error error →
    CarriesFault.fault? error = some cause → cause.IsNumeric ∧ ¬ condition

section FailsUnless

variable {ε α β : Type} [CarriesFault ε] {condition : Prop}

theorem failsUnless_iff {result : Except ε α} :
    FailsUnless condition result ↔
      FaultsOnly (fun cause => cause.IsNumeric ∧ ¬ condition) result :=
  Iff.rfl

/-- Texts have no part in such faults. -/
theorem FailsUnless.isDue {texts : Prop} {result : Except ε α}
    (fails : FailsUnless condition result) :
    FaultsOnly (Fault.IsDue condition texts) result :=
  (failsUnless_iff.mp fails).mono fun _ => .inl

theorem failsUnless_ok (value : α) :
    FailsUnless condition (.ok value : Except ε α) :=
  failsUnless_iff.mpr (faultsOnly_ok value)

theorem failsUnless_of_ok {result : Except ε α}
    (ok : ∃ value, result = .ok value) : FailsUnless condition result := by
  obtain ⟨value, rfl⟩ := ok
  exact failsUnless_ok value

theorem FailsUnless.mono {stronger : Prop} {result : Except ε α}
    (fails : FailsUnless condition result) (implies : stronger → condition) :
    FailsUnless stronger result :=
  failsUnless_iff.mpr <| (failsUnless_iff.mp fails).mono
    fun _ ⟨numeric, unmet⟩ => ⟨numeric, fun holds => unmet (implies holds)⟩

/-- An operation that never fails if the condition holds, and otherwise only
because of its numbers. -/
theorem FailsUnless.of_ok {result : Except ε α}
    (fails : FailsUnless False result)
    (ok : condition → ∃ value, result = .ok value) :
    FailsUnless condition result := by
  intro error cause isError isFault
  refine ⟨(fails error cause isError isFault).1, fun holds => ?_⟩
  obtain ⟨value, isOk⟩ := ok holds
  rw [isOk] at isError
  cases isError

theorem FailsUnless.exists_ok {result : Except Fault α}
    (fails : FailsUnless condition result) (holds : condition) :
    ∃ value, result = .ok value := by
  cases result with
  | error cause => exact absurd holds (fails cause cause rfl rfl).2
  | ok value => exact ⟨value, rfl⟩

theorem FailsUnless.bind {first : Except ε α} {next : α → Except ε β}
    (fails : FailsUnless condition first)
    (later : ∀ value, first = .ok value →
      FailsUnless condition (next value)) :
    FailsUnless condition (first >>= next) :=
  failsUnless_iff.mpr <| (failsUnless_iff.mp fails).bind
    fun value isOk => failsUnless_iff.mp (later value isOk)

theorem FailsUnless.map {result : Except ε α}
    (fails : FailsUnless condition result) (change : α → β) :
    FailsUnless condition (result.map change) :=
  failsUnless_iff.mpr ((failsUnless_iff.mp fails).map change)

end FailsUnless

end PaneLayout
