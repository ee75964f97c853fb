import PaneLayout.Proofs.Config.Kept

/-!
# What reading a configuration file comes to

Reading a configuration answers with a configuration and warnings, whatever lies
at its path.  There are two exceptions: bytes that are no text, and text with
something in it that has no value, such as a date that does not exist.  They
stop the reading instead of being reported.
-/

namespace PaneLayout.Config

/-- The answer for a file as a whole: nothing is used, and one warning says
why. -/
def refusal (file message : String) (value : Value) :
    Config × List ConfigWarning :=
  ({}, [.ofFile file message value])

section Outcomes

variable (reader : Reader)

/-- What reading a configuration answers. -/
inductive Answers (file : String) :
    Location → Config × List ConfigWarning → Prop where
  | missing {location : Location} : location.isThere = false →
      Answers file location ({}, [])
  | unreadable : Answers file .directory
      (refusal file ("File read error: [Errno 21] Is a directory: " ++
        quoted file) .null)
  | malformed {text reason : String} :
      reader.document text = .error (.malformed reason) →
      Answers file (.file text.toUTF8.data.toList)
        (refusal file ("YAML parse error: " ++ reason) .null)
  | empty {text : String} : reader.document text = .ok .null →
      Answers file (.file text.toUTF8.data.toList) ({}, [])
  | noMapping {text : String} {value : Value} :
      reader.document text = .ok value → value ≠ .null →
      (∀ entries, value ≠ .mapping entries) →
      Answers file (.file text.toUTF8.data.toList)
        (refusal file "Top-level YAML value must be a mapping"
          (.text value.kindName))
  | mapping {text : String} {entries : List (Value × Value)} :
      reader.document text = .ok (.mapping entries) →
      Answers file (.file text.toUTF8.data.toList)
        ((recover reader.validate entries).1,
          (recover reader.validate entries).2.map (ConfigWarning.ofIssue file))

/-- What stops reading a configuration. -/
inductive Stops : Location → Fault → Prop where
  | undecodable {octets : List UInt8} :
      (∀ text : String, text.toUTF8.data.toList ≠ octets) →
      Stops (.file octets) .undecodableText
  | unbuildable {text : String} {cause : Fault} :
      reader.document text = .error (.stopped cause) →
      Stops (.file text.toUTF8.data.toList) cause

end Outcomes

theorem decodeText_eq_ok {octets : List UInt8} {text : String}
    (decoded : Value.decodeText octets = .ok text) :
    text.toUTF8.data.toList = octets := by
  unfold Value.decodeText String.fromUTF8? at decoded
  split at decoded
  · next same =>
    split at same
    · cases same
      cases decoded
      rfl
    · cases same
  · cases decoded

theorem decodeText_eq_error {octets : List UInt8} {cause : Fault}
    (failed : Value.decodeText octets = .error cause) :
    cause = .undecodableText ∧
      ∀ text : String, text.toUTF8.data.toList ≠ octets := by
  constructor
  · unfold Value.decodeText at failed
    split at failed <;> cases failed
    rfl
  · rintro text rfl
    rw [decodeText_toUTF8] at failed
    cases failed

theorem load_undecodable (reader : Reader) (file : String)
    {octets : List UInt8} {cause : Fault}
    (failed : Value.decodeText octets = .error cause) :
    load reader file (.file octets) = .error cause := by
  simp only [load, Location.read, failed, Location.isThere]
  rfl

section Outcomes

variable {reader : Reader} {file : String} {location : Location}

theorem Answers.load_eq {answer : Config × List ConfigWarning}
    (answers : Answers reader file location answer) :
    load reader file location = .ok answer := by
  cases answers with
  | missing notThere => simp only [load, notThere]; rfl
  | unreadable => rfl
  | malformed failed =>
      rw [load_of_text reader file (decodeText_toUTF8 _), failed]
      rfl
  | empty read =>
      rw [load_of_text reader file (decodeText_toUTF8 _), read]
      rfl
  | noMapping read notNull noMapping =>
      rw [load_of_text reader file (decodeText_toUTF8 _), read]
      cases ‹Value› with
      | null => exact absurd rfl notNull
      | mapping entries => exact absurd rfl (noMapping entries)
      | _ => rfl
  | mapping read => exact load_of_mapping (decodeText_toUTF8 _) read

theorem Stops.load_eq {cause : Fault} (stops : Stops reader location cause) :
    load reader file location = .error cause := by
  cases stops with
  | undecodable noText =>
      cases decoded : Value.decodeText _ with
      | ok text => exact absurd (decodeText_eq_ok decoded) (noText text)
      | error cause =>
          obtain ⟨rfl, _⟩ := decodeText_eq_error decoded
          exact load_undecodable reader file decoded
  | unbuildable failed =>
      rw [load_of_text reader file (decodeText_toUTF8 _), failed]

/-- Reading a configuration answers, or something in the file stops it. -/
theorem answers_or_stops (reader : Reader) (file : String)
    (location : Location) :
    (∃ answer, Answers reader file location answer) ∨
      ∃ cause, Stops reader location cause := by
  cases location with
  | missing => exact .inl ⟨_, .missing rfl⟩
  | behindFile => exact .inl ⟨_, .missing rfl⟩
  | directory => exact .inl ⟨_, .unreadable⟩
  | file octets =>
      cases decoded : Value.decodeText octets with
      | error cause =>
          exact .inr ⟨_, .undecodable (decodeText_eq_error decoded).2⟩
      | ok text =>
          cases decodeText_eq_ok decoded
          cases read : reader.document text with
          | error unread =>
              cases unread with
              | malformed reason => exact .inl ⟨_, .malformed read⟩
              | stopped cause => exact .inr ⟨_, .unbuildable read⟩
          | ok value =>
              left
              cases value with
              | null => exact ⟨_, .empty read⟩
              | mapping entries => exact ⟨_, .mapping read⟩
              | _ => exact ⟨_, .noMapping read nofun nofun⟩

end Outcomes

/-- Reading a configuration answers exactly what `Answers` says, and ends in a
fault exactly if something in the file stops it. -/
theorem load_answers_or_stops (reader : Reader) (file : String)
    (location : Location) :
    (∀ answer, load reader file location = .ok answer ↔
      Answers reader file location answer) ∧
    ∀ cause, load reader file location = .error cause ↔
      Stops reader location cause := by
  rcases answers_or_stops reader file location with
    ⟨answer, answers⟩ | ⟨cause, stops⟩
  · have loaded := answers.load_eq
    refine ⟨fun other => ⟨fun same => ?_, fun others => others.load_eq⟩,
      fun cause => ⟨fun failed => ?_, fun stops => stops.load_eq⟩⟩
    · cases loaded.symm.trans same
      exact answers
    · cases loaded.symm.trans failed
  · have failed : load reader file location = .error cause := stops.load_eq
    refine ⟨fun answer => ⟨fun loaded => ?_, fun answers => answers.load_eq⟩,
      fun other => ⟨fun same => ?_, fun others => others.load_eq⟩⟩
    · cases failed.symm.trans loaded
    · cases failed.symm.trans same
      exact stops

/-- The document ends in a fault. -/
def endsIn (cause : Fault) : Except Unread Value → Bool
  | .error (.stopped other) => decide (other = cause)
  | _ => false

def impossibleText : String := "x: 2024-13-01\n"

/-- An impossible date and a byte that begins no character stop the reading. -/
theorem load_not_answered :
    (load .standard "config.yaml" (.file impossibleText.toUTF8.data.toList) =
      .error .impossibleMoment) ∧
    load .standard "config.yaml" (.file [0xFF]) = .error .undecodableText := by
  constructor
  · rw [load_of_text _ _ (decodeText_toUTF8 impossibleText)]
    have ends : endsIn .impossibleMoment
        (Reader.standard.document impossibleText) = true := by
      decide +kernel
    unfold endsIn at ends
    split at ends
    · next cause stopped =>
      rw [stopped, of_decide_eq_true ends]
    · cases ends
  · exact load_undecodable _ "config.yaml" (by decide +kernel)

end PaneLayout.Config
