/-!
# Options of a command line

Options begin with two hyphens and a name, or with one hyphen and a letter;
letters may be joined.  Some take a value, which may be attached or come next.
All words after two hyphens alone are no options.
-/

namespace PaneLayout.CommandLine

/-- An option that a command knows. -/
structure OptionForm where
  name : String
  letter : Option Char
  takesValue : Bool
deriving Repr, BEq, DecidableEq, Inhabited

/-- An option that was given, by its name. -/
structure GivenOption where
  name : String
  value : Option String
deriving Repr, BEq, DecidableEq, Inhabited

/-- What a command line says. -/
structure Parsed where
  options : List GivenOption := []
  /-- The words that are no options. -/
  words : List String := []
deriving Repr, BEq, DecidableEq, Inhabited

namespace Parsed

/-- Puts an option before others. -/
def consOption (name : String) (value : Option String) (parsed : Parsed) :
    Parsed :=
  { parsed with options := ⟨name, value⟩ :: parsed.options }

/-- Puts a word before others. -/
def consWord (word : String) (parsed : Parsed) : Parsed :=
  { parsed with words := word :: parsed.words }

/-- An option was given. -/
def has (parsed : Parsed) (name : String) : Bool :=
  parsed.options.any (·.name == name)

/-- How often an option was given. -/
def count (parsed : Parsed) (name : String) : Nat :=
  parsed.options.countP (·.name == name)

/-- The values that were given for an option. -/
def values (parsed : Parsed) (name : String) : List String :=
  parsed.options.filterMap fun given =>
    if given.name == name then given.value else none

/-- The last value that was given for an option. -/
def value? (parsed : Parsed) (name : String) : Option String :=
  (parsed.values name).getLast?

end Parsed

/-- The letters of a word of joined options: the options without value, and the
last one with what is attached to it, if it takes a value. -/
def readLetters (forms : List OptionForm) :
    List Char → Option (List String × Option (String × List Char))
  | [] => some ([], none)
  | letter :: rest =>
      match forms.find? (·.letter == some letter) with
      | none => none
      | some form =>
          if form.takesValue then
            some ([], some (form.name, rest))
          else
            (readLetters forms rest).map fun (names, last) =>
              (form.name :: names, last)

/-- What a word says. -/
inductive Word where
  /-- A word that is no option. -/
  | plain
  /-- All words after this one are no options. -/
  | stop
  /-- Options, the last of which has a value if one is given. -/
  | options (flags : List String) (valued : Option (String × String))
  /-- Options, the last of which takes the next word as its value. -/
  | pending (flags : List String) (name : String)
  | unknown
deriving Repr, BEq, Inhabited

/-- A word that begins with two hyphens and a name. -/
def readLong (forms : List OptionForm) (text : List Char) : Word :=
  let name := String.ofList (text.takeWhile (· != '='))
  let attached := match text.dropWhile (· != '=') with
    | [] => none
    | _ :: value => some (String.ofList value)
  match forms.find? (·.name == name), attached with
  | none, _ => .unknown
  | some form, none =>
      if form.takesValue then .pending [] name else .options [name] none
  | some form, some value =>
      if form.takesValue then .options [] (some (name, value)) else .unknown

/-- What a word says to a command that knows the given options. -/
def readWord (forms : List OptionForm) (word : String) : Word :=
  match word.toList with
  | ['-', '-'] => .stop
  | '-' :: '-' :: text => readLong forms text
  | '-' :: letter :: letters =>
      match readLetters forms (letter :: letters) with
      | none => .unknown
      | some (flags, none) => .options flags none
      | some (flags, some (name, [])) => .pending flags name
      | some (flags, some (name, value)) =>
          .options flags (some (name, String.ofList value))
  | _ => .plain

/-- Reads a command line.  Where options may not follow other words, the first
such word ends the options. -/
def readWords (forms : List OptionForm) (mixed : Bool) :
    List String → Option Parsed
  | [] => some {}
  | word :: rest =>
      match readWord forms word with
      | .unknown => none
      | .stop => some { words := rest }
      | .plain =>
          if mixed then
            (readWords forms mixed rest).map (·.consWord word)
          else
            some { words := word :: rest }
      | .options flags valued => do
          let parsed ← readWords forms mixed rest
          let parsed := match valued with
            | some (name, value) => parsed.consOption name (some value)
            | none => parsed
          pure (flags.foldr (fun name parsed => parsed.consOption name none) parsed)
      | .pending flags name =>
          match rest with
          | [] => none
          | value :: rest => do
              let parsed ← readWords forms mixed rest
              pure (flags.foldr (fun name parsed => parsed.consOption name none)
                (parsed.consOption name (some value)))

end PaneLayout.CommandLine
