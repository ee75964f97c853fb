import PaneLayout.Drawing.Markup
import PaneLayout.Value

/-!
# Questions at a prompt

A question is answered by yes or no; an empty line means no.  Other lines are
refused, and the question is asked again until there is no more input.
-/

namespace PaneLayout

/-- A question at a prompt, with what was shown and typed. -/
structure Dialogue where
  /-- The answer, if there was one before the end of the input. -/
  answer : Option Bool
  transcript : String
deriving Repr, BEq, DecidableEq, Inhabited

namespace Dialogue

/-- The answer that a line gives. -/
def answerOf? (line : String) : Option Bool :=
  let word := String.ofList (trimBlanks (line.toList.map Char.toLower))
  if ["y", "yes"].contains word then
    some true
  else if ["n", "no", ""].contains word then
    some false
  else
    none

/-- Asks a question of which the answers are the lines of the input. -/
def ask (question : String) : List String → Dialogue
  | [] => ⟨none, question ++ " [y/N]: "⟩
  | line :: lines =>
      let shown := question ++ " [y/N]: " ++ line ++ "\n"
      match answerOf? line with
      | some answer => ⟨some answer, shown⟩
      | none =>
          let rest := ask question lines
          { rest with transcript := shown ++ "Error: invalid input\n" ++
              rest.transcript }

end Dialogue

/-- The lines of an input.  A line may end in a carriage return, a line feed or
both; an empty rest is no line. -/
def inputLines (input : String) : List String :=
  linesFrom [] input.toList
where
  linesFrom (line : List Char) : List Char → List String
    | [] => if line.isEmpty then [] else [String.ofList line.reverse]
    | '\r' :: '\n' :: rest => String.ofList line.reverse :: linesFrom [] rest
    | c :: rest =>
        if c == '\n' || c == '\r' then
          String.ofList line.reverse :: linesFrom [] rest
        else
          linesFrom (c :: line) rest

end PaneLayout
