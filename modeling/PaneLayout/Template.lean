import PaneLayout.Emission
import PaneLayout.Text.Quoted

/-!
# Tokens in commands

A command may name panes that are only known when it is typed: the pane that it
is typed into, the pane that gets the focus, and the pane of a named terminal.
Tokens are found in one pass from left to right, and what is put in their place
is not looked at again.  Whatever has not the exact form of a token is text.
-/

namespace PaneLayout

namespace Template

inductive Token where
  /-- The pane that the command is typed into. -/
  | thisPane
  /-- The pane that has the focus in the end. -/
  | focusPane
  /-- The pane of the terminal with a name, as it stands between the braces. -/
  | paneOf (name : List Char)
deriving Repr, BEq, DecidableEq

/-- The text without the characters that it starts with, if it does. -/
def stripStart? : List Char → List Char → Option (List Char)
  | [], text => some text
  | _ :: _, [] => none
  | expected :: start, c :: text =>
      if expected = c then stripStart? start text else none

def openToken : List Char := ['\x7b', '\x7b']
def closeToken : List Char := ['\x7d', '\x7d']

/-- The name of a pane token and what follows the token. -/
def paneName? (text : List Char) : Option (Token × List Char) := do
  let body ← stripStart? "pane_id:".toList text
  let name := body.takeWhile (· ≠ '\x7d')
  let after ← stripStart? closeToken (body.dropWhile (· ≠ '\x7d'))
  if name.isEmpty then none else some (.paneOf name, after)

/-- The token that a text starts with, and what follows it. -/
def token? (text : List Char) : Option (Token × List Char) := do
  let body ← stripStart? openToken text
  match stripStart? ("this_pane".toList ++ closeToken) body with
  | some after => some (.thisPane, after)
  | none =>
      match stripStart? ("focus_pane".toList ++ closeToken) body with
      | some after => some (.focusPane, after)
      | none => paneName? body

theorem stripStart?_length {start text rest : List Char}
    (stripped : stripStart? start text = some rest) :
    rest.length + start.length = text.length := by
  induction start generalizing text with
  | nil => simp [stripStart?] at stripped; simp [stripped]
  | cons expected start induction =>
      cases text with
      | nil => simp [stripStart?] at stripped
      | cons c text =>
          simp only [stripStart?] at stripped
          split at stripped
          · have shorter := induction stripped
            simp only [List.length_cons]
            omega
          · cases stripped

theorem paneName?_length {text rest : List Char} {token : Token}
    (found : paneName? text = some (token, rest)) :
    rest.length ≤ text.length := by
  simp only [paneName?, Option.bind_eq_bind, Option.bind_eq_some_iff] at found
  obtain ⟨body, bodyFound, after, afterFound, same⟩ := found
  have bodyLength := stripStart?_length bodyFound
  have afterLength := stripStart?_length afterFound
  have dropped : (body.dropWhile (· ≠ '\x7d')).length ≤ body.length :=
    (List.dropWhile_sublist _).length_le
  split at same
  · cases same
  · cases same
    omega

/-- A token takes up at least its two opening braces. -/
theorem token?_length {text rest : List Char} {token : Token}
    (found : token? text = some (token, rest)) :
    rest.length < text.length := by
  simp only [token?, Option.bind_eq_bind, Option.bind_eq_some_iff] at found
  obtain ⟨body, bodyFound, found⟩ := found
  have bodyLength := stripStart?_length bodyFound
  simp only [openToken, List.length_cons, List.length_nil] at bodyLength
  split at found
  · cases found
    have := stripStart?_length ‹_›
    omega
  · split at found
    · cases found
      have := stripStart?_length ‹_›
      omega
    · have := paneName?_length found
      omega

/-- A token, or a character that belongs to none. -/
inductive Piece where
  | char (c : Char)
  | token (token : Token)
deriving Repr, BEq, DecidableEq

/-- The pieces of a command from left to right. -/
def pieces (text : List Char) : List Piece :=
  match text with
  | [] => []
  | c :: rest =>
      match _ : token? (c :: rest) with
      | some (token, after) => .token token :: pieces after
      | none => .char c :: pieces rest
termination_by text.length
decreasing_by
  · exact token?_length ‹_›
  · simp

end Template

/-- A command names a terminal that does not exist. -/
structure TokenError where
  name : String
  /-- The names that could have been used. -/
  available : List String
deriving Repr, BEq, DecidableEq

namespace TokenError

/-- The kind of token that failed. -/
def tokenType : String := "pane_id"

def message (error : TokenError) : String :=
  "Pane name " ++ quoted error.name ++ " not found. Available panes: " ++
    ", ".intercalate error.available

end TokenError

/-- The panes that the tokens of a command stand for. -/
structure TokenPanes where
  thisPane : String
  focusPane : String
  named : Entries String
deriving Repr, BEq, DecidableEq

namespace Template

/-- The pane of a token; blanks around a name do not count. -/
def paneOf (panes : TokenPanes) : Token → Except TokenError String
  | .thisPane => .ok panes.thisPane
  | .focusPane => .ok panes.focusPane
  | .paneOf raw =>
      let name := String.ofList (trimBlanks raw)
      match panes.named.get? name with
      | some pane => .ok pane
      | none => .error ⟨name, panes.named.keys⟩

/-- The text of a piece once its token is replaced. -/
def replacePiece (panes : TokenPanes) : Piece → Except TokenError String
  | .char c => .ok (String.ofList [c])
  | .token token => paneOf panes token

/-- A command with its tokens replaced.  The first unknown name is an error. -/
def replace (panes : TokenPanes) (command : String) :
    Except TokenError String := do
  return String.join
    (← (pieces command.toList).mapM (replacePiece panes))

/-- The panes of terminals by name.  Terminals without a pane are left out, and
of several terminals with one name the last counts. -/
def namedPanes (terminals : List EmittedTerminal) (panes : Entries String) :
    Entries String :=
  Entries.ofList (terminals.filterMap fun terminal =>
    (panes.get? terminal.virtualPaneId).map fun pane => (terminal.name, pane))

end Template

end PaneLayout
