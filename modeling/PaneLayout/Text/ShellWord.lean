/-!
# Shell words

A command is shown as a line that can be pasted into a shell.  A word made of
harmless ASCII characters stays bare.  Any other word is put between single
quotes, and a single quote inside it is written between double quotes.
-/

namespace PaneLayout

/-- A character that no shell interprets. -/
def isShellSafe (c : Char) : Bool :=
  c.isAlphanum || ['_', '@', '%', '+', '=', ':', ',', '.', '/', '-'].contains c

/-- One word, quoted if it needs to be. -/
def shellWord (word : String) : String :=
  if word ≠ "" && word.toList.all isShellSafe then
    word
  else
    "'" ++ String.join (word.toList.map fun c =>
      if c = '\'' then "'\"'\"'" else String.ofList [c]) ++ "'"

/-- The words of a command in one line. -/
def shellLine (words : List String) : String :=
  " ".intercalate (words.map shellWord)

/-- A text for the inside of a double-quoted shell word, where a double quote
would end the word. -/
def escapeDoubleQuotes (text : String) : String :=
  String.ofList (text.toList.flatMap fun c =>
    if c = '"' then ['\\', '"'] else [c])

end PaneLayout
