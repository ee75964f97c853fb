import PaneLayout.Drawing.EmojiNames
import PaneLayout.Text.Blank

/-!
# Emoji by name

In marked text the name of an emoji between two colons stands for the emoji.  A
name may end in a word that asks for the picture or for its plain form.  What is
between two colons and names nothing stays as it is.
-/

namespace PaneLayout.Emoji

/-- Pairs of words that follow each other. -/
def pairs : List String → List (String × String)
  | first :: second :: rest => (first, second) :: pairs rest
  | _ => []

/-- All emoji under their names. -/
def names : List (String × String) :=
  (namesText.splitOn "\n").flatMap fun line => pairs (line.splitOn " ")

/-- The emoji with a name, whose case does not matter. -/
def named? (name : List Char) : Option (List Char) :=
  (names.lookup (String.ofList (name.map Char.toLower))).map String.toList

/-- A name without a given ending. -/
def withoutEnding? (ending name : List Char) : Option (List Char) :=
  if ending.isSuffixOf name then
    some (name.take (name.length - ending.length))
  else
    none

/-- A name without its ending, and the selector that the ending stands for. -/
def splitEnding (name : List Char) : List Char × List Char :=
  match withoutEnding? ['-', 'e', 'm', 'o', 'j', 'i'] name,
      withoutEnding? ['-', 't', 'e', 'x', 't'] name with
  | some name, _ => (name, ['\uFE0F'])
  | none, some name => (name, ['\uFE0E'])
  | none, none => (name, [])

/-- What stands for the characters between two colons. -/
def shownBetween (name : List Char) : List Char :=
  let (base, selector) := splitEnding name
  match named? base with
  | some emoji => emoji ++ selector
  | none => ':' :: (name ++ [':'])

/-- Replaces names.  `name` holds the characters since a colon, the last one
first. -/
def replaceFrom : Option (List Char) → List Char → List Char
  | none, [] => []
  | some name, [] => ':' :: name.reverse
  | none, c :: rest =>
      if c == ':' then
        replaceFrom (some []) rest
      else
        c :: replaceFrom none rest
  | some name, c :: rest =>
      if c == ':' then
        shownBetween name.reverse ++ replaceFrom none rest
      else if isBlank c then
        ':' :: (name.reverse ++ c :: replaceFrom none rest)
      else
        replaceFrom (some (c :: name)) rest

/-- A text with emoji in place of their names. -/
def replace (text : List Char) : List Char :=
  replaceFrom none text

end PaneLayout.Emoji
