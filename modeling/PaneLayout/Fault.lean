/-!
# Faults

A fault is a failure that no layout rule describes: a number that does not fit,
text that is not the numeral it should be, a node without a first child, a file
in the place of a directory.  The stages of the program report broken presets in
their own vocabulary and let faults pass through unchanged.
-/

namespace PaneLayout

/-- Why an operation had no result, apart from the rules for layouts. -/
inductive Fault where
  /-- A whole number, or the quotient of two, lies beyond the finite doubles. -/
  | numberTooLarge
  /-- An infinity was to be rounded to a whole number. -/
  | infinityToWhole
  /-- A double that is not a number was to be rounded to a whole number. -/
  | undefinedToWhole
  /-- Text stood where a numeral was needed. -/
  | malformedNumeral
  /-- A decimal numeral has more digits than the program converts. -/
  | numeralTooLong
  /-- A date or a time of day does not exist. -/
  | impossibleMoment
  /-- A character escape names no character. -/
  | characterOutOfRange
  /-- An element was taken from a sequence that ends before it. -/
  | missingElement
  /-- A list, mapping or set was looked up among the members of a set. -/
  | unhashableValue
  /-- Bytes that should be UTF-8 text are not. -/
  | undecodableText
  /-- A text holds a surrogate, which has no bytes. -/
  | unencodableText
  /-- A record written by hand misses a field or holds one of the wrong kind. -/
  | invalidRecord
  /-- Text tagged as a boolean is none of the boolean words. -/
  | unknownBooleanWord
  /-- Text tagged as a timestamp has not the form of one. -/
  | malformedTimestamp
  /-- A tag in marked text closes nothing. -/
  | unopenedTag
  /-- A file stands where a directory should be made. -/
  | fileInPlace
  /-- The path to a directory leads through a file. -/
  | pathThroughFile
  /-- A wait is longer than the clock can time. -/
  | waitTooLong
deriving Repr, BEq, DecidableEq, Inhabited

namespace Fault

/-- What went wrong, in a few words. -/
def explanation : Fault → String
  | numberTooLarge => "a number is too large"
  | infinityToWhole => "an infinity cannot be rounded"
  | undefinedToWhole => "what is not a number cannot be rounded"
  | malformedNumeral => "a numeral is malformed"
  | numeralTooLong => "a numeral has too many digits"
  | impossibleMoment => "a date or a time does not exist"
  | characterOutOfRange => "an escape names no character"
  | missingElement => "a sequence is too short"
  | unhashableValue => "a value cannot be a member of a set"
  | undecodableText => "a file is not UTF-8 text"
  | unencodableText => "a text holds a surrogate"
  | invalidRecord => "a record is not valid"
  | unknownBooleanWord => "a word is not a truth value"
  | malformedTimestamp => "a timestamp is malformed"
  | unopenedTag => "a closing tag closes nothing"
  | fileInPlace => "a file stands where a directory should be made"
  | pathThroughFile => "the path to a directory leads through a file"
  | waitTooLong => "a wait is too long"

end Fault

end PaneLayout
