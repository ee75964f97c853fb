/-!
# Base64

Bytes are written with padding and without line breaks.  Reading skips every
character outside the alphabet, stops at complete padding, and refuses input
that ends inside a group of four.
-/

namespace PaneLayout.Base64

/-- The sixty-four digits in order. -/
def alphabet : List Char :=
  "ABCDEFGHIJKLMNOPQRSTUVWXYZabcdefghijklmnopqrstuvwxyz0123456789+/".toList

/-- The digit for a number below sixty-four. -/
def digit (n : Nat) : Char :=
  alphabet[n]?.getD '='

/-- The value of a digit. -/
def value? (c : Char) : Option Nat :=
  alphabet.findIdx? (· == c)

/-- Writes bytes in groups of three. -/
def encode : List UInt8 → List Char
  | [] => []
  | [first] =>
      [digit (first.toNat / 4), digit (first.toNat % 4 * 16), '=', '=']
  | [first, second] =>
      [digit (first.toNat / 4),
       digit (first.toNat % 4 * 16 + second.toNat / 16),
       digit (second.toNat % 16 * 4), '=']
  | first :: second :: third :: rest =>
      digit (first.toNat / 4) ::
      digit (first.toNat % 4 * 16 + second.toNat / 16) ::
      digit (second.toNat % 16 * 4 + third.toNat / 64) ::
      digit (third.toNat % 64) :: encode rest

/-- What has been read of the current group of four digits. -/
structure Group where
  /-- How many digits of the group have been read. -/
  position : Nat
  /-- The bits of the last digit that do not fill a byte yet. -/
  carried : Nat
  /-- How many padding characters followed. -/
  padding : Nat

/-- The byte that the next digit completes, and the group after that digit. -/
def Group.push (group : Group) (value : Nat) : Option UInt8 × Group :=
  match group.position with
  | 0 => (none, ⟨1, value, 0⟩)
  | 1 => (some (UInt8.ofNat (group.carried * 4 + value / 16)),
      ⟨2, value % 16, 0⟩)
  | 2 => (some (UInt8.ofNat (group.carried * 16 + value / 4)),
      ⟨3, value % 4, 0⟩)
  | _ => (some (UInt8.ofNat (group.carried * 64 + value)), ⟨0, 0, 0⟩)

/-- Reads from the middle of a group. -/
def decodeFrom (group : Group) : List Char → Option (List UInt8)
  | [] => if group.position = 0 then some [] else none
  | c :: rest =>
      if c = '=' then
        if 2 ≤ group.position then
          if 4 ≤ group.position + group.padding + 1 then
            some []
          else
            decodeFrom { group with padding := group.padding + 1 } rest
        else
          decodeFrom group rest
      else
        match value? c with
        | none => decodeFrom group rest
        | some value =>
            match group.push value with
            | (none, next) => decodeFrom next rest
            | (some octet, next) => (decodeFrom next rest).map (octet :: ·)

/-- The bytes that a base64 text stands for. -/
def decode? (text : List Char) : Option (List UInt8) :=
  decodeFrom ⟨0, 0, 0⟩ text

end PaneLayout.Base64
