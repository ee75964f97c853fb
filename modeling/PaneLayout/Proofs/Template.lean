import PaneLayout.Template
import PaneLayout.Proofs.Entries
import Mathlib.Data.List.Forall2
import Mathlib.Data.List.TakeWhile

/-!
# Commands with tokens

A text falls in one way into literals and tokens if one always takes the
leftmost token after the one before, and the scanner finds just that.  A
replaced command consists of the same literals with panes between them.  If a
token names no pane, the first such token is the error.
-/

namespace PaneLayout

namespace Template

/-! ### Texts that fall into parts -/

namespace Token

/-- A token as it stands in a command. -/
def text : Token → List Char
  | .thisPane => openToken ++ ("this_pane".toList ++ closeToken)
  | .focusPane => openToken ++ ("focus_pane".toList ++ closeToken)
  | .paneOf name => openToken ++ ("pane_id:".toList ++ (name ++ closeToken))

/-- A name is not empty and does not contain a closing brace. -/
def IsWritten : Token → Prop
  | .thisPane => True
  | .focusPane => True
  | .paneOf name => name ≠ [] ∧ '\x7d' ∉ name

/-- A text starts with a token. -/
def Starts (token : Token) (text : List Char) : Prop :=
  token.IsWritten ∧ token.text <+: text

end Token

/-- A literal and the token after it. -/
structure Part where
  literal : List Char
  token : Token
deriving Repr, BEq, DecidableEq

/-- A text falls into parts and a last literal, where each token is the leftmost
one that starts after the token before it. -/
inductive Decomposes : List Char → List Part → List Char → Prop where
  | last {text : List Char} :
      (∀ offset token, ¬ Token.Starts token (text.drop offset)) →
      Decomposes text [] text
  | token {text rest last : List Char} {part : Part} {parts : List Part} :
      text = part.literal ++ (part.token.text ++ rest) →
      part.token.IsWritten →
      (∀ offset, offset < part.literal.length → ∀ other,
        ¬ Token.Starts other (text.drop offset)) →
      Decomposes rest parts last →
      Decomposes text (part :: parts) last

theorem stripStart?_eq_some_iff {start text rest : List Char} :
    stripStart? start text = some rest ↔ text = start ++ rest := by
  induction start generalizing text with
  | nil => simp [stripStart?]
  | cons expected start induction =>
      cases text with
      | nil => simp [stripStart?]
      | cons c text =>
          rw [stripStart?, List.cons_append, List.cons.injEq]
          by_cases same : expected = c
          · rw [if_pos same, induction]
            simp [same]
          · simp [same, Ne.symm same]

/-- A name ends before the first closing brace. -/
theorem span_name {name rest : List Char} (isName : '\x7d' ∉ name) :
    (name ++ (closeToken ++ rest)).takeWhile (· ≠ '\x7d') = name ∧
      (name ++ (closeToken ++ rest)).dropWhile (· ≠ '\x7d') =
        closeToken ++ rest := by
  have holds : ∀ c ∈ name, decide (c ≠ '\x7d') = true := by
    intro c member
    rw [decide_eq_true_eq]
    rintro rfl
    exact isName member
  rw [List.takeWhile_append_of_pos holds, List.dropWhile_append_of_pos holds]
  simp [closeToken]

theorem paneName?_eq_some_iff {text rest : List Char} {token : Token} :
    paneName? text = some (token, rest) ↔
      ∃ name, token = .paneOf name ∧ token.IsWritten ∧
        text = "pane_id:".toList ++ (name ++ (closeToken ++ rest)) := by
  simp only [paneName?, Option.bind_eq_bind, Option.bind_eq_some_iff,
    stripStart?_eq_some_iff]
  constructor
  · rintro ⟨body, rfl, after, closed, found⟩
    split at found
    · cases found
    · next isName =>
      cases found
      refine ⟨_, rfl, ⟨?_, ?_⟩, ?_⟩
      · simpa using isName
      · intro member
        simpa using List.mem_takeWhile_imp member
      · rw [← closed, List.takeWhile_append_dropWhile]
  · rintro ⟨name, rfl, ⟨nonempty, isName⟩, rfl⟩
    refine ⟨_, rfl, rest, (span_name isName).2, ?_⟩
    rw [(span_name isName).1, if_neg (by simpa using nonempty)]

/-- The scanner sees a token where one stands, and no other. -/
theorem token?_eq_some_iff {text rest : List Char} {token : Token} :
    token? text = some (token, rest) ↔
      token.IsWritten ∧ text = token.text ++ rest := by
  simp only [token?, Option.bind_eq_bind, Option.bind_eq_some_iff,
    stripStart?_eq_some_iff]
  constructor
  · rintro ⟨body, rfl, found⟩
    split at found
    · next isThis =>
      cases found
      rw [stripStart?_eq_some_iff.mp isThis]
      exact ⟨trivial, by simp [Token.text]⟩
    · split at found
      · next isFocus =>
        cases found
        rw [stripStart?_eq_some_iff.mp isFocus]
        exact ⟨trivial, by simp [Token.text]⟩
      · obtain ⟨name, rfl, isWritten, rfl⟩ := paneName?_eq_some_iff.mp found
        exact ⟨isWritten, by simp [Token.text]⟩
  · rintro ⟨isWritten, rfl⟩
    cases token with
    | thisPane =>
        refine ⟨("this_pane".toList ++ closeToken) ++ rest,
          by simp [Token.text], ?_⟩
        rw [stripStart?_eq_some_iff.mpr rfl]
    | focusPane =>
        refine ⟨("focus_pane".toList ++ closeToken) ++ rest,
          by simp [Token.text], ?_⟩
        -- The words of the three kinds of tokens differ in their first letters.
        rw [stripStart?_eq_some_iff.mpr rfl]
        rfl
    | paneOf name =>
        refine ⟨"pane_id:".toList ++ (name ++ (closeToken ++ rest)),
          by simp [Token.text], ?_⟩
        exact paneName?_eq_some_iff.mpr ⟨name, rfl, isWritten, rfl⟩

theorem token?_eq_none_iff {text : List Char} :
    token? text = none ↔ ∀ token, ¬ Token.Starts token text := by
  constructor
  · rintro unknown token ⟨isWritten, rest, isStart⟩
    rw [token?_eq_some_iff.mpr ⟨isWritten, isStart.symm⟩] at unknown
    cases unknown
  · intro noStart
    rw [Option.eq_none_iff_forall_ne_some]
    rintro ⟨token, rest⟩ found
    obtain ⟨isWritten, same⟩ := token?_eq_some_iff.mp found
    exact noStart token ⟨isWritten, rest, same.symm⟩

/-! ### The pieces of a decomposed text -/

/-- The pieces of a literal. -/
def literalPieces (literal : List Char) : List Piece :=
  literal.map .char

def Part.pieces (part : Part) : List Piece :=
  literalPieces part.literal ++ [.token part.token]

theorem flatMap_pieces_cons (part : Part) (parts : List Part)
    (rest : List Piece) :
    (part :: parts).flatMap Part.pieces ++ rest =
      literalPieces part.literal ++
        .token part.token :: (parts.flatMap Part.pieces ++ rest) := by
  simp [Part.pieces]

theorem pieces_of_token {token : Token} {text rest : List Char}
    (found : token? text = some (token, rest)) :
    pieces text = .token token :: pieces rest := by
  cases text with
  | nil => cases found
  | cons c text =>
      rw [pieces]
      split
      · next isFound =>
        rw [found] at isFound
        cases isFound
        rfl
      · next isFound =>
        rw [found] at isFound
        cases isFound

theorem pieces_of_char {c : Char} {rest : List Char}
    (unknown : token? (c :: rest) = none) :
    pieces (c :: rest) = .char c :: pieces rest := by
  rw [pieces]
  split
  · next isFound =>
    rw [unknown] at isFound
    cases isFound
  · rfl

/-- Characters at which no token starts are left alone. -/
theorem pieces_of_literal {literal rest : List Char}
    (noStart : ∀ offset, offset < literal.length → ∀ token,
      ¬ Token.Starts token ((literal ++ rest).drop offset)) :
    pieces (literal ++ rest) = literalPieces literal ++ pieces rest := by
  induction literal with
  | nil => rfl
  | cons c literal induction =>
      have here := token?_eq_none_iff.mpr (noStart 0 (Nat.zero_lt_succ _))
      have later := induction fun offset isBelow =>
        noStart (offset + 1) (Nat.succ_lt_succ isBelow)
      rw [List.cons_append, List.drop_zero] at here
      rw [List.cons_append, pieces_of_char here, later]
      rfl

theorem Decomposes.pieces_eq {text last : List Char} {parts : List Part}
    (decomposes : Decomposes text parts last) :
    pieces text = parts.flatMap Part.pieces ++ literalPieces last := by
  induction decomposes with
  | @last text noStart =>
      have alone : ∀ offset, offset < text.length → ∀ token,
          ¬ Token.Starts token ((text ++ []).drop offset) := by
        intro offset _
        rw [List.append_nil]
        exact noStart offset
      simpa [pieces] using pieces_of_literal alone
  | @token text rest last part parts same isWritten noStart _ induction =>
      subst same
      rw [pieces_of_literal noStart,
        pieces_of_token (token?_eq_some_iff.mpr ⟨isWritten, rfl⟩), induction,
        flatMap_pieces_cons]

/-- Where the first token is, and so the literal before it, is seen from the
pieces. -/
theorem literal_inj {literal other : List Char} {token otherToken : Token}
    {rest otherRest : List Piece}
    (same : literalPieces literal ++ .token token :: rest =
      literalPieces other ++ .token otherToken :: otherRest) :
    literal = other ∧ token = otherToken ∧ rest = otherRest := by
  induction literal generalizing other with
  | nil =>
      cases other with
      | nil => simpa [literalPieces] using same
      | cons c other => simp [literalPieces] at same
  | cons c literal induction =>
      cases other with
      | nil => simp [literalPieces] at same
      | cons d other =>
          simp only [literalPieces, List.map_cons, List.cons_append,
            List.cons.injEq, Piece.char.injEq] at same
          obtain ⟨rfl, same⟩ := same
          obtain ⟨rfl, rfl, rfl⟩ := induction same
          exact ⟨rfl, rfl, rfl⟩

theorem literalPieces_ne {literal last : List Char} {token : Token}
    {rest : List Piece} :
    literalPieces literal ≠ literalPieces last ++ .token token :: rest := by
  intro same
  have member : Piece.token token ∈ literalPieces literal := by simp [same]
  simp [literalPieces] at member

theorem parts_inj {parts others : List Part} {last otherLast : List Char}
    (same : parts.flatMap Part.pieces ++ literalPieces last =
      others.flatMap Part.pieces ++ literalPieces otherLast) :
    parts = others ∧ last = otherLast := by
  induction parts generalizing others with
  | nil =>
      cases others with
      | nil =>
          refine ⟨rfl, ?_⟩
          exact List.map_injective_iff.mpr (fun _ _ => Piece.char.inj) same
      | cons other others =>
          rw [flatMap_pieces_cons] at same
          exact absurd same literalPieces_ne
  | cons part parts induction =>
      cases others with
      | nil =>
          rw [flatMap_pieces_cons] at same
          exact absurd same.symm literalPieces_ne
      | cons other others =>
          rw [flatMap_pieces_cons, flatMap_pieces_cons] at same
          obtain ⟨sameLiteral, sameToken, sameRest⟩ := literal_inj same
          obtain ⟨rfl, rfl⟩ := induction sameRest
          obtain ⟨literal, token⟩ := part
          cases sameLiteral
          cases sameToken
          exact ⟨rfl, rfl⟩

/-- A character at which no token starts belongs to the literal that follows. -/
theorem Decomposes.cons {c : Char} {rest last : List Char} {parts : List Part}
    (unknown : token? (c :: rest) = none)
    (decomposes : Decomposes rest parts last) :
    ∃ parts last, Decomposes (c :: rest) parts last := by
  have here := token?_eq_none_iff.mp unknown
  cases decomposes with
  | last noStart =>
      refine ⟨[], _, .last fun offset => ?_⟩
      cases offset with
      | zero => exact here
      | succ offset => exact noStart offset
  | @token _ after _ part parts same isWritten noStart decomposes =>
      refine ⟨⟨c :: part.literal, part.token⟩ :: parts, _,
        .token (by rw [same]; rfl) isWritten (fun offset isBelow => ?_)
          decomposes⟩
      cases offset with
      | zero => exact here
      | succ offset => exact noStart offset (Nat.lt_of_succ_lt_succ isBelow)

theorem exists_decomposes (text : List Char) :
    ∃ parts last, Decomposes text parts last := by
  induction text using pieces.induct with
  | case1 =>
      refine ⟨[], [], .last fun offset token starts => ?_⟩
      rw [List.drop_nil] at starts
      exact token?_eq_none_iff.mp rfl token starts
  | case2 c rest token after found induction =>
      obtain ⟨parts, last, decomposes⟩ := induction
      obtain ⟨isWritten, same⟩ := token?_eq_some_iff.mp found
      refine ⟨⟨[], token⟩ :: parts, last, .token same isWritten ?_ decomposes⟩
      simp
  | case3 c rest unknown induction =>
      obtain ⟨parts, last, decomposes⟩ := induction
      exact decomposes.cons unknown

/-- A text decomposes as its pieces say. -/
theorem decomposes_iff {text last : List Char} {parts : List Part} :
    Decomposes text parts last ↔
      pieces text = parts.flatMap Part.pieces ++ literalPieces last := by
  refine ⟨Decomposes.pieces_eq, fun same => ?_⟩
  obtain ⟨others, otherLast, decomposes⟩ := exists_decomposes text
  obtain ⟨rfl, rfl⟩ := parts_inj (same.symm.trans decomposes.pieces_eq)
  exact decomposes

/-- A text decomposes in one way. -/
theorem Decomposes.unique {text last otherLast : List Char}
    {parts others : List Part} (decomposes : Decomposes text parts last)
    (other : Decomposes text others otherLast) :
    others = parts ∧ otherLast = last :=
  parts_inj (other.pieces_eq.symm.trans decomposes.pieces_eq)

/-! ### What is put in the place of tokens -/

/-- A pane stands for a token. -/
inductive StandsFor (panes : TokenPanes) : Token → String → Prop where
  | thisPane : StandsFor panes .thisPane panes.thisPane
  | focusPane : StandsFor panes .focusPane panes.focusPane
  | paneOf {name : List Char} {pane : String} :
      panes.named.get? (String.ofList (trimBlanks name)) = some pane →
      StandsFor panes (.paneOf name) pane

/-- If the token has a name, then without the blanks around it the name is one
that has a pane. -/
def IsKnown (panes : TokenPanes) (token : Token) : Prop :=
  ∀ name, token = .paneOf name →
    String.ofList (trimBlanks name) ∈ panes.named.keys

/-- Literals, each followed by the pane for its token. -/
def filled (parts : List Part) (standing : List String) : String :=
  String.join (List.zipWith
    (fun part pane => String.ofList part.literal ++ pane) parts standing)

/-- Pieces with their tokens replaced. -/
def replaceAll (panes : TokenPanes) (items : List Piece) :
    Except TokenError String := do
  return String.join (← items.mapM (replacePiece panes))

section Replace

variable {panes : TokenPanes}

theorem replace_eq_replaceAll (command : String) :
    replace panes command = replaceAll panes (pieces command.toList) := rfl

theorem paneOf_of_standsFor {token : Token} {pane : String}
    (stands : StandsFor panes token pane) : paneOf panes token = .ok pane := by
  cases stands with
  | thisPane => rfl
  | focusPane => rfl
  | paneOf found => simp only [paneOf, found]

theorem exists_standsFor {token : Token} (known : IsKnown panes token) :
    ∃ pane, StandsFor panes token pane := by
  cases token with
  | thisPane => exact ⟨_, .thisPane⟩
  | focusPane => exact ⟨_, .focusPane⟩
  | paneOf name =>
      obtain ⟨pane, found⟩ := Entries.mem_keys_iff.mp (known name rfl)
      exact ⟨pane, .paneOf found⟩

theorem exists_standing {parts : List Part}
    (known : ∀ part ∈ parts, IsKnown panes part.token) :
    ∃ standing, List.Forall₂ (fun part pane => StandsFor panes part.token pane)
      parts standing := by
  induction parts with
  | nil => exact ⟨[], .nil⟩
  | cons part parts induction =>
      rw [List.forall_mem_cons] at known
      obtain ⟨pane, stands⟩ := exists_standsFor known.1
      obtain ⟨standing, others⟩ := induction known.2
      exact ⟨pane :: standing, .cons stands others⟩

theorem replaceAll_append (first second : List Piece) :
    replaceAll panes (first ++ second) = do
      let before ← replaceAll panes first
      return before ++ (← replaceAll panes second) := by
  simp only [replaceAll, List.mapM_append, bind_assoc, pure_bind,
    String.join_append]

theorem replaceAll_literal (literal : List Char) :
    replaceAll panes (literalPieces literal) = .ok (String.ofList literal) := by
  have each : (literalPieces literal).mapM (replacePiece panes) =
      .ok (literal.map fun c => String.ofList [c]) := by
    rw [literalPieces, List.mapM_map]
    exact List.mapM_pure
  have joined : String.join (literal.map fun c => String.ofList [c]) =
      String.ofList literal := by
    apply String.toList_injective
    simp [List.flatMap_map]
  rw [replaceAll, each, ← joined]
  rfl

theorem replaceAll_token (token : Token) :
    replaceAll panes [.token token] = paneOf panes token := by
  rw [replaceAll, List.mapM_cons, List.mapM_nil, replacePiece]
  cases paneOf panes token with
  | error error => rfl
  | ok pane => exact congrArg Except.ok (by simp)

theorem replaceAll_parts {parts : List Part} {standing : List String}
    (stand : List.Forall₂ (fun part pane => StandsFor panes part.token pane)
      parts standing) :
    replaceAll panes (parts.flatMap Part.pieces) =
      .ok (filled parts standing) := by
  induction stand with
  | nil => rfl
  | cons stands _ induction =>
      rw [List.flatMap_cons, Part.pieces, replaceAll_append, replaceAll_append,
        replaceAll_literal, replaceAll_token, paneOf_of_standsFor stands,
        induction]
      exact congrArg Except.ok (by simp [filled, String.append_assoc])

theorem paneOf_of_unknown {name : List Char}
    (unknown : String.ofList (trimBlanks name) ∉ panes.named.keys) :
    paneOf panes (.paneOf name) =
      .error ⟨String.ofList (trimBlanks name), panes.named.keys⟩ := by
  simp only [paneOf]
  split
  · next pane found =>
    exact absurd (Entries.mem_keys_iff.mpr ⟨pane, found⟩) unknown
  · rfl

/-- Nothing after the first unknown name matters. -/
theorem replaceAll_unknown {before : List Part} {part : Part}
    {name : List Char} (known : ∀ other ∈ before, IsKnown panes other.token)
    (isNamed : part.token = .paneOf name)
    (unknown : String.ofList (trimBlanks name) ∉ panes.named.keys)
    (rest : List Piece) :
    replaceAll panes (before.flatMap Part.pieces ++ (part.pieces ++ rest)) =
      .error ⟨String.ofList (trimBlanks name), panes.named.keys⟩ := by
  obtain ⟨standing, stand⟩ := exists_standing known
  rw [replaceAll_append, replaceAll_parts stand, replaceAll_append,
    Part.pieces, replaceAll_append, replaceAll_literal, replaceAll_token,
    isNamed, paneOf_of_unknown unknown]
  rfl

end Replace

/-- Tokens are replaced in one pass from left to right.  A command falls in just
one way into literals and tokens, where each token is the leftmost one after the
token before it.  If each name has a pane, then the literals stay as they are
and each token gives way to the pane that stands for it, whatever text the panes
are.  Otherwise the first name without a pane is the error, together with the
names that have one. -/
theorem replace_one_pass (panes : TokenPanes) (command : String) :
    ∃ parts last, Decomposes command.toList parts last ∧
      (∀ others otherLast, Decomposes command.toList others otherLast →
        others = parts ∧ otherLast = last) ∧
      ((∀ part ∈ parts, IsKnown panes part.token) →
        ∃ standing,
          List.Forall₂ (fun part pane => StandsFor panes part.token pane)
            parts standing ∧
          replace panes command =
            .ok (filled parts standing ++ String.ofList last)) ∧
      ∀ before part after name, parts = before ++ part :: after →
        (∀ other ∈ before, IsKnown panes other.token) →
        part.token = .paneOf name →
        String.ofList (trimBlanks name) ∉ panes.named.keys →
        replace panes command =
          .error ⟨String.ofList (trimBlanks name), panes.named.keys⟩ := by
  obtain ⟨parts, last, decomposes⟩ := exists_decomposes command.toList
  refine ⟨parts, last, decomposes, fun _ _ => decomposes.unique, ?_, ?_⟩
  · intro known
    obtain ⟨standing, stand⟩ := exists_standing known
    refine ⟨standing, stand, ?_⟩
    rw [replace_eq_replaceAll, decomposes.pieces_eq, replaceAll_append,
      replaceAll_parts stand, replaceAll_literal]
    rfl
  · rintro before part after name rfl known isNamed unknown
    rw [replace_eq_replaceAll, decomposes.pieces_eq, List.flatMap_append,
      List.flatMap_cons, List.append_assoc, List.append_assoc]
    exact replaceAll_unknown known isNamed unknown _

/-- Two panes and a terminal whose pane looks like a token. -/
def misleading : TokenPanes :=
  ⟨"%1", "%2", [("a", "\x7b\x7bthis_pane\x7d\x7d")]⟩

/-- A brace too many is text, and what replaces a token is not looked at again.
A name may contain what looks like the start of another token. -/
theorem replace_one_pass_misleading :
    replace misleading
        "\x7b\x7b\x7bthis_pane\x7d\x7d\x7d \x7b\x7bpane_id: a \x7d\x7d" =
      .ok "\x7b%1\x7d \x7b\x7bthis_pane\x7d\x7d" ∧
    replace misleading
        "\x7b\x7bpane_id:\x7d\x7d\x7b\x7bpane_id:a\x7b\x7bthis_pane\x7d\x7d" =
      .error ⟨"a\x7b\x7bthis_pane", ["a"]⟩ := by
  constructor
  · obtain ⟨parts, last, _, isOnly, filling, _⟩ := replace_one_pass misleading
      "\x7b\x7b\x7bthis_pane\x7d\x7d\x7d \x7b\x7bpane_id: a \x7d\x7d"
    obtain ⟨rfl, rfl⟩ := isOnly
      [⟨['\x7b'], .thisPane⟩, ⟨['\x7d', ' '], .paneOf [' ', 'a', ' ']⟩] []
      (decomposes_iff.mpr (by decide +kernel))
    have known : ∀ part ∈ [Part.mk ['\x7b'] .thisPane,
        ⟨['\x7d', ' '], .paneOf [' ', 'a', ' ']⟩],
        IsKnown misleading part.token := by
      simp only [List.forall_mem_cons, IsKnown]
      refine ⟨?_, ?_, List.forall_mem_nil _⟩
      · rintro _ ⟨⟩
      · rintro _ ⟨⟩
        decide +kernel
    obtain ⟨_, stand, replaced⟩ := filling known
    obtain _ | ⟨first, _ | ⟨second, ⟨⟩⟩⟩ := stand
    cases paneOf_of_standsFor first
    have isToken : paneOf misleading (.paneOf [' ', 'a', ' ']) =
        .ok "\x7b\x7bthis_pane\x7d\x7d" := by decide +kernel
    cases isToken.symm.trans (paneOf_of_standsFor second)
    exact replaced.trans (by decide +kernel)
  · obtain ⟨parts, last, _, isOnly, _, failing⟩ := replace_one_pass misleading
      "\x7b\x7bpane_id:\x7d\x7d\x7b\x7bpane_id:a\x7b\x7bthis_pane\x7d\x7d"
    obtain ⟨rfl, rfl⟩ := isOnly
      [⟨"\x7b\x7bpane_id:\x7d\x7d".toList,
        .paneOf "a\x7b\x7bthis_pane".toList⟩] []
      (decomposes_iff.mpr (by decide +kernel))
    exact failing [] _ [] "a\x7b\x7bthis_pane".toList rfl (by simp) rfl
      (by decide +kernel)

end Template

end PaneLayout
