import PaneLayout.Proofs.Fault
import PaneLayout.Proofs.Json.Token
import PaneLayout.Proofs.Value.Alike
import PaneLayout.Proofs.Value.Everywhere

/-!
# Texts are read in one way

A text on one line is made by a grammar: the texts of items and members stand one
after the other with commas between them.  The first character of a text tells
what kind of value it belongs to, and strings and numbers are told from what
follows them.  So a text belongs to one value, up to the order of members.
-/

namespace PaneLayout

namespace Json

open Shortest Value

/-! ### The grammar -/


/-- Texts of the style have no lines, and items are separated by a comma with at
most blanks after it. -/
structure Style.IsPlain (style : Style) : Prop where
  indent : style.indent = none
  itemSeparator : ∃ blanks, style.itemSeparator.toList = ',' :: blanks

theorem isPlain_canonical : Style.canonical.IsPlain :=
  ⟨rfl, [], String.toList_ofList⟩

theorem isPlain_sortKey : Style.sortKey.IsPlain :=
  ⟨rfl, [' '], String.toList_ofList⟩

mutual

/-- A value is written as a text. -/
inductive Writes (style : Style) : Json → List Char → Prop where
  | null : Writes style .null ['n', 'u', 'l', 'l']
  | bool (value : Bool) : Writes style (.bool value)
      (if value then ['t', 'r', 'u', 'e'] else ['f', 'a', 'l', 's', 'e'])
  | int (n : Int) : Writes style (.int n) (toString n).toList
  | float (x : Float) : Writes style (.float x) (floatLayout.text x).toList
  | text {content : String} :
      (style.asciiOnly = true → IsUnpaired content.toList) →
      Writes style (.text content) (stringText style.asciiOnly content).toList
  | array {items : List Json} {texts : List (List Char)} :
      WritesAll style items texts →
      Writes style (.array items)
        ('[' :: (style.itemSeparator.toList.intercalate texts ++ [']']))
  | object {members : List (String × Json)}
      {texts arranged : List (List Char)} :
      WritesMembers style members texts → arranged.Perm texts →
      Writes style (.object members)
        ('\x7b' :: (style.itemSeparator.toList.intercalate arranged ++
          ['\x7d']))

inductive WritesAll (style : Style) :
    List Json → List (List Char) → Prop where
  | nil : WritesAll style [] []
  | cons {item : Json} {text : List Char} {items : List Json}
      {texts : List (List Char)} :
      Writes style item text → WritesAll style items texts →
      WritesAll style (item :: items) (text :: texts)

inductive WritesMembers (style : Style) :
    List (String × Json) → List (List Char) → Prop where
  | nil : WritesMembers style [] []
  | cons {key : String} {item : Json} {text : List Char}
      {members : List (String × Json)} {texts : List (List Char)} :
      (style.asciiOnly = true → IsUnpaired key.toList) →
      Writes style item text → WritesMembers style members texts →
      WritesMembers style ((key, item) :: members)
        (((stringText style.asciiOnly key).toList ++
          (style.keySeparator.toList ++ text)) :: texts)

end

variable {style : Style}

theorem enclose_toList (isPlain : style.IsPlain) (level : Nat)
    (opening closing : String) (items : List String) :
    (enclose style level opening closing items).toList =
      opening.toList ++
        (style.itemSeparator.toList.intercalate (items.map String.toList) ++
          closing.toList) := by
  unfold enclose
  cases items with
  | nil => exact String.toList_append
  | cons item items =>
      rw [isPlain.indent]
      dsimp only
      rw [String.toList_append, String.toList_append, List.append_assoc,
        String.toList_intercalate]

theorem wholeText_eq {n : Int} {text : String}
    (ok : wholeText n = .ok text) : text = toString n := by
  unfold wholeText at ok
  split at ok
  · cases ok
    rfl
  · cases ok

theorem memberText_toList (member : String × String) :
    (memberText style member).toList =
      (stringText style.asciiOnly member.1).toList ++
        (style.keySeparator.toList ++ member.2.toList) := by
  rw [memberText, String.toList_append, String.toList_append,
    List.append_assoc]

theorem arrange_perm (members : List (String × String)) :
    (arrange style members).Perm members := by
  unfold arrange
  split
  · exact Entries.sortByKey_perm members
  · exact .refl _

mutual

theorem writes_of_textAt (isPlain : style.IsPlain) (level : Nat) :
    ∀ json : Json, (style.asciiOnly = true →
      json.toValue.Everywhere HasUnpairedText) →
    ∀ written, json.textAt style level = .ok written →
    Writes style json written.toList
  | .null => by
      intro _ _ ok
      cases ok
      rw [String.toList_ofList]
      exact .null
  | .bool value => by
      intro _ _ ok
      cases ok
      have isText : (if value then "true" else "false").toList =
          if value then ['t', 'r', 'u', 'e'] else ['f', 'a', 'l', 's', 'e'] := by
        cases value <;> exact String.toList_ofList
      rw [isText]
      exact .bool value
  | .int n => by
      intro _ _ ok
      rw [textAt] at ok
      rw [wholeText_eq ok]
      exact .int n
  | .float x => by
      intro _ _ ok
      cases ok
      exact .float x
  | .text content => by
      intro unpaired _ ok
      cases ok
      exact .text unpaired
  | .array items => by
      intro unpaired _ ok
      obtain ⟨texts, written, made⟩ := exists_of_bind_eq_ok ok
      cases made
      rw [enclose_toList isPlain, String.toList_ofList, String.toList_ofList]
      exact .array (writesAll_of_textList isPlain (level + 1) items
        (fun ascii => (unpaired ascii).2) texts written)
  | .object members => by
      intro unpaired _ ok
      obtain ⟨texts, written, made⟩ := exists_of_bind_eq_ok ok
      cases made
      rw [enclose_toList isPlain, String.toList_ofList, String.toList_ofList]
      refine .object (writesMembers_of_textMembers isPlain (level + 1) members
        (fun ascii => (unpaired ascii).2) texts written) ?_
      rw [List.map_map]
      exact (arrange_perm _).map _

theorem writesAll_of_textList (isPlain : style.IsPlain) (level : Nat) :
    ∀ items : List Json, (style.asciiOnly = true →
      EverywhereList HasUnpairedText (toValueList items)) →
    ∀ texts, textList style level items = .ok texts →
    WritesAll style items (texts.map String.toList)
  | [] => by
      intro _ _ ok
      cases ok
      exact .nil
  | item :: items => by
      intro unpaired _ ok
      obtain ⟨text, written, ok⟩ := exists_of_bind_eq_ok ok
      obtain ⟨texts, writtenRest, made⟩ := exists_of_bind_eq_ok ok
      cases made
      exact .cons
        (writes_of_textAt isPlain level item (fun ascii => (unpaired ascii).1)
          text written)
        (writesAll_of_textList isPlain level items
          (fun ascii => (unpaired ascii).2) texts writtenRest)

theorem writesMembers_of_textMembers (isPlain : style.IsPlain) (level : Nat) :
    ∀ members : List (String × Json), (style.asciiOnly = true →
      EverywhereEntries HasUnpairedText (toValueMembers members)) →
    ∀ texts, textMembers style level members = .ok texts →
    WritesMembers style members
      (texts.map fun member => (memberText style member).toList)
  | [] => by
      intro _ _ ok
      cases ok
      exact .nil
  | (key, item) :: members => by
      intro unpaired _ ok
      obtain ⟨text, written, ok⟩ := exists_of_bind_eq_ok ok
      obtain ⟨texts, writtenRest, made⟩ := exists_of_bind_eq_ok ok
      cases made
      rw [List.map_cons, memberText_toList]
      exact .cons (fun ascii => (unpaired ascii).1)
        (writes_of_textAt isPlain level item
          (fun ascii => (unpaired ascii).2.1) text written)
        (writesMembers_of_textMembers isPlain level members
          (fun ascii => (unpaired ascii).2.2) texts writtenRest)

end

/-! ### The first character -/

/-- What the first character of a text tells. -/
inductive Kind where
  | null
  | bool (value : Bool)
  | number
  | text
  | array
  | object

def Kind.ofFirst (c : Char) : Kind :=
  if c = 'n' then .null
  else if c = 't' then .bool true
  else if c = 'f' then .bool false
  else if c = '"' then .text
  else if c = '[' then .array
  else if c = '\x7b' then .object
  else .number

def kind : Json → Kind
  | .null => .null
  | .bool value => .bool value
  | .int _ => .number
  | .float _ => .number
  | .text _ => .text
  | .array _ => .array
  | .object _ => .object

theorem ofFirst_number {c : Char} (isNumber : isNumeralChar c = true) :
    Kind.ofFirst c = .number := by
  have differs (other : Char) (notNumber : isNumeralChar other = false) :
      c ≠ other := by
    rintro rfl
    rw [isNumber] at notNumber
    cases notNumber
  unfold Kind.ofFirst
  rw [if_neg (differs _ (by decide)), if_neg (differs _ (by decide)),
    if_neg (differs _ (by decide)), if_neg (differs _ (by decide)),
    if_neg (differs _ (by decide)), if_neg (differs _ (by decide))]

/-- Whole numbers are written with numeral characters. -/
theorem isNumeralChar_int (n : ℤ) :
    ∀ c ∈ (toString n).toList, isNumeralChar c = true := by
  intro c member
  rcases toString_characters n c member with isDigit | rfl
  · exact isNumeralChar_of_isDigit isDigit
  · decide

theorem isNumberChar_int (n : ℤ) :
    ∀ c ∈ (toString n).toList, isNumberChar c = true := by
  intro c member
  rw [isNumberChar, isNumeralChar_int n c member, Bool.true_or]

theorem float_first (x : Float) :
    ∃ c rest, (floatLayout.text x).toList = c :: rest ∧
      Kind.ofFirst c = .number := by
  by_cases finite : x.isFinite = true
  · obtain ⟨areNumeral, marked⟩ := text_characters floatLayout finite
    have nonempty : (floatLayout.text x).toList ≠ [] := by
      intro empty
      rw [empty] at marked
      simp at marked
    obtain ⟨c, rest, isText⟩ := List.exists_cons_of_ne_nil nonempty
    refine ⟨c, rest, isText, ofFirst_number (areNumeral c ?_)⟩
    rw [isText]
    exact List.mem_cons_self
  · obtain ⟨entry, isEntry, _, isText⟩ := exists_word finite
    rw [isText]
    simp only [words, List.mem_cons, List.not_mem_nil, or_false] at isEntry
    rcases isEntry with rfl | rfl | rfl <;> exact ⟨_, _, rfl, rfl⟩

theorem Writes.first {json : Json} {text : List Char}
    (writes : Writes style json text) :
    ∃ c rest, text = c :: rest ∧ Kind.ofFirst c = json.kind ∧
      ¬ (c = ',' ∨ c = ']' ∨ c = '\x7d') := by
  have notEnd {c : Char} (isNumber : isNumberChar c = true) :
      ¬ (c = ',' ∨ c = ']' ∨ c = '\x7d') := by
    rintro (rfl | rfl | rfl) <;> cases isNumber
  cases writes with
  | null => exact ⟨_, _, rfl, rfl, by decide⟩
  | bool value => cases value <;> exact ⟨_, _, rfl, rfl, by decide⟩
  | int n =>
      have nonempty : (toString n).toList ≠ [] := by
        rw [Int.toString_eq_repr, Int.repr_eq_if]
        split
        · exact toString_ne_nil _
        · simp
      obtain ⟨c, rest, isText⟩ := List.exists_cons_of_ne_nil nonempty
      have member : c ∈ (toString n).toList := isText ▸ List.mem_cons_self
      exact ⟨c, rest, isText, ofFirst_number (isNumeralChar_int n c member),
        notEnd (isNumberChar_int n c member)⟩
  | float x =>
      obtain ⟨c, rest, isText, isKind⟩ := float_first x
      have member : c ∈ (floatLayout.text x).toList :=
        isText ▸ List.mem_cons_self
      exact ⟨c, rest, isText, isKind,
        notEnd ((float_characters x).1 c member)⟩
  | text _ => exact ⟨_, _, stringText_toList _ _, rfl, by decide⟩
  | array _ => exact ⟨_, _, rfl, rfl, by decide⟩
  | object _ _ => exact ⟨_, _, rfl, rfl, by decide⟩

theorem Writes.kind_eq {json other : Json}
    {text otherText rest otherRest : List Char}
    (writes : Writes style json text)
    (otherWrites : Writes style other otherText)
    (same : text ++ rest = otherText ++ otherRest) :
    json.kind = other.kind := by
  obtain ⟨c, more, rfl, isKind, _⟩ := writes.first
  obtain ⟨d, otherMore, rfl, isOther, _⟩ := otherWrites.first
  rw [← isKind, ← isOther, List.head_eq_of_cons_eq same]

/-! ### Sequences -/

section Sequences

variable {α : Type} (written : α → List Char → Prop) (related : α → α → Prop)

/-- The text of an item is told from what follows it. -/
structure IsRead (item : α) (text : List Char) : Prop where
  isWritten : written item text
  cancel : ∀ {other otherText rest otherRest}, written other otherText →
    Ends rest → Ends otherRest → text ++ rest = otherText ++ otherRest →
    related item other ∧ rest = otherRest

variable {written related} {items others : List α}
  {texts otherTexts : List (List Char)} {blanks : List Char} {close : Char}
  {rest otherRest : List Char}

theorem ends_nil : Ends [] := by
  intro c isHead
  cases isHead

theorem ends_cons {c : Char} (isEnd : c = ',' ∨ c = ']' ∨ c = '\x7d')
    (rest : List Char) : Ends (c :: rest) := by
  rintro d ⟨⟩
  exact isEnd

theorem ends_tails (isClose : close = ']' ∨ close = '\x7d')
    (texts : List (List Char)) (rest : List Char) :
    Ends (texts.flatMap (',' :: blanks ++ ·) ++ close :: rest) := by
  cases texts with
  | nil => exact ends_cons (.inr isClose) rest
  | cons text texts => exact ends_cons (.inl rfl) _

theorem intercalate_cons (separator text : List Char)
    (texts : List (List Char)) :
    separator.intercalate (text :: texts) =
      text ++ texts.flatMap (separator ++ ·) := by
  induction texts generalizing text with
  | nil => simp
  | cons next texts induction =>
      rw [List.intercalate_cons_cons, induction, List.flatMap_cons,
        List.append_assoc, List.append_assoc]

theorem tails_cancel (isClose : close = ']' ∨ close = '\x7d')
    (read : List.Forall₂ (IsRead written related) items texts)
    (otherWritten : List.Forall₂ written others otherTexts)
    (same : texts.flatMap (',' :: blanks ++ ·) ++ close :: rest =
      otherTexts.flatMap (',' :: blanks ++ ·) ++ close :: otherRest) :
    List.Forall₂ related items others ∧ rest = otherRest := by
  have notComma : close ≠ ',' := by
    rcases isClose with rfl | rfl <;> decide
  induction read generalizing others otherTexts with
  | nil =>
      cases otherWritten with
      | nil => exact ⟨.nil, List.tail_eq_of_cons_eq same⟩
      | cons _ _ => exact absurd (List.head_eq_of_cons_eq same) notComma
  | @cons item text items texts first _ induction =>
      cases otherWritten with
      | nil => exact absurd (List.head_eq_of_cons_eq same).symm notComma
      | @cons other otherText others otherTexts otherFirst later =>
          rw [List.flatMap_cons, List.flatMap_cons, List.append_assoc,
            List.append_assoc, List.append_assoc, List.append_assoc] at same
          obtain ⟨alike, sameTails⟩ := first.cancel otherFirst
            (ends_tails isClose _ _) (ends_tails isClose _ _)
            (List.append_cancel_left same)
          obtain ⟨more, sameRest⟩ := induction later sameTails
          exact ⟨.cons alike more, sameRest⟩

/-- Items between brackets are told from each other and from what follows. -/
theorem items_cancel (isClose : close = ']' ∨ close = '\x7d')
    (starts : ∀ {item text}, written item text → ¬ Ends text)
    (read : List.Forall₂ (IsRead written related) items texts)
    (otherWritten : List.Forall₂ written others otherTexts)
    (same : (',' :: blanks).intercalate texts ++ close :: rest =
      (',' :: blanks).intercalate otherTexts ++ close :: otherRest) :
    List.Forall₂ related items others ∧ rest = otherRest := by
  have notClosed {item : α} {text : List Char}
      (isWritten : written item text) (rest more : List Char) :
      text ++ rest ≠ close :: more := by
    intro same
    cases text with
    | nil => exact starts isWritten ends_nil
    | cons c text =>
        rw [List.head_eq_of_cons_eq same] at isWritten
        exact starts isWritten (ends_cons (.inr isClose) _)
  cases read with
  | nil =>
      cases otherWritten with
      | nil => exact ⟨.nil, List.tail_eq_of_cons_eq same⟩
      | cons otherFirst _ =>
          rw [intercalate_cons, List.append_assoc] at same
          exact absurd same.symm (notClosed otherFirst _ _)
  | cons first later =>
      rw [intercalate_cons, List.append_assoc] at same
      cases otherWritten with
      | nil => exact absurd same (notClosed first.isWritten _ _)
      | cons otherFirst otherLater =>
          rw [intercalate_cons, List.append_assoc] at same
          obtain ⟨alike, sameTails⟩ := first.cancel otherFirst
            (ends_tails isClose _ _) (ends_tails isClose _ _) same
          obtain ⟨more, sameRest⟩ := tails_cancel isClose later otherLater
            sameTails
          exact ⟨.cons alike more, sameRest⟩

end Sequences

/-! ### Values -/

/-- A member is written as its key and its item. -/
def WritesMember (style : Style) (member : String × Json)
    (text : List Char) : Prop :=
  ∃ itemText, (style.asciiOnly = true → IsUnpaired member.1.toList) ∧
    Writes style member.2 itemText ∧
    text = (stringText style.asciiOnly member.1).toList ++
      (style.keySeparator.toList ++ itemText)

/-- Members with one key and alike items. -/
abbrev AlikeMember : String × Json → String × Json → Prop :=
  Entries.Pair fun item other => item.toValue.Alike other.toValue

theorem WritesAll.forall₂ {items : List Json} {texts : List (List Char)}
    (writes : WritesAll style items texts) :
    List.Forall₂ (Writes style) items texts := by
  induction items generalizing texts with
  | nil =>
      cases writes
      exact .nil
  | cons item items induction =>
      cases writes with
      | cons first rest => exact .cons first (induction rest)

theorem WritesMembers.forall₂ {members : List (String × Json)}
    {texts : List (List Char)} (writes : WritesMembers style members texts) :
    List.Forall₂ (WritesMember style) members texts := by
  induction members generalizing texts with
  | nil =>
      cases writes
      exact .nil
  | cons member members induction =>
      cases writes with
      | cons unpaired first rest =>
          exact .cons ⟨_, unpaired, first, rfl⟩ (induction rest)

theorem Writes.starts {json : Json} {text : List Char}
    (writes : Writes style json text) : ¬ Ends text := by
  obtain ⟨c, rest, rfl, _, notEnd⟩ := writes.first
  intro ends
  exact notEnd (ends c rfl)

theorem WritesMember.starts {member : String × Json} {text : List Char}
    (writes : WritesMember style member text) : ¬ Ends text := by
  obtain ⟨itemText, _, _, rfl⟩ := writes
  rw [stringText_toList]
  intro ends
  exact absurd (ends '"' rfl) (by decide)

theorem toValueList_eq (items : List Json) :
    toValueList items = items.map toValue := by
  induction items with
  | nil => rfl
  | cons item items induction => rw [toValueList, induction, List.map_cons]

theorem toValueMembers_eq (members : List (String × Json)) :
    toValueMembers members = textEntries toValue members := by
  induction members with
  | nil => rfl
  | cons member members induction =>
      rw [toValueMembers, induction]
      rfl

theorem alike_array {items others : List Json}
    (alike : List.Forall₂ (fun item other => item.toValue.Alike other.toValue)
      items others) :
    (array items).toValue.Alike (array others).toValue := by
  refine .list (alikeList_iff.mpr ?_)
  rw [toValueList_eq, toValueList_eq, List.forall₂_map_left_iff,
    List.forall₂_map_right_iff]
  exact alike

theorem alike_object_iff {members others : List (String × Json)} :
    (object members).toValue.Alike (object others).toValue ↔
      ∃ reordered reorderedOthers, members.Perm reordered ∧
        others.Perm reorderedOthers ∧
        List.Forall₂ AlikeMember reordered reorderedOthers := by
  rw [toValue, toValue, toValueMembers_eq, toValueMembers_eq]
  exact alike_textEntries_iff

/-- A whole number has neither a point nor a power, and it is no word. -/
theorem int_ne_float (n : ℤ) (x : Float) :
    (toString n).toList ≠ (floatLayout.text x).toList := by
  intro same
  obtain ⟨c, member, notDigit, notSign⟩ := (float_characters x).2
  rw [← same] at member
  rcases toString_characters n c member with isDigit | isSign
  · rw [isDigit] at notDigit
    cases notDigit
  · exact notSign isSign

/-- Values are alike if their texts agree as far as they go. -/
abbrev IsReadAlike (style : Style) : Json → List Char → Prop :=
  IsRead (Writes style) fun json other => json.toValue.Alike other.toValue

theorem isRead_int (n : ℤ) :
    IsReadAlike style (.int n) (toString n).toList := by
  refine ⟨.int n, ?_⟩
  intro _ _ _ _ writes ends otherEnds same
  have kinds := (Writes.int n).kind_eq writes same
  cases writes with
  | int m =>
      obtain ⟨sameText, sameRest⟩ := number_cancel (isNumberChar_int n)
        (isNumberChar_int m) ends otherEnds same
      have eq := Int.repr_injective (String.toList_inj.mp sameText)
      rw [eq]
      exact ⟨.refl _, sameRest⟩
  | float x =>
      obtain ⟨sameText, _⟩ := number_cancel (isNumberChar_int n)
        (float_characters x).1 ends otherEnds same
      exact absurd sameText (int_ne_float n x)
  | _ => cases kinds

theorem isRead_float (x : Float) :
    IsReadAlike style (.float x) (floatLayout.text x).toList := by
  refine ⟨.float x, ?_⟩
  intro _ _ _ _ writes ends otherEnds same
  have kinds := (Writes.float x).kind_eq writes same
  have characters := (float_characters x).1
  cases writes with
  | int n =>
      obtain ⟨sameText, _⟩ := number_cancel characters (isNumberChar_int n)
        ends otherEnds same
      exact absurd sameText.symm (int_ne_float n x)
  | float y =>
      obtain ⟨sameText, sameRest⟩ := number_cancel characters
        (float_characters y).1 ends otherEnds same
      have eq := floatText_injective (String.toList_inj.mp sameText)
      rw [eq]
      exact ⟨.refl _, sameRest⟩
  | _ => cases kinds

theorem isRead_text {content : String}
    (unpaired : style.asciiOnly = true → IsUnpaired content.toList) :
    IsReadAlike style (.text content)
      (stringText style.asciiOnly content).toList := by
  refine ⟨.text unpaired, ?_⟩
  intro _ _ _ _ writes _ _ same
  have kinds := (Writes.text unpaired).kind_eq writes same
  cases writes with
  | text otherUnpaired =>
      obtain ⟨eq, sameRest⟩ := stringText_cancel unpaired otherUnpaired same
      rw [eq]
      exact ⟨.refl _, sameRest⟩
  | _ => cases kinds

theorem isRead_array (isPlain : style.IsPlain) {items : List Json}
    {texts : List (List Char)} (writes : WritesAll style items texts)
    (read : List.Forall₂ (IsReadAlike style) items texts) :
    IsReadAlike style (.array items)
      ('[' :: (style.itemSeparator.toList.intercalate texts ++ [']'])) := by
  obtain ⟨blanks, isSeparator⟩ := isPlain.itemSeparator
  refine ⟨.array writes, ?_⟩
  intro _ _ _ _ otherWrites _ _ same
  have kinds := (Writes.array writes).kind_eq otherWrites same
  cases otherWrites with
  | @array others otherTexts otherWrites =>
      rw [List.cons_append, List.cons_append, List.append_assoc,
        List.append_assoc, isSeparator] at same
      obtain ⟨alike, sameRest⟩ := items_cancel (.inl rfl) Writes.starts read
        otherWrites.forall₂ (List.tail_eq_of_cons_eq same)
      exact ⟨alike_array alike, sameRest⟩
  | _ => cases kinds

theorem isRead_member {member : String × Json} {itemText : List Char}
    (unpaired : style.asciiOnly = true → IsUnpaired member.1.toList)
    (read : IsReadAlike style member.2 itemText) :
    IsRead (WritesMember style) AlikeMember member
      ((stringText style.asciiOnly member.1).toList ++
        (style.keySeparator.toList ++ itemText)) := by
  refine ⟨⟨itemText, unpaired, read.isWritten, rfl⟩, ?_⟩
  intro _ _ _ _ writes ends otherEnds same
  obtain ⟨otherItemText, otherUnpaired, otherWrites, rfl⟩ := writes
  simp only [List.append_assoc] at same
  obtain ⟨sameKey, sameItem⟩ := stringText_cancel unpaired otherUnpaired same
  obtain ⟨alike, sameRest⟩ := read.cancel otherWrites ends otherEnds
    (List.append_cancel_left sameItem)
  exact ⟨⟨sameKey, alike⟩, sameRest⟩

theorem isRead_object (isPlain : style.IsPlain)
    {members : List (String × Json)} {texts arranged : List (List Char)}
    (writes : WritesMembers style members texts) (perm : arranged.Perm texts)
    (read : List.Forall₂ (IsRead (WritesMember style) AlikeMember)
      members texts) :
    IsReadAlike style (.object members)
      ('\x7b' :: (style.itemSeparator.toList.intercalate arranged ++
        ['\x7d'])) := by
  obtain ⟨blanks, isSeparator⟩ := isPlain.itemSeparator
  refine ⟨.object writes perm, ?_⟩
  intro _ _ _ _ otherWrites _ _ same
  have kinds := (Writes.object writes perm).kind_eq otherWrites same
  cases otherWrites with
  | @object others otherTexts otherArranged otherWrites otherPerm =>
      obtain ⟨reordered, isReordered, readArranged⟩ :=
        Entries.exists_reordered read perm
      obtain ⟨otherReordered, isOtherReordered, written⟩ :=
        Entries.exists_reordered otherWrites.forall₂ otherPerm
      rw [List.cons_append, List.cons_append, List.append_assoc,
        List.append_assoc, isSeparator] at same
      obtain ⟨alike, sameRest⟩ := items_cancel (.inr rfl) WritesMember.starts
        readArranged written (List.tail_eq_of_cons_eq same)
      exact ⟨alike_object_iff.mpr ⟨_, _, isReordered, isOtherReordered, alike⟩,
        sameRest⟩
  | _ => cases kinds

mutual

theorem Writes.isRead (isPlain : style.IsPlain) :
    ∀ {json : Json} {text : List Char},
    Writes style json text → IsReadAlike style json text
  | _, _, .null => by
      refine ⟨.null, ?_⟩
      intro _ _ _ _ writes _ _ same
      have kinds := Writes.null.kind_eq writes same
      cases writes with
      | null => exact ⟨.refl _, List.append_cancel_left same⟩
      | _ => cases kinds
  | _, _, .bool value => by
      refine ⟨.bool value, ?_⟩
      intro _ _ _ _ writes _ _ same
      have kinds := (Writes.bool value).kind_eq writes same
      cases writes with
      | bool other =>
          cases kinds
          exact ⟨.refl _, List.append_cancel_left same⟩
      | _ => cases kinds
  | _, _, .int n => isRead_int n
  | _, _, .float x => isRead_float x
  | _, _, .text unpaired => isRead_text unpaired
  | _, _, .array writes =>
      isRead_array isPlain writes (WritesAll.areRead isPlain writes)
  | _, _, .object writes perm =>
      isRead_object isPlain writes perm (WritesMembers.areRead isPlain writes)

theorem WritesAll.areRead (isPlain : style.IsPlain) :
    ∀ {items : List Json} {texts : List (List Char)},
    WritesAll style items texts →
    List.Forall₂ (IsReadAlike style) items texts
  | _, _, .nil => .nil
  | _, _, .cons first rest =>
      .cons (Writes.isRead isPlain first) (WritesAll.areRead isPlain rest)

theorem WritesMembers.areRead (isPlain : style.IsPlain) :
    ∀ {members : List (String × Json)} {texts : List (List Char)},
    WritesMembers style members texts →
    List.Forall₂ (IsRead (WritesMember style) AlikeMember) members texts
  | _, _, .nil => .nil
  | _, _, .cons unpaired first rest =>
      .cons (isRead_member unpaired (Writes.isRead isPlain first))
        (WritesMembers.areRead isPlain rest)

end

/-- Values with the same text are alike, within ASCII unless two surrogates make
a pair. -/
theorem alike_of_render (isPlain : style.IsPlain) {json other : Json}
    {text : String}
    (unpaired : style.asciiOnly = true →
      json.toValue.Everywhere HasUnpairedText)
    (otherUnpaired : style.asciiOnly = true →
      other.toValue.Everywhere HasUnpairedText)
    (ok : json.render style = .ok text)
    (otherOk : other.render style = .ok text) :
    json.toValue.Alike other.toValue := by
  have writes := writes_of_textAt isPlain 0 json unpaired text ok
  have otherWrites :=
    writes_of_textAt isPlain 0 other otherUnpaired text otherOk
  have same : text.toList ++ [] = text.toList ++ [] := rfl
  have isRead := Writes.isRead isPlain writes
  exact (isRead.cancel otherWrites ends_nil ends_nil same).1

end Json

end PaneLayout
