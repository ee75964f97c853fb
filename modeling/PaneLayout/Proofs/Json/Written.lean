import PaneLayout.Json.Canonical
import PaneLayout.Proofs.Entries
import PaneLayout.Proofs.Fault
import PaneLayout.Proofs.Number.Binary64
import PaneLayout.Proofs.Value.Everywhere

/-!
# Values that can be written

Writing a value, turning it into a key, and bringing it into canonical JSON form
fails only on whole numbers with too many digits.  A whole number that fits a
double is far below that limit.
-/

namespace PaneLayout

/-- Whole numbers fit a double. -/
def Value.FitsDouble : Value → Prop
  | .int n => ∃ x, Binary64.ofInt n = .ok x
  | _ => True

/-- Whole numbers have no more digits than can be converted. -/
def Value.HasShortNumbers : Value → Prop
  | .int n => n.natAbs < Nat.pow 10 digitLimit
  | _ => True

theorem wholeText_of_short {n : Int}
    (short : n.natAbs < Nat.pow 10 digitLimit) :
    wholeText n = .ok (toString n) := by
  rw [wholeText, if_pos short]

theorem short_of_lt_two_pow {n : Nat} {bits : Nat} (enough : bits ≤ 1024)
    (small : n < 2 ^ bits) : n < Nat.pow 10 digitLimit := by
  have fewBits : bits ≤ digitLimit := enough.trans (by decide)
  generalize digitLimit = limit at fewBits ⊢
  calc n
    _ < 2 ^ bits := small
    _ ≤ 2 ^ limit := Nat.pow_le_pow_right (by decide) fewBits
    _ ≤ Nat.pow 10 limit := Nat.pow_le_pow_left (by decide) _

theorem Value.FitsDouble.hasShortNumbers {value : Value}
    (fits : value.FitsDouble) : value.HasShortNumbers := by
  cases value with
  | int n =>
      obtain ⟨x, converted⟩ := fits
      have bits := Binary64.log2_lt_of_isFinite
        (Binary64.ofInt_eq_ok_iff.mp converted).1
      exact short_of_lt_two_pow bits Nat.lt_log2_self
  | _ => trivial

theorem wholeText_of_fits {n : Int} (fits : (Value.int n).FitsDouble) :
    wholeText n = .ok (toString n) :=
  wholeText_of_short fits.hasShortNumbers

theorem wholeText_failsUnless (n : Int) :
    FailsUnless (Value.int n).HasShortNumbers (wholeText n) := by
  intro error cause isError isFault
  cases isFault
  unfold wholeText at isError
  split at isError
  · cases isError
  · next long =>
    cases isError
    exact ⟨.inr rfl, long⟩

theorem ofInt_failsUnless (n : Int) :
    FailsUnless (Value.int n).FitsDouble (Binary64.ofInt n) := by
  intro error cause isError isFault
  cases isFault
  refine ⟨.inl ?_, fun fits => ?_⟩
  · change (if (Float.ofInt n).isFinite then Except.ok _ else _) = _ at isError
    split at isError <;> cases isError
    rfl
  · obtain ⟨x, converted⟩ := fits
    rw [converted] at isError
    cases isError

/-! ### Messages and keys -/

namespace Value

mutual

theorem display_failsUnless : ∀ value : Value,
    FailsUnless (value.Everywhere HasShortNumbers) value.display
  | .null => failsUnless_ok _
  | .bool _ => failsUnless_ok _
  | .int n => wholeText_failsUnless n
  | .float _ => failsUnless_ok _
  | .text _ => failsUnless_ok _
  | .bytes _ => failsUnless_ok _
  | .date _ => failsUnless_ok _
  | .timestamp _ => failsUnless_ok _
  | .list items =>
      ((displayList_failsUnless items).mono And.right).bind
        fun _ _ => failsUnless_ok _
  | .tuple items =>
      ((displayList_failsUnless items).mono And.right).bind fun _ _ => by
        split <;> exact failsUnless_ok _
  | .set members =>
      ((displayList_failsUnless members).mono And.right).bind fun _ _ => by
        split <;> exact failsUnless_ok _
  | .mapping entries =>
      ((displayEntries_failsUnless entries).mono And.right).bind
        fun _ _ => failsUnless_ok _

theorem displayList_failsUnless : ∀ items : List Value,
    FailsUnless (EverywhereList HasShortNumbers items) (displayList items)
  | [] => failsUnless_ok _
  | item :: items =>
      ((display_failsUnless item).mono And.left).bind fun _ _ =>
        ((displayList_failsUnless items).mono And.right).bind
          fun _ _ => failsUnless_ok _

theorem displayEntries_failsUnless : ∀ entries : List (Value × Value),
    FailsUnless (EverywhereEntries HasShortNumbers entries)
      (displayEntries entries)
  | [] => failsUnless_ok _
  | (key, value) :: entries =>
      ((display_failsUnless key).mono And.left).bind fun _ _ =>
        ((display_failsUnless value).mono (·.2.1)).bind fun _ _ =>
          ((displayEntries_failsUnless entries).mono (·.2.2)).bind
            fun _ _ => failsUnless_ok _

end

theorem keyText_failsUnless (value : Value) :
    FailsUnless (value.Everywhere HasShortNumbers) value.keyText := by
  cases value with
  | text _ => exact failsUnless_ok _
  | date _ => exact failsUnless_ok _
  | timestamp _ => exact failsUnless_ok _
  | _ => exact display_failsUnless _

end Value

/-! ### JSON texts -/

namespace Json

mutual

/-- Every whole number in a JSON value can be written. -/
def Writable : Json → Prop
  | .int n => ∃ text, wholeText n = .ok text
  | .array items => WritableList items
  | .object members => WritableMembers members
  | _ => True

def WritableList : List Json → Prop
  | [] => True
  | item :: items => item.Writable ∧ WritableList items

def WritableMembers : List (String × Json) → Prop
  | [] => True
  | (_, item) :: members => item.Writable ∧ WritableMembers members

end

theorem writableList_iff {items : List Json} :
    WritableList items ↔ ∀ item ∈ items, item.Writable := by
  induction items with
  | nil => simp [WritableList]
  | cons item items induction => simp [WritableList, induction]

theorem writableMembers_iff {members : List (String × Json)} :
    WritableMembers members ↔ ∀ member ∈ members, member.2.Writable := by
  induction members with
  | nil => simp [WritableMembers]
  | cons member members induction => simp [WritableMembers, induction]

mutual

theorem textAt_failsUnless (style : Style) : ∀ (level : Nat) (json : Json),
    FailsUnless json.Writable (json.textAt style level)
  | _, .null => failsUnless_ok _
  | _, .bool _ => failsUnless_ok _
  | _, .int n => ((wholeText_failsUnless n).mono False.elim).of_ok id
  | _, .float _ => failsUnless_ok _
  | _, .text _ => failsUnless_ok _
  | level, .array items =>
      (textList_failsUnless style (level + 1) items).bind
        fun _ _ => failsUnless_ok _
  | level, .object members =>
      (textMembers_failsUnless style (level + 1) members).bind
        fun _ _ => failsUnless_ok _

theorem textList_failsUnless (style : Style) :
    ∀ (level : Nat) (items : List Json),
      FailsUnless (WritableList items) (textList style level items)
  | _, [] => failsUnless_ok _
  | level, item :: items =>
      ((textAt_failsUnless style level item).mono And.left).bind fun _ _ =>
        ((textList_failsUnless style level items).mono And.right).bind
          fun _ _ => failsUnless_ok _

theorem textMembers_failsUnless (style : Style) :
    ∀ (level : Nat) (members : List (String × Json)),
      FailsUnless (WritableMembers members) (textMembers style level members)
  | _, [] => failsUnless_ok _
  | level, (_, item) :: members =>
      ((textAt_failsUnless style level item).mono And.left).bind fun _ _ =>
        ((textMembers_failsUnless style level members).mono And.right).bind
          fun _ _ => failsUnless_ok _

end

theorem render_failsUnless (style : Style) (json : Json) :
    FailsUnless json.Writable (json.render style) :=
  textAt_failsUnless style 0 json

/-! ### Canonical forms -/

theorem sortMembers_failsUnless (members : List Json) :
    FailsUnless (WritableList members) (sortMembers members) := by
  refine FailsUnless.bind ?_ fun _ _ => failsUnless_ok _
  induction members with
  | nil => exact failsUnless_ok _
  | cons member members induction =>
      rw [List.mapM_cons]
      refine FailsUnless.bind ?_ fun _ _ =>
        (induction.mono And.right).bind fun _ _ => failsUnless_ok _
      exact ((render_failsUnless .sortKey member).mono And.left).bind
        fun _ _ => failsUnless_ok _

theorem mem_of_sortMembers {members sorted : List Json} {item : Json}
    (ok : sortMembers members = .ok sorted) (member : item ∈ sorted) :
    item ∈ members := by
  obtain ⟨keyed, mapped, made⟩ := exists_of_bind_eq_ok ok
  cases made
  have same : keyed.map Prod.snd = members := by
    clear ok member
    induction members generalizing keyed with
    | nil =>
        cases mapped
        rfl
    | cons member members induction =>
        rw [List.mapM_cons] at mapped
        obtain ⟨first, written, mapped⟩ := exists_of_bind_eq_ok mapped
        obtain ⟨rest, restMapped, made⟩ := exists_of_bind_eq_ok mapped
        obtain ⟨text, _, isFirst⟩ := exists_of_bind_eq_ok written
        cases made
        cases isFirst
        exact congrArg (member :: ·) (induction rest restMapped)
  obtain ⟨entry, isEntry, rfl⟩ := List.mem_map.mp member
  exact same ▸ List.mem_map_of_mem
    ((Entries.sortByKey_perm _).mem_iff.mp isEntry)

theorem writableList_of_sortMembers {members sorted : List Json}
    (inside : WritableList members) (ok : sortMembers members = .ok sorted) :
    WritableList sorted := by
  rw [writableList_iff] at inside ⊢
  intro item member
  exact inside item (mem_of_sortMembers ok member)

end Json

namespace Value

mutual

/-- The canonical form of a value without long numbers can be written. -/
theorem writable_of_canonical : ∀ {value : Value} {json : Json},
    value.Everywhere HasShortNumbers → value.canonical = .ok json →
    json.Writable
  | .null, _, _, rfl => trivial
  | .bool _, _, _, rfl => trivial
  | .int _, _, short, rfl => ⟨_, wholeText_of_short short⟩
  | .float _, _, _, rfl => trivial
  | .text _, _, _, rfl => trivial
  | .bytes _, _, _, rfl => trivial
  | .date _, _, _, rfl => trivial
  | .timestamp _, _, _, rfl => trivial
  | .list _, _, ⟨_, inside⟩, ok => by
      obtain ⟨jsons, converted, made⟩ := exists_of_bind_eq_ok ok
      cases made
      exact writableList_of_canonical inside converted
  | .tuple _, _, ⟨_, inside⟩, ok => by
      obtain ⟨jsons, converted, made⟩ := exists_of_bind_eq_ok ok
      cases made
      exact writableList_of_canonical inside converted
  | .set _, _, ⟨_, inside⟩, ok => by
      obtain ⟨jsons, converted, ok⟩ := exists_of_bind_eq_ok ok
      obtain ⟨sorted, inOrder, made⟩ := exists_of_bind_eq_ok ok
      cases made
      exact Json.writableList_of_sortMembers
        (writableList_of_canonical inside converted) inOrder
  | .mapping _, _, ⟨_, inside⟩, ok => by
      obtain ⟨members, converted, made⟩ := exists_of_bind_eq_ok ok
      cases made
      exact Json.writableMembers_iff.mpr (Entries.forall_ofList
        (Json.writableMembers_iff.mp
          (writableMembers_of_canonical inside converted)))

theorem writableList_of_canonical : ∀ {items : List Value}
    {jsons : List Json}, EverywhereList HasShortNumbers items →
    canonicalList items = .ok jsons → Json.WritableList jsons
  | [], _, _, rfl => trivial
  | _ :: _, _, ⟨first, rest⟩, ok => by
      obtain ⟨json, converted, ok⟩ := exists_of_bind_eq_ok ok
      obtain ⟨jsons, convertedRest, made⟩ := exists_of_bind_eq_ok ok
      cases made
      exact ⟨writable_of_canonical first converted,
        writableList_of_canonical rest convertedRest⟩

theorem writableMembers_of_canonical : ∀ {entries : List (Value × Value)}
    {members : Entries Json}, EverywhereEntries HasShortNumbers entries →
    canonicalEntries entries = .ok members → Json.WritableMembers members
  | [], _, _, rfl => trivial
  | (_, _) :: _, _, ⟨_, second, rest⟩, ok => by
      obtain ⟨name, _, ok⟩ := exists_of_bind_eq_ok ok
      obtain ⟨json, converted, ok⟩ := exists_of_bind_eq_ok ok
      obtain ⟨members, convertedRest, made⟩ := exists_of_bind_eq_ok ok
      cases made
      exact ⟨writable_of_canonical second converted,
        writableMembers_of_canonical rest convertedRest⟩

end

mutual

theorem canonical_failsUnless : ∀ value : Value,
    FailsUnless (value.Everywhere HasShortNumbers) value.canonical
  | .null => failsUnless_ok _
  | .bool _ => failsUnless_ok _
  | .int _ => failsUnless_ok _
  | .float _ => failsUnless_ok _
  | .text _ => failsUnless_ok _
  | .bytes _ => failsUnless_ok _
  | .date _ => failsUnless_ok _
  | .timestamp _ => failsUnless_ok _
  | .list items =>
      ((canonicalList_failsUnless items).mono And.right).bind
        fun _ _ => failsUnless_ok _
  | .tuple items =>
      ((canonicalList_failsUnless items).mono And.right).bind
        fun _ _ => failsUnless_ok _
  | .set members =>
      ((canonicalList_failsUnless members).mono And.right).bind
        fun jsons converted =>
          ((Json.sortMembers_failsUnless jsons).mono fun short =>
            writableList_of_canonical short.2 converted).bind
              fun _ _ => failsUnless_ok _
  | .mapping entries =>
      ((canonicalEntries_failsUnless entries).mono And.right).bind
        fun _ _ => failsUnless_ok _

theorem canonicalList_failsUnless : ∀ items : List Value,
    FailsUnless (EverywhereList HasShortNumbers items) (canonicalList items)
  | [] => failsUnless_ok _
  | item :: items =>
      ((canonical_failsUnless item).mono And.left).bind fun _ _ =>
        ((canonicalList_failsUnless items).mono And.right).bind
          fun _ _ => failsUnless_ok _

theorem canonicalEntries_failsUnless : ∀ entries : List (Value × Value),
    FailsUnless (EverywhereEntries HasShortNumbers entries)
      (canonicalEntries entries)
  | [] => failsUnless_ok _
  | (key, value) :: entries =>
      ((keyText_failsUnless key).mono And.left).bind fun _ _ =>
        ((canonical_failsUnless value).mono (·.2.1)).bind fun _ _ =>
          ((canonicalEntries_failsUnless entries).mono (·.2.2)).bind
            fun _ _ => failsUnless_ok _

end

end Value

end PaneLayout
