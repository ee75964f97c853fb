import PaneLayout.Proofs.PaneMap.Apart

/-!
# Lookups in pane maps

Resolving an id answers with its own pane, else with that of the longest id
above it that has one, else with the first pane that was recorded below it.  The
answer is recorded under the id and nothing else changes.  From then on it is
the answer for that id until another pane is recorded under it.
-/

namespace PaneLayout

/-! ### Putting a known key -/

theorem Entries.put_of_mem {α : Type} {key : String} {old value : α}
    {before after : Entries α} (isFirst : key ∉ before.keys) :
    Entries.put key value (before ++ (key, old) :: after) =
      before ++ (key, value) :: after := by
  induction before with
  | nil => simp [put]
  | cons entry before induction =>
      obtain ⟨other, known⟩ := entry
      rw [keys, List.map_cons, List.mem_cons, not_or] at isFirst
      rw [List.cons_append, put, if_neg (Ne.symm isFirst.1),
        induction isFirst.2, List.cons_append]

namespace PaneMap

/-- An operation on a pane map. -/
inductive Operation where
  | register (id realId : String)
  | resolve (id : String)
  | get (id : String)
  | has (id : String)
deriving Repr, DecidableEq

/-- The map after an operation.  Asking without resolving changes nothing. -/
def after (panes : PaneMap) : Operation → PaneMap
  | .register id realId => panes.register id realId
  | .resolve id => (panes.resolve id).2
  | .get _ => panes
  | .has _ => panes

/-- The map after several operations. -/
def run (panes : PaneMap) (operations : List Operation) : PaneMap :=
  operations.foldl after panes

/-! ### What an answer is -/

/-- The pane is recorded under the id. -/
def Holds (panes : PaneMap) (id realId : String) : Prop :=
  (id, realId) ∈ panes.entries ∧ realId ≠ ""

/-- The first id ends just before a dot of the second one. -/
def IsAbove (id other : String) : Prop :=
  ∃ rest, other = id ++ "." ++ rest

/-- The answer for an id: its own pane, the pane of the longest id above it that
has one, the first pane that is recorded below it, or nothing. -/
inductive Answers (panes : PaneMap) (id : String) : Option String → Prop where
  | own {realId : String} :
      panes.Holds id realId → Answers panes id (some realId)
  | ofAncestor {above realId : String} :
      (∀ other, ¬ panes.Holds id other) →
      IsAbove above id → panes.Holds above realId →
      (∀ other pane, IsAbove other id → panes.Holds other pane →
        other.length ≤ above.length) →
      Answers panes id (some realId)
  | ofDescendant {below realId : String} {before after : Entries String} :
      (∀ other, ¬ panes.Holds id other) →
      (∀ above other, IsAbove above id → ¬ panes.Holds above other) →
      panes.entries = before ++ (below, realId) :: after →
      IsAbove id below → realId ≠ "" →
      (∀ entry ∈ before, IsAbove id entry.1 → entry.2 = "") →
      Answers panes id (some realId)
  | unknown :
      (∀ other, ¬ panes.Holds id other) →
      (∀ above other, IsAbove above id → ¬ panes.Holds above other) →
      (∀ below other, IsAbove id below → ¬ panes.Holds below other) →
      Answers panes id none

theorem isAncestor_iff_isAbove {id other : String} :
    isAncestor id other = true ↔ IsAbove id other := by
  rw [isAncestor, List.isPrefixOf_iff_prefix]
  constructor
  · rintro ⟨rest, same⟩
    refine ⟨String.ofList rest, String.toList_injective ?_⟩
    simp [← same]
  · rintro ⟨rest, rfl⟩
    exact ⟨rest.toList, by simp⟩

theorem partsBeforeDots_ordered (text : List Char) :
    (partsBeforeDots text).Pairwise fun part longer =>
      part.length < longer.length := by
  induction text with
  | nil => exact .nil
  | cons c rest induction =>
      have extended : ((partsBeforeDots rest).map (c :: ·)).Pairwise
          fun part longer => part.length < longer.length :=
        List.pairwise_map.mpr (induction.imp Nat.succ_lt_succ)
      unfold partsBeforeDots
      dsimp only
      split
      · refine .cons ?_ extended
        simp
      · exact extended

/-- The nearer of two ids above an id is the longer one. -/
theorem ancestors_ordered (id : String) :
    (ancestors id).Pairwise fun near far => far.length < near.length := by
  rw [ancestors, List.pairwise_map, List.pairwise_reverse]
  refine (partsBeforeDots_ordered id.toList).imp fun less => ?_
  simpa using less

section Answers

variable {panes : PaneMap} {id realId : String}

theorem get?_eq_some_iff_holds (unique : panes.entries.keys.Nodup) :
    panes.get? id = some realId ↔ panes.Holds id realId := by
  rw [get?_eq_some_iff, Holds]
  refine and_congr_left fun _ => ⟨Entries.mem_of_get?, ?_⟩
  exact Entries.get?_of_mem unique

theorem get?_eq_none_iff (unique : panes.entries.keys.Nodup) :
    panes.get? id = none ↔ ∀ other, ¬ panes.Holds id other := by
  simp only [Option.eq_none_iff_forall_ne_some, ne_eq,
    get?_eq_some_iff_holds unique]

theorem ofAncestor?_eq_none_iff (unique : panes.entries.keys.Nodup) :
    panes.ofAncestor? id = none ↔
      ∀ above other, IsAbove above id → ¬ panes.Holds above other := by
  simp only [ofAncestor?, List.findSome?_eq_none_iff, mem_ancestors,
    isAncestor_iff_isAbove, get?_eq_none_iff unique]
  exact forall_congr' fun _ => forall_comm

theorem ofAncestor?_eq_some_iff (unique : panes.entries.keys.Nodup) :
    panes.ofAncestor? id = some realId ↔
      ∃ above, IsAbove above id ∧ panes.Holds above realId ∧
        ∀ other pane, IsAbove other id → panes.Holds other pane →
          other.length ≤ above.length := by
  have ordered := ancestors_ordered id
  constructor
  · intro found
    obtain ⟨nearer, above, farther, parts, recorded, noneNearer⟩ :=
      List.findSome?_eq_some_iff.mp found
    have member : above ∈ ancestors id := by simp [parts]
    refine ⟨above, isAncestor_iff_isAbove.mp (mem_ancestors.mp member),
      (get?_eq_some_iff_holds unique).mp recorded, ?_⟩
    intro other pane isAbove holds
    have otherMember :=
      mem_ancestors.mpr (isAncestor_iff_isAbove.mpr isAbove)
    rw [parts] at otherMember ordered
    rcases List.mem_append.mp otherMember with isNearer | isHere
    · rw [← get?_eq_some_iff_holds unique, noneNearer other isNearer] at holds
      cases holds
    · rcases List.mem_cons.mp isHere with rfl | isFarther
      · exact Nat.le_refl _
      · exact Nat.le_of_lt ((List.pairwise_cons.mp
          (List.pairwise_append.mp ordered).2.1).1 other isFarther)
  · rintro ⟨above, isAbove, holds, isLongest⟩
    have member := mem_ancestors.mpr (isAncestor_iff_isAbove.mpr isAbove)
    obtain ⟨nearer, farther, parts⟩ := List.append_of_mem member
    refine List.findSome?_eq_some_iff.mpr ⟨nearer, above, farther, parts,
      (get?_eq_some_iff_holds unique).mpr holds, fun other isNearer => ?_⟩
    rw [get?_eq_none_iff unique]
    intro pane otherHolds
    have otherAbove : IsAbove other id := by
      rw [← isAncestor_iff_isAbove, ← mem_ancestors, parts]
      exact List.mem_append_left _ isNearer
    rw [parts] at ordered
    have longer := (List.pairwise_append.mp ordered).2.2 other isNearer above
      List.mem_cons_self
    exact Nat.not_le_of_gt longer
      (isLongest other pane otherAbove otherHolds)

theorem ofDescendant?_eq_none_iff :
    panes.ofDescendant? id = none ↔
      ∀ below other, IsAbove id below → ¬ panes.Holds below other := by
  simp only [ofDescendant?, Option.map_eq_none_iff, List.find?_eq_none,
    Bool.and_eq_true, decide_eq_true_eq, isAncestor_iff_isAbove, Holds]
  constructor
  · intro nothing below other isBelow holds
    exact nothing (below, other) holds.1 ⟨isBelow, holds.2⟩
  · intro nothing entry member holds
    exact nothing entry.1 entry.2 holds.1 ⟨member, holds.2⟩

theorem ofDescendant?_eq_some_iff :
    panes.ofDescendant? id = some realId ↔
      ∃ before below after,
        panes.entries = before ++ (below, realId) :: after ∧
        IsAbove id below ∧ realId ≠ "" ∧
        ∀ entry ∈ before, IsAbove id entry.1 → entry.2 = "" := by
  rw [ofDescendant?, Option.map_eq_some_iff]
  simp only [List.find?_eq_some_iff_append, Bool.and_eq_true,
    decide_eq_true_eq, isAncestor_iff_isAbove]
  constructor
  · rintro ⟨⟨below, _⟩, ⟨fits, before, after, parts, isFirst⟩, rfl⟩
    refine ⟨before, below, after, parts, fits.1, fits.2, ?_⟩
    intro entry member isBelow
    simpa [isAncestor_iff_isAbove.mpr isBelow] using isFirst entry member
  · rintro ⟨before, below, after, parts, isBelow, nonblank, isFirst⟩
    refine ⟨(below, realId), ⟨⟨isBelow, nonblank⟩, before, after, parts, ?_⟩,
      rfl⟩
    intro entry member
    by_cases fits : IsAbove id entry.1
    · simp [isFirst entry member fits]
    · simp [Bool.eq_false_iff.mpr (mt isAncestor_iff_isAbove.mp fits)]

theorem answers_lookup (unique : panes.entries.keys.Nodup) :
    panes.Answers id (panes.lookup id) := by
  rw [lookup]
  cases own : panes.get? id with
  | some realId => exact .own ((get?_eq_some_iff_holds unique).mp own)
  | none =>
      have noneOwn := (get?_eq_none_iff unique).mp own
      cases above : panes.ofAncestor? id with
      | some realId =>
          obtain ⟨_, isAbove, holds, isLongest⟩ :=
            (ofAncestor?_eq_some_iff unique).mp above
          exact .ofAncestor noneOwn isAbove holds isLongest
      | none =>
          have noneAbove := (ofAncestor?_eq_none_iff unique).mp above
          cases below : panes.ofDescendant? id with
          | some realId =>
              obtain ⟨_, _, _, parts, isBelow, nonblank, isFirst⟩ :=
                ofDescendant?_eq_some_iff.mp below
              exact .ofDescendant noneOwn noneAbove parts isBelow nonblank
                isFirst
          | none =>
              exact .unknown noneOwn noneAbove
                (ofDescendant?_eq_none_iff.mp below)

/-- An id has one answer. -/
theorem lookup_eq_of_answers (unique : panes.entries.keys.Nodup)
    {answer : Option String} (answers : panes.Answers id answer) :
    panes.lookup id = answer := by
  cases answers with
  | own holds =>
      exact lookup_of_get? ((get?_eq_some_iff_holds unique).mpr holds)
  | ofAncestor noneOwn isAbove holds isLongest =>
      rw [lookup, (get?_eq_none_iff unique).mpr noneOwn,
        (ofAncestor?_eq_some_iff unique).mpr ⟨_, isAbove, holds, isLongest⟩]
      rfl
  | ofDescendant noneOwn noneAbove parts isBelow nonblank isFirst =>
      rw [lookup, (get?_eq_none_iff unique).mpr noneOwn,
        (ofAncestor?_eq_none_iff unique).mpr noneAbove,
        ofDescendant?_eq_some_iff.mpr
          ⟨_, _, _, parts, isBelow, nonblank, isFirst⟩]
      rfl
  | unknown noneOwn noneAbove noneBelow =>
      rw [lookup, (get?_eq_none_iff unique).mpr noneOwn,
        (ofAncestor?_eq_none_iff unique).mpr noneAbove,
        ofDescendant?_eq_none_iff.mpr noneBelow]
      rfl

theorem resolve_fst : (panes.resolve id).1 = panes.lookup id := by
  rw [resolve]
  split <;> simp [*]

theorem answers_iff (unique : panes.entries.keys.Nodup)
    {answer : Option String} :
    panes.Answers id answer ↔ (panes.resolve id).1 = answer := by
  rw [resolve_fst]
  constructor
  · exact lookup_eq_of_answers unique
  · rintro rfl
    exact answers_lookup unique

end Answers

/-! ### What stays -/

section Run

variable {panes : PaneMap} {id realId : String}

/-- An operation does not record a pane that is given for the id. -/
def Operation.Leaves (id : String) (operation : Operation) : Prop :=
  ∀ other, operation ≠ .register id other

theorem keys_nodup_after (unique : panes.entries.keys.Nodup)
    (operation : Operation) :
    (panes.after operation).entries.keys.Nodup := by
  cases operation with
  | register id realId => exact keys_nodup_register unique id realId
  | resolve id => exact keys_nodup_resolve unique id
  | get id => exact unique
  | has id => exact unique

theorem keys_nodup_run (unique : panes.entries.keys.Nodup)
    (operations : List Operation) :
    (panes.run operations).entries.keys.Nodup := by
  induction operations generalizing panes with
  | nil => exact unique
  | cons operation operations induction =>
      exact induction (keys_nodup_after unique operation)

/-- Only giving another pane for an id changes the pane that it has. -/
theorem get?_after (recorded : panes.get? id = some realId)
    {operation : Operation} (leaves : operation.Leaves id) :
    (panes.after operation).get? id = some realId := by
  cases operation with
  | register other pane =>
      have different : other ≠ id := by
        rintro rfl
        exact leaves pane rfl
      rw [after, get?_register_of_ne different, recorded]
  | resolve other =>
      rw [after]
      cases found : panes.lookup other with
      | none => rw [resolve_of_unknown found, recorded]
      | some pane =>
          obtain ⟨_, _, _, nonblank⟩ := exists_of_lookup found
          rw [resolve_of_found found, get?_register nonblank]
          split
          · next same =>
            -- What is resolved is the id itself, which has its own pane.
            rw [← found, same, lookup_of_get? recorded]
          · exact recorded
  | get other => exact recorded
  | has other => exact recorded

theorem get?_run (recorded : panes.get? id = some realId)
    {operations : List Operation}
    (leave : ∀ operation ∈ operations, operation.Leaves id) :
    (panes.run operations).get? id = some realId := by
  induction operations generalizing panes with
  | nil => exact recorded
  | cons operation operations induction =>
      rw [List.forall_mem_cons] at leave
      exact induction (get?_after recorded leave.1) leave.2

/-- What is found for an id is recorded under it. -/
theorem get?_resolve (found : (panes.resolve id).1 = some realId) :
    (panes.resolve id).2.get? id = some realId := by
  rw [resolve_fst] at found
  obtain ⟨_, _, _, nonblank⟩ := exists_of_lookup found
  rw [resolve_of_found found, get?_register nonblank, if_pos rfl]

end Run

/-- A map answers for an id by what is recorded in it.  In the map that any
operations lead to, no id is recorded twice, and resolving an id gives its own
pane, else the pane of the longest id above it that has one, else the first pane
below it.  Without an answer nothing changes.  Otherwise the answer is recorded
under the id, in the place that the id has or else in the end, and every other
entry stays as it is; and the id has this pane and no other until another pane
is registered under it. -/
theorem resolve_follows_entries (operations : List Operation) (id : String) :
    let panes := empty.run operations
    panes.entries.keys.Nodup ∧
    (∀ answer, panes.Answers id answer ↔ (panes.resolve id).1 = answer) ∧
    ((panes.resolve id).1 = none → (panes.resolve id).2 = panes) ∧
    ∀ realId, (panes.resolve id).1 = some realId →
      (id ∉ panes.entries.keys →
        (panes.resolve id).2.entries = panes.entries ++ [(id, realId)]) ∧
      (∀ before old after, panes.entries = before ++ (id, old) :: after →
        (panes.resolve id).2.entries = before ++ (id, realId) :: after) ∧
      ∀ later : List Operation,
        (∀ operation ∈ later, operation.Leaves id) →
        ((panes.resolve id).2.run later).get? id = some realId ∧
        ((panes.resolve id).2.run later).has id = true ∧
        (((panes.resolve id).2.run later).resolve id).1 = some realId := by
  intro panes
  have fresh : empty.entries.keys.Nodup := List.nodup_nil
  have unique : panes.entries.keys.Nodup := keys_nodup_run fresh operations
  refine ⟨unique, fun answer => answers_iff unique, ?_, ?_⟩
  · intro unknown
    rw [resolve_fst] at unknown
    rw [resolve_of_unknown unknown]
  · intro realId found
    have isFound : panes.lookup id = some realId := by
      rw [← resolve_fst, found]
    have recorded := get?_resolve found
    refine ⟨?_, ?_, ?_⟩
    · intro isNew
      rw [resolve_of_found isFound]
      exact Entries.put_of_not_mem isNew
    · intro before old after parts
      rw [resolve_of_found isFound, register, parts]
      rw [parts, Entries.keys, List.map_append] at unique
      refine Entries.put_of_mem fun member => ?_
      exact (List.nodup_append.mp unique).2.2 _ member id
        List.mem_cons_self rfl
    · intro later leave
      have stays := get?_run recorded leave
      refine ⟨stays, has_iff.mpr ⟨realId, stays⟩, ?_⟩
      rw [resolve_fst, lookup_of_get? stays]

/-- Panes given for three ids, of which the middle one has none. -/
def givenThree : List Operation := [
  .register "root.1.0" "%2", .register "root" "", .register "root.1" "%5"]

/-- The first id below counts, though a nearer one has a pane too, and the
answer stays when another pane is given for that id. -/
theorem resolve_follows_givenThree :
    let panes := empty.run givenThree
    let later : List Operation := [.register "root.1.0" "%9", .resolve "root.2"]
    panes.Answers "root" (some "%2") ∧
    (panes.resolve "root").2.entries =
      [("root.1.0", "%2"), ("root", "%2"), ("root.1", "%5")] ∧
    (((panes.resolve "root").2.run later).resolve "root").1 = some "%2" ∧
    (((panes.resolve "root").2.run later).resolve "root.1.0.7").1 =
      some "%9" := by
  intro panes later
  obtain ⟨_, answered, _, recorded⟩ :=
    resolve_follows_entries givenThree "root"
  have found : (panes.resolve "root").1 = some "%2" := by decide
  obtain ⟨_, inPlace, stays⟩ := recorded "%2" found
  have leave : ∀ operation ∈ later, operation.Leaves "root" := by
    intro operation member other same
    subst same
    revert member
    simp [later]
  exact ⟨(answered _).mpr found,
    inPlace [("root.1.0", "%2")] "" [("root.1", "%5")] rfl,
    (stays later leave).2.2, by decide⟩

end PaneMap

end PaneLayout
