import WorkflowEngine.Condition

/-!
# Equality and truth values

Strict equality goes through two values part by part and never takes a truth value for a number.  A condition asks for
it at the top of the two values only.  Inside them truth values count as zero and one, so that the condition compares
what is left when every one of them is replaced by its number.  Both equalities agree unless a truth value of one
value stands where the other value has its number.
-/

namespace WorkflowEngine

open Condition (isBool)

namespace Data

/-! ## Strict equality -/

mutual

/-- Two parts are the same, and so are their parts, where a truth value is never the same as a number. -/
def strictlySame (a b : Data) : Bool :=
  match a with
  | .list items => match b with
    | .list others => allStrictlySame items others
    | _ => false
  | .tuple items => match b with
    | .tuple others => allStrictlySame items others
    | _ => false
  | .set items => match b with
    | .set others => items.length == others.length && allStrictMembers items others
    | _ => false
  | .dict entries => match b with
    | .dict others => entries.length == others.length && allStrictEntries entries others
    | _ => false
  | .slice lower upper step => match b with
    | .slice lower' upper' step' => strictlySame lower lower' && strictlySame upper upper' && strictlySame step step'
    | _ => false
  | a => isBool a == isBool b && same a b
termination_by structural a

/-- Two lists have strictly the same parts in the same places. -/
def allStrictlySame : List Data → List Data → Bool
  | [], [] => true
  | a :: rest, b :: others => strictlySame a b && allStrictlySame rest others
  | _, _ => false
termination_by structural items => items

/-- Every part of the first list is strictly a part of the second. -/
def allStrictMembers : List Data → List Data → Bool
  | [], _ => true
  | a :: rest, others => others.any (fun b => strictlySame a b) && allStrictMembers rest others
termination_by structural items => items

/-- Every entry of the first list has its key and value strictly among the second. -/
def allStrictEntries : List (Data × Data) → List (Data × Data) → Bool
  | [], _ => true
  | (key, value) :: rest, others =>
    others.any (fun e => strictlySame key e.1 && strictlySame value e.2) && allStrictEntries rest others
termination_by structural items => items

end

/-- Two values are equal, and no truth value in them stands for a number; a missing number is equal to none. -/
def strictlyEquals (a b : Data) : Bool :=
  match a with
  | .nan _ => false
  | a => strictlySame a b

/-! ## Truth values as numbers -/

mutual

/-- The value with zero and one in the places of its truth values. -/
def numbered : Data → Data
  | .bool b => .int (if b then 1 else 0)
  | .list items => .list (numberedItems items)
  | .tuple items => .tuple (numberedItems items)
  | .set items => .set (numberedItems items)
  | .dict entries => .dict (numberedEntries entries)
  | .slice lower upper step => .slice (numbered lower) (numbered upper) (numbered step)
  | d => d

/-- Items with zero and one in the places of truth values. -/
def numberedItems : List Data → List Data
  | [] => []
  | item :: rest => numbered item :: numberedItems rest

/-- Entries with zero and one in the places of truth values. -/
def numberedEntries : List (Data × Data) → List (Data × Data)
  | [] => []
  | (key, value) :: rest => (numbered key, numbered value) :: numberedEntries rest

end

variable (a b : Data) (items others : List Data) (entries : List (Data × Data))

theorem numberedItems_eq_map : numberedItems items = items.map numbered := by
  induction items with
  | nil => rfl
  | cons item rest ih => rw [numberedItems, ih, List.map_cons]

theorem numberedEntries_eq_map :
    numberedEntries entries = entries.map fun e => (numbered e.1, numbered e.2) := by
  induction entries with
  | nil => rfl
  | cons e rest ih => rw [numberedEntries, ih, List.map_cons]

mutual

/-- Two parts are the same exactly when they are strictly the same after truth values have become numbers. -/
theorem strictlySame_numbered (a b : Data) : strictlySame a.numbered b.numbered = same a b := by
  cases a with
  | list items => cases b with
    | list others => exact allStrictlySame_numbered items others
    | _ => rfl
  | tuple items => cases b with
    | tuple others => exact allStrictlySame_numbered items others
    | _ => rfl
  | set items => cases b with
    | set others =>
        rw [numbered, numbered, strictlySame, same, allStrictMembers_numbered items others, numberedItems_eq_map,
          numberedItems_eq_map, List.length_map, List.length_map]
    | _ => rfl
  | dict entries => cases b with
    | dict others =>
        rw [numbered, numbered, strictlySame, same, allStrictEntries_numbered entries others, numberedEntries_eq_map,
          numberedEntries_eq_map, List.length_map, List.length_map]
    | _ => rfl
  | slice lower upper step => cases b with
    | slice lower' upper' step' =>
        rw [numbered, numbered, strictlySame, same, strictlySame_numbered lower lower',
          strictlySame_numbered upper upper', strictlySame_numbered step step']
    | _ => rfl
  | _ => cases b <;> rfl

theorem allStrictlySame_numbered (items others : List Data) :
    allStrictlySame (numberedItems items) (numberedItems others) = allSame items others := by
  cases items with
  | nil => cases others <;> rfl
  | cons a rest => cases others with
    | nil => rfl
    | cons b others =>
        rw [numberedItems, numberedItems, allStrictlySame, allSame, strictlySame_numbered a b,
          allStrictlySame_numbered rest others]

theorem allStrictMembers_numbered (items others : List Data) :
    allStrictMembers (numberedItems items) (numberedItems others) = allMembers items others := by
  cases items with
  | nil => rfl
  | cons a rest =>
      have found : (numberedItems others).any (fun b => strictlySame a.numbered b) = others.any fun b => same a b := by
        rw [numberedItems_eq_map, List.any_map]
        exact congrArg others.any (funext fun b => strictlySame_numbered a b)
      rw [numberedItems, allStrictMembers, allMembers, found, allStrictMembers_numbered rest others]

theorem allStrictEntries_numbered (entries others : List (Data × Data)) :
    allStrictEntries (numberedEntries entries) (numberedEntries others) = allEntries entries others := by
  rcases entries with _ | ⟨⟨key, value⟩, rest⟩
  · rfl
  · have found : (numberedEntries others).any
        (fun e => strictlySame key.numbered e.1 && strictlySame value.numbered e.2) =
          others.any fun e => same key e.1 && same value e.2 := by
      rw [numberedEntries_eq_map, List.any_map]
      refine congrArg others.any (funext fun e => ?_)
      exact congr (congrArg and (strictlySame_numbered key e.1)) (strictlySame_numbered value e.2)
    rw [numberedEntries, allStrictEntries, allEntries, found, allStrictEntries_numbered rest others]

end

theorem strictlyEquals_numbered : strictlyEquals a.numbered b.numbered = equals a b := by
  cases a with
  | nan mark => rfl
  | bool | list | tuple | set | dict | slice => exact strictlySame_numbered _ b
  | _ => exact strictlySame_numbered _ b

/-! ## Values without a truth value in the place of a number -/

/-- A truth value of one value stands where the other value has its number. -/
inductive Confuses : Data → Data → Prop where
  | here {a b : Data} (kinds : isBool a ≠ isBool b) (alike : same a b = true) : Confuses a b
  | listItem {items others : List Data} {i : Nat} {a b : Data} (place : items[i]? = some a)
      (place' : others[i]? = some b) (inside : Confuses a b) : Confuses (.list items) (.list others)
  | tupleItem {items others : List Data} {i : Nat} {a b : Data} (place : items[i]? = some a)
      (place' : others[i]? = some b) (inside : Confuses a b) : Confuses (.tuple items) (.tuple others)
  | member {items others : List Data} {a b : Data} (listed : a ∈ items) (listed' : b ∈ others)
      (alike : same a b = true) (inside : Confuses a b) : Confuses (.set items) (.set others)
  | key {entries others : List (Data × Data)} {e e' : Data × Data} (listed : e ∈ entries) (listed' : e' ∈ others)
      (alike : same e.1 e'.1 = true) (inside : Confuses e.1 e'.1) : Confuses (.dict entries) (.dict others)
  | value {entries others : List (Data × Data)} {e e' : Data × Data} (listed : e ∈ entries) (listed' : e' ∈ others)
      (alike : same e.1 e'.1 = true) (inside : Confuses e.2 e'.2) : Confuses (.dict entries) (.dict others)
  | bound {lower upper step lower' upper' step' : Data} {pair : Data × Data}
      (listed : pair ∈ [(lower, lower'), (upper, upper'), (step, step')]) (inside : Confuses pair.1 pair.2) :
      Confuses (.slice lower upper step) (.slice lower' upper' step')

mutual

/-- What is strictly the same is the same. -/
theorem same_of_strictlySame (a b : Data) (alike : strictlySame a b = true) : same a b = true := by
  cases a with
  | list items => cases b with
    | list others => exact allSame_of_allStrictlySame items others alike
    | _ => cases alike
  | tuple items => cases b with
    | tuple others => exact allSame_of_allStrictlySame items others alike
    | _ => cases alike
  | set items => cases b with
    | set others =>
        rw [strictlySame, Bool.and_eq_true] at alike
        rw [same, Bool.and_eq_true]
        exact ⟨alike.1, allMembers_of_allStrictMembers items others alike.2⟩
    | _ => cases alike
  | dict entries => cases b with
    | dict others =>
        rw [strictlySame, Bool.and_eq_true] at alike
        rw [same, Bool.and_eq_true]
        exact ⟨alike.1, allEntries_of_allStrictEntries entries others alike.2⟩
    | _ => cases alike
  | slice lower upper step => cases b with
    | slice lower' upper' step' =>
        rw [strictlySame, Bool.and_eq_true, Bool.and_eq_true] at alike
        obtain ⟨⟨first, second⟩, third⟩ := alike
        rw [same, same_of_strictlySame lower lower' first, same_of_strictlySame upper upper' second,
          same_of_strictlySame step step' third]
        rfl
    | _ => cases alike
  | _ => exact (Bool.and_eq_true_iff.mp alike).2
termination_by structural a

theorem allSame_of_allStrictlySame (items others : List Data) (alike : allStrictlySame items others = true) :
    allSame items others = true := by
  cases items with
  | nil => cases others with
    | nil => rfl
    | cons b others => cases alike
  | cons a rest => cases others with
    | nil => cases alike
    | cons b others =>
        rw [allStrictlySame, Bool.and_eq_true] at alike
        rw [allSame, same_of_strictlySame a b alike.1, allSame_of_allStrictlySame rest others alike.2]
        rfl
termination_by structural items

theorem allMembers_of_allStrictMembers (items others : List Data) (alike : allStrictMembers items others = true) :
    allMembers items others = true := by
  cases items with
  | nil => rfl
  | cons a rest =>
      rw [allStrictMembers, Bool.and_eq_true, List.any_eq_true] at alike
      obtain ⟨⟨b, listed, found⟩, further⟩ := alike
      rw [allMembers, Bool.and_eq_true, List.any_eq_true]
      exact ⟨⟨b, listed, same_of_strictlySame a b found⟩, allMembers_of_allStrictMembers rest others further⟩
termination_by structural items

theorem allEntries_of_allStrictEntries (entries others : List (Data × Data))
    (alike : allStrictEntries entries others = true) : allEntries entries others = true := by
  rcases entries with _ | ⟨⟨key, value⟩, rest⟩
  · rfl
  · rw [allStrictEntries, Bool.and_eq_true, List.any_eq_true] at alike
    obtain ⟨⟨e, listed, found⟩, further⟩ := alike
    rw [Bool.and_eq_true] at found
    rw [allEntries, Bool.and_eq_true, List.any_eq_true]
    refine ⟨⟨e, listed, ?_⟩, allEntries_of_allStrictEntries rest others further⟩
    rw [same_of_strictlySame key e.1 found.1, same_of_strictlySame value e.2 found.2]
    rfl
termination_by structural entries

end

mutual

/-- What is the same is strictly the same unless a truth value stands in the place of a number. -/
theorem strictlySame_of_same (a b : Data) (clear : ¬ Confuses a b) (alike : same a b = true) :
    strictlySame a b = true := by
  cases a with
  | list items => cases b with
    | list others =>
        exact allStrictlySame_of_allSame items others (fun i a b place place' inside =>
          clear (.listItem place place' inside)) alike
    | _ => cases alike
  | tuple items => cases b with
    | tuple others =>
        exact allStrictlySame_of_allSame items others (fun i a b place place' inside =>
          clear (.tupleItem place place' inside)) alike
    | _ => cases alike
  | set items => cases b with
    | set others =>
        rw [same, Bool.and_eq_true] at alike
        rw [strictlySame, Bool.and_eq_true]
        exact ⟨alike.1, allStrictMembers_of_allMembers items others (fun a listed b listed' alike inside =>
          clear (.member listed listed' alike inside)) alike.2⟩
    | _ => cases alike
  | dict entries => cases b with
    | dict others =>
        rw [same, Bool.and_eq_true] at alike
        rw [strictlySame, Bool.and_eq_true]
        refine ⟨alike.1, allStrictEntries_of_allEntries entries others (fun e listed e' listed' alike => ?_) alike.2⟩
        exact ⟨fun inside => clear (.key listed listed' alike inside),
          fun inside => clear (.value listed listed' alike inside)⟩
    | _ => cases alike
  | slice lower upper step => cases b with
    | slice lower' upper' step' =>
        rw [same, Bool.and_eq_true, Bool.and_eq_true] at alike
        obtain ⟨⟨first, second⟩, third⟩ := alike
        have bounds (pair : Data × Data) (listed : pair ∈ [(lower, lower'), (upper, upper'), (step, step')]) :
            ¬ Confuses pair.1 pair.2 :=
          fun inside => clear (.bound listed inside)
        have lowers := strictlySame_of_same lower lower' (bounds (lower, lower') (by simp)) first
        have uppers := strictlySame_of_same upper upper' (bounds (upper, upper') (by simp)) second
        have steps := strictlySame_of_same step step' (bounds (step, step') (by simp)) third
        rw [strictlySame, lowers, uppers, steps]
        rfl
    | _ => cases alike
  | _ =>
      have kinds : isBool _ = isBool b := Decidable.not_not.mp fun kinds => clear (.here kinds alike)
      exact Bool.and_eq_true_iff.mpr ⟨beq_iff_eq.mpr kinds, alike⟩
termination_by structural a

theorem allStrictlySame_of_allSame (items others : List Data)
    (clear : ∀ (i : Nat) (a b : Data), items[i]? = some a → others[i]? = some b → ¬ Confuses a b)
    (alike : allSame items others = true) : allStrictlySame items others = true := by
  cases items with
  | nil => cases others with
    | nil => rfl
    | cons b others => cases alike
  | cons a rest => cases others with
    | nil => cases alike
    | cons b others =>
        rw [allSame, Bool.and_eq_true] at alike
        have further := allStrictlySame_of_allSame rest others
          (fun i a b place place' => clear (i + 1) a b place place')
          alike.2
        rw [allStrictlySame, strictlySame_of_same a b (clear 0 a b rfl rfl) alike.1, further]
        rfl
termination_by structural items

theorem allStrictMembers_of_allMembers (items others : List Data)
    (clear : ∀ a ∈ items, ∀ b ∈ others, same a b = true → ¬ Confuses a b) (alike : allMembers items others = true) :
    allStrictMembers items others = true := by
  cases items with
  | nil => rfl
  | cons a rest =>
      rw [allMembers, Bool.and_eq_true, List.any_eq_true] at alike
      obtain ⟨⟨b, listed, found⟩, further⟩ := alike
      rw [List.forall_mem_cons] at clear
      rw [allStrictMembers, Bool.and_eq_true, List.any_eq_true]
      exact ⟨⟨b, listed, strictlySame_of_same a b (clear.1 b listed found) found⟩,
        allStrictMembers_of_allMembers rest others clear.2 further⟩
termination_by structural items

theorem allStrictEntries_of_allEntries (entries others : List (Data × Data))
    (clear : ∀ e ∈ entries, ∀ e' ∈ others, same e.1 e'.1 = true → ¬ Confuses e.1 e'.1 ∧ ¬ Confuses e.2 e'.2)
    (alike : allEntries entries others = true) : allStrictEntries entries others = true := by
  rcases entries with _ | ⟨⟨key, value⟩, rest⟩
  · rfl
  · rw [allEntries, Bool.and_eq_true, List.any_eq_true] at alike
    obtain ⟨⟨e, listed, found⟩, further⟩ := alike
    rw [Bool.and_eq_true] at found
    rw [List.forall_mem_cons] at clear
    obtain ⟨keys, values⟩ := clear.1 e listed found.1
    rw [allStrictEntries, Bool.and_eq_true, List.any_eq_true]
    refine ⟨⟨e, listed, ?_⟩, allStrictEntries_of_allEntries rest others clear.2 further⟩
    rw [strictlySame_of_same key e.1 keys found.1, strictlySame_of_same value e.2 values found.2]
    rfl
termination_by structural entries

end

variable {a b}

/-- What is strictly the same is a truth value on both sides or on none. -/
theorem isBool_of_strictlySame (alike : strictlySame a b = true) : isBool a = isBool b := by
  cases a with
  | list items => cases b with
    | list others => rfl
    | _ => cases alike
  | tuple items => cases b with
    | tuple others => rfl
    | _ => cases alike
  | set items => cases b with
    | set others => rfl
    | _ => cases alike
  | dict entries => cases b with
    | dict others => rfl
    | _ => cases alike
  | slice lower upper step => cases b with
    | slice lower' upper' step' => rfl
    | _ => cases alike
  | _ => exact beq_iff_eq.mp (Bool.and_eq_true_iff.mp alike).1

theorem isBool_of_strictlyEquals (alike : strictlyEquals a b = true) : isBool a = isBool b := by
  cases a with
  | nan mark => cases alike
  | _ => exact isBool_of_strictlySame alike

/-- Equality and strict equality agree on values without a truth value in the place of a number. -/
theorem equals_eq_strictlyEquals (clear : ¬ Confuses a b) : equals a b = strictlyEquals a b := by
  have parts : same a b = strictlySame a b :=
    Bool.eq_iff_iff.mpr ⟨strictlySame_of_same a b clear, same_of_strictlySame a b⟩
  cases a with
  | nan mark => rfl
  | _ => exact parts

end Data

/-! ## Conditions -/

namespace Condition

variable {find : String → Except Fault Data} {name : String} {value : Data}

/-- Where the case of letters counts, texts are compared like all other values. -/
theorem equalsExpected_sensitive (name : String) (operator : Operator) (value expected : Data) :
    equalsExpected ⟨name, operator, expected, true⟩ value = strictlyEqual value (foreign expected) := by
  cases value with
  | str s => cases expected <;> rfl
  | _ => rfl

/-- Equality with regard to case never fails, and inequality is its negation.  Two values match that both are truth
values or both are none, and that are strictly equal once their truth values have become numbers; where no truth value
stands in the place of a number inside them, the values that match are those that are strictly equal. -/
theorem holds_equals_strictly (found : find name = .ok value) (expected : Data) :
    ∃ matched : Bool,
      holds ⟨name, .equals, expected, true⟩ find = .ok matched ∧
      holds ⟨name, .notEquals, expected, true⟩ find = .ok !matched ∧
      matched = (isBool value == isBool (foreign expected) &&
        value.numbered.strictlyEquals (foreign expected).numbered) ∧
      ((isBool value = isBool (foreign expected) → ¬ value.Confuses (foreign expected)) →
        matched = value.strictlyEquals (foreign expected)) := by
  refine ⟨strictlyEqual value (foreign expected), ?_, ?_, ?_, ?_⟩
  · rw [holds, found]
    exact congrArg Except.ok (equalsExpected_sensitive name .equals value expected)
  · rw [holds, found]
    exact congrArg (fun matched => Except.ok !matched) (equalsExpected_sensitive name .notEquals value expected)
  · rw [strictlyEqual, Data.strictlyEquals_numbered]
  · intro clear
    rw [strictlyEqual]
    by_cases kinds : isBool value = isBool (foreign expected)
    · rw [Data.equals_eq_strictlyEquals (clear kinds), beq_iff_eq.mpr kinds, Bool.true_and]
    · have apart : value.strictlyEquals (foreign expected) = false := by
        rw [Bool.eq_false_iff]
        exact fun alike => kinds (Data.isBool_of_strictlyEquals alike)
      rw [apart, beq_false_of_ne kinds, Bool.false_and]

/-- No truth value stands in the place of a number in these two lists, so that the condition compares them strictly. -/
theorem holds_equals_strictly_apart :
    let find : String → Except Fault Data :=
      fun name => resolve name (.dict [(.str "x", .list [.bool true, .int 2])]) (.dict [])
    let expected : Data := .list [.bool true, .float 2.0]
    find "x" = .ok (.list [.bool true, .int 2]) ∧ ¬ Data.Confuses (.list [.bool true, .int 2]) expected ∧
      ∃ matched : Bool, holds ⟨"x", .equals, expected, true⟩ find = .ok matched ∧
        holds ⟨"x", .notEquals, expected, true⟩ find = .ok !matched ∧
        matched = (Data.list [.bool true, .int 2]).strictlyEquals expected := by
  intro find expected
  have found : find "x" = .ok (.list [.bool true, .int 2]) := rfl
  have clear : ¬ Data.Confuses (.list [.bool true, .int 2]) (.list [.bool true, .float 2.0]) := by
    rintro (⟨kinds, -⟩ | ⟨place, place', inside⟩)
    · exact kinds rfl
    · rename_i i a b
      match i with
      | 0 =>
          cases place
          cases place'
          cases inside with
          | here kinds alike => exact kinds rfl
      | 1 =>
          cases place
          cases place'
          cases inside with
          | here kinds alike => exact kinds rfl
      | i + 2 => cases place
  obtain ⟨matched, holds, opposite, -, strictly⟩ := holds_equals_strictly found expected
  exact ⟨found, clear, matched, holds, opposite, strictly fun _ => clear⟩

/-- A truth value inside a list equals its number, and is not strictly equal to it. -/
theorem equals_flag_in_list :
    holds ⟨"x", .equals, .list [.int 1], true⟩
        (fun name => resolve name (.dict [(.str "x", .list [.bool true])]) (.dict [])) = .ok true ∧
      (Data.list [.bool true]).strictlyEquals (.list [.int 1]) = false := by
  constructor
  · rfl
  · rfl

end Condition

end WorkflowEngine
