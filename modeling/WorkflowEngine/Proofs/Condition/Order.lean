import Mathlib
import WorkflowEngine.Condition
import WorkflowEngine.Proofs.Number.Arithmetic

/-!
# The order of integers in conditions

Equality compares integers as they are, and an order compares the doubles nearest to them.  An order that holds is the
order of the integers; two integers that share their nearest double are neither equal nor in any order, and an integer
that is too large for a double makes both orders fail.
-/

namespace WorkflowEngine.Condition

open Decimal (InRange nearestInt)

/-- Equality and the two orders answer what is true of two integers, so that exactly one of the three holds. -/
def Decides (ask : Operator → Except Fault Bool) (x y : Int) : Prop :=
  ask .equals = .ok (decide (x = y)) ∧
    ask .greaterThan = .ok (decide (y < x)) ∧ ask .lessThan = .ok (decide (x < y))

theorem toNumber_of_inRange {i : Int} (within : InRange i) : toNumber (.int i) = .ok (Decimal.floatOfInt i) :=
  Number.floatOfInt_of_inRange within

theorem toNumber_of_not_inRange {i : Int} (beyond : ¬ InRange i) : toNumber (.int i) = .error .tooLargeForFloat :=
  Number.floatOfInt_of_not_inRange beyond

/-- Two integers are compared as doubles if there are doubles nearest to both. -/
theorem compared_int (x y : Int) (answer : Float → Float → Bool) :
    (do
      let a ← toNumber (.int x)
      let b ← toNumber (.int y)
      return answer a b) =
      if InRange x ∧ InRange y then .ok (answer (Decimal.floatOfInt x) (Decimal.floatOfInt y))
      else .error .tooLargeForFloat := by
  by_cases within : InRange x
  · rw [toNumber_of_inRange within]
    by_cases within' : InRange y
    · rw [toNumber_of_inRange within', if_pos ⟨within, within'⟩]
      rfl
    · rw [toNumber_of_not_inRange within', if_neg fun both => within' both.2]
      rfl
  · rw [toNumber_of_not_inRange within, if_neg fun both => within both.1]
    rfl

variable {find : String → Except Fault Data} {name : String} {x : Int}

/-- Integers are equal as they are. -/
theorem holds_equals_int (found : find name = .ok (.int x)) (y : Int) (caseSensitive : Bool) :
    holds ⟨name, .equals, .int y, caseSensitive⟩ find = .ok (decide (x = y)) := by
  have equal : equalsExpected ⟨name, .equals, .int y, caseSensitive⟩ (.int x) = decide (x = y) := by
    change (some (compare x y) == some Ordering.eq) = _
    rw [Bool.eq_iff_iff, beq_iff_eq, Option.some_inj, compare_eq_iff_eq, decide_eq_true_iff]
  rw [holds, found]
  exact congrArg Except.ok equal

/-- The greater of two integers has the greater double nearest to it. -/
theorem holds_greaterThan_int (found : find name = .ok (.int x)) (y : Int) (caseSensitive : Bool) :
    holds ⟨name, .greaterThan, .int y, caseSensitive⟩ find =
      if InRange x ∧ InRange y then .ok (decide (nearestInt y < nearestInt x)) else .error .tooLargeForFloat := by
  rw [holds, found]
  refine (compared_int x y fun a b => decide (b < a)).trans (ite_congr rfl (fun both => ?_) fun _ => rfl)
  rw [decide_eq_decide.mpr (Decimal.floatOfInt_lt_iff both.2 both.1)]

theorem holds_lessThan_int (found : find name = .ok (.int x)) (y : Int) (caseSensitive : Bool) :
    holds ⟨name, .lessThan, .int y, caseSensitive⟩ find =
      if InRange x ∧ InRange y then .ok (decide (nearestInt x < nearestInt y)) else .error .tooLargeForFloat := by
  rw [holds, found]
  refine (compared_int x y fun a b => decide (a < b)).trans (ite_congr rfl (fun both => ?_) fun _ => rfl)
  rw [decide_eq_decide.mpr (Decimal.floatOfInt_lt_iff both.1 both.2)]

/-- An order of doubles is the order of the integers, unless these share a double. -/
theorem nearestInt_lt_iff (x y : Int) :
    (nearestInt x < nearestInt y ↔ x < y) ↔ (x < y → nearestInt x ≠ nearestInt y) := by
  constructor
  · intro order below
    exact (order.mpr below).ne
  · intro apart
    constructor
    · exact Decimal.lt_of_nearestInt_lt
    · intro below
      exact lt_of_le_of_ne (Decimal.nearestInt_mono below.le) (apart below)

/-- Equality and the orders decide between two integers just if both have doubles nearest to them, and these are not the
same unless the integers are. -/
theorem decides_iff (found : find name = .ok (.int x)) (y : Int) (caseSensitive : Bool) :
    Decides (fun operator => holds ⟨name, operator, .int y, caseSensitive⟩ find) x y ↔
      InRange x ∧ InRange y ∧ (x = y ∨ nearestInt x ≠ nearestInt y) := by
  rw [Decides, holds_equals_int found, holds_greaterThan_int found, holds_lessThan_int found]
  by_cases both : InRange x ∧ InRange y
  · rw [if_pos both, if_pos both]
    simp only [Except.ok.injEq, decide_eq_decide, nearestInt_lt_iff, true_and, both]
    constructor
    · rintro ⟨greater, less⟩
      rcases lt_trichotomy x y with below | same | above
      · exact .inr (less below)
      · exact .inl same
      · exact .inr (greater above).symm
    · rintro (same | apart)
      · exact ⟨fun above => absurd same.symm above.ne, fun below => absurd same below.ne⟩
      · exact ⟨fun _ => apart.symm, fun _ => apart⟩
  · rw [if_neg both]
    constructor
    · rintro ⟨-, greater, -⟩
      cases greater
    · rintro ⟨within, within', -⟩
      exact absurd ⟨within, within'⟩ both

theorem lt_of_ordered {p : Prop} [Decidable p] {x y : Int} {f : Fault}
    (ordered : (if p then Except.ok (decide (nearestInt x < nearestInt y)) else .error f) = .ok true) : x < y := by
  by_cases within : p
  · rw [if_pos within, Except.ok.injEq, decide_eq_true_iff] at ordered
    exact Decimal.lt_of_nearestInt_lt ordered
  · rw [if_neg within] at ordered
    cases ordered

/-- Equality of a variable that holds an integer with another integer never fails and is exact, and an order that holds
is the order of the integers.  Both orders compare the values nearest to the integers, and fail if one of them is too
large for a double.  So the conditions decide between the integers just if both have doubles nearest to them, and these
are not the same unless the integers are; which is so for all integers that a double's mantissa holds. -/
theorem holds_order_int (found : find name = .ok (.int x)) (y : Int) (caseSensitive : Bool) :
    let ask := fun operator => holds ⟨name, operator, .int y, caseSensitive⟩ find
    ask .equals = .ok (decide (x = y)) ∧
      ask .greaterThan = (if InRange x ∧ InRange y then .ok (decide (nearestInt y < nearestInt x))
        else .error .tooLargeForFloat) ∧
      ask .lessThan = (if InRange x ∧ InRange y then .ok (decide (nearestInt x < nearestInt y))
        else .error .tooLargeForFloat) ∧
      (ask .greaterThan = .ok true → y < x) ∧ (ask .lessThan = .ok true → x < y) ∧
      (Decides ask x y ↔ InRange x ∧ InRange y ∧ (x = y ∨ nearestInt x ≠ nearestInt y)) ∧
      (x.natAbs < 2 ^ 53 → y.natAbs < 2 ^ 53 → Decides ask x y) := by
  intro ask
  have greater := holds_greaterThan_int found y caseSensitive
  have less := holds_lessThan_int found y caseSensitive
  have decides := decides_iff found y caseSensitive
  refine ⟨holds_equals_int found y caseSensitive, greater, less, ?_, ?_, decides, ?_⟩
  · intro ordered
    exact lt_of_ordered (greater.symm.trans ordered)
  · intro ordered
    exact lt_of_ordered (less.symm.trans ordered)
  · intro few few'
    refine decides.mpr ⟨Decimal.inRange_of_lt few, Decimal.inRange_of_lt few', ?_⟩
    rw [Decimal.nearestInt_of_lt few, Decimal.nearestInt_of_lt few']
    exact eq_or_ne x y

/-- The greater of two integers that no mantissa holds, but whose nearest doubles differ. -/
theorem holds_order_int_apart :
    let find : String → Except Fault Data :=
      fun name => resolve name (.dict [(.str "x", .int (2 ^ 53 + 2))]) (.dict [])
    find "x" = .ok (.int (2 ^ 53 + 2)) ∧
      Decides (fun operator => holds ⟨"x", operator, .int (2 ^ 53 + 1), true⟩ find) (2 ^ 53 + 2) (2 ^ 53 + 1) := by
  intro find
  have found : find "x" = .ok (.int (2 ^ 53 + 2)) := rfl
  obtain ⟨-, -, -, -, -, decides, -⟩ := holds_order_int found (2 ^ 53 + 1) true
  have apart : nearestInt (2 ^ 53 + 2) ≠ nearestInt (2 ^ 53 + 1) := by decide +kernel
  exact ⟨found, decides.mpr ⟨by decide +kernel, by decide +kernel, .inr apart⟩⟩

/-- Two integers that share their nearest double are neither equal nor in any order, and one that is too large for a
double is in no order either. -/
theorem orders_miss_neighbours :
    let find : String → Except Fault Data := fun name =>
      resolve name (.dict [(.str "x", .int (2 ^ 53 + 1)), (.str "y", .int (10 ^ 400))]) (.dict [])
    holds ⟨"x", .equals, .int (2 ^ 53), true⟩ find = .ok false ∧
      holds ⟨"x", .greaterThan, .int (2 ^ 53), true⟩ find = .ok false ∧
      holds ⟨"x", .lessThan, .int (2 ^ 53), true⟩ find = .ok false ∧
      holds ⟨"y", .greaterThan, .int 0, true⟩ find = .error .tooLargeForFloat := by
  intro find
  have found : find "x" = .ok (.int (2 ^ 53 + 1)) := rfl
  have found' : find "y" = .ok (.int (10 ^ 400)) := rfl
  have same : nearestInt (2 ^ 53 + 1) = nearestInt (2 ^ 53) := by decide +kernel
  have within : InRange (2 ^ 53 + 1) ∧ InRange (2 ^ 53) := by decide +kernel
  have beyond : ¬ (InRange (10 ^ 400) ∧ InRange 0) := by decide +kernel
  rw [holds_equals_int found, holds_greaterThan_int found, holds_lessThan_int found, holds_greaterThan_int found',
    if_pos within, if_pos within, if_neg beyond, same]
  exact ⟨rfl, by simp, by simp, rfl⟩

end WorkflowEngine.Condition
