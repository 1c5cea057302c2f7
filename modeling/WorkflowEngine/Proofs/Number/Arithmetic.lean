import WorkflowEngine.Number.Arithmetic
import WorkflowEngine.Proofs.Decimal.Nearest

/-!
# Arithmetic of real numbers

Integers and doubles are added, subtracted and multiplied unless one of them is an integer without a double nearest to it
and the other is a double.  They are divided, by a number that is not equal to zero, unless the same is so or both are
integers and their quotient has no double nearest to it.  What comes out is real again, and it is not if an operand is
complex.
-/

namespace WorkflowEngine.Number

open Decimal (InRange)

variable {a b c : Number} {i j : Int}

/-- The number is an integer or a double. -/
def IsReal : Number → Prop
  | .complex _ _ => False
  | _ => True

/-- An integer that has to be a double, or a quotient of integers, has no finite double nearest to it. -/
def Overflows (divides : Bool) : Number → Number → Prop
  | .int i, .int j => divides = true ∧ (2 ^ 1024 - 2 ^ 970) * j.natAbs ≤ i.natAbs
  | .int i, .float _ => ¬ InRange i
  | .float _, .int j => ¬ InRange j
  | _, _ => False

theorem floatOfInt_of_inRange (within : InRange i) : floatOfInt i = .ok (Decimal.floatOfInt i) := by
  rw [floatOfInt, if_pos ((Decimal.floatOfInt_spec i).1.mpr within)]

theorem floatOfInt_of_not_inRange (beyond : ¬ InRange i) : floatOfInt i = .error .tooLargeForFloat := by
  rw [floatOfInt, if_neg (beyond ∘ (Decimal.floatOfInt_spec i).1.mp)]

/-- A number is equal to zero if its double is. -/
theorem toFloat_ne_zero {y : Float} (double : b.toFloat = .ok y) (some : b.equals (.int 0) = false) :
    (y == 0.0) = false := by
  cases b with
  | complex re im => cases double
  | float x =>
      cases double
      by_contra zero
      rcases Decimal.eq_zero_of_beq (Bool.eq_true_of_not_eq_false zero) with rfl | rfl
      · exact absurd some (by decide +kernel)
      · exact absurd some (by decide +kernel)
  | int j =>
      have apart : j ≠ 0 := by
        rintro rfl
        cases some
      by_cases within : InRange j
      · rw [toFloat, floatOfInt_of_inRange within, Except.ok.injEq] at double
        rw [← double]
        exact Decimal.floatOfInt_ne_zero apart within
      · rw [toFloat, floatOfInt_of_not_inRange within] at double
        cases double

/-- Two real numbers, not both of them integers, are taken as doubles unless there is none for one of them. -/
theorem bothFloats_of_real (real : a.IsReal) (real' : b.IsReal) (mixed : ∀ i j, a = .int i → b ≠ .int j) :
    (¬ Overflows false a b → ∃ x y, b.toFloat = .ok y ∧ bothFloats a b = .ok (x, y)) ∧
      (Overflows false a b → bothFloats a b = .error .tooLargeForFloat) := by
  cases a with
  | complex re im => exact real.elim
  | int i => cases b with
    | complex re im => exact real'.elim
    | int j => exact absurd rfl (mixed i j rfl)
    | float y =>
        constructor
        · intro within
          refine ⟨Decimal.floatOfInt i, y, rfl, ?_⟩
          rw [bothFloats, toFloat, floatOfInt_of_inRange (not_not.mp within)]
          rfl
        · intro beyond
          rw [bothFloats, toFloat, floatOfInt_of_not_inRange beyond]
  | float x => cases b with
    | complex re im => exact real'.elim
    | float y => exact ⟨fun _ => ⟨x, y, rfl, rfl⟩, False.elim⟩
    | int j =>
        constructor
        · intro within
          have double : toFloat (.int j) = .ok (Decimal.floatOfInt j) := floatOfInt_of_inRange (not_not.mp within)
          refine ⟨x, Decimal.floatOfInt j, double, ?_⟩
          rw [bothFloats, double]
          rfl
        · intro beyond
          have double : toFloat (.int j) = .error .tooLargeForFloat := floatOfInt_of_not_inRange beyond
          rw [bothFloats, double]
          rfl

/-- Real numbers are combined to a real number. -/
theorem combine_of_real (ints : Int → Int → Int) (floats : Float → Float → Float)
    (pairs : Float × Float → Float × Float → Float × Float) (real : a.IsReal) (real' : b.IsReal) :
    (¬ Overflows false a b → ∃ c : Number, c.IsReal ∧ combine ints floats pairs a b = .ok c) ∧
      (Overflows false a b → combine ints floats pairs a b = .error .tooLargeForFloat) := by
  by_cases whole : ∃ i j, a = .int i ∧ b = .int j
  · obtain ⟨i, j, rfl, rfl⟩ := whole
    exact ⟨fun _ => ⟨.int (ints i j), trivial, rfl⟩, fun beyond => absurd beyond.1 Bool.false_ne_true⟩
  · have mixed : ∀ i j, a = .int i → b ≠ .int j := fun i j left right => whole ⟨i, j, left, right⟩
    have doubles : combine ints floats pairs a b =
        (bothFloats a b).map fun both => .float (floats both.1 both.2) := by
      cases a <;> cases b <;> first | rfl | exact real.elim | exact real'.elim | exact absurd rfl (mixed _ _ rfl)
    obtain ⟨comes, fails⟩ := bothFloats_of_real real real' mixed
    rw [doubles]
    constructor
    · intro within
      obtain ⟨x, y, -, both⟩ := comes within
      rw [both]
      exact ⟨.float (floats x y), trivial, rfl⟩
    · intro beyond
      rw [fails beyond]
      rfl

theorem divideInts_of_ne (some : j ≠ 0) :
    ((2 ^ 1024 - 2 ^ 970) * j.natAbs ≤ i.natAbs →
      divideInts i j = .error (.other .overflow "integer division result too large for a float")) ∧
      (i.natAbs < (2 ^ 1024 - 2 ^ 970) * j.natAbs → ∃ x, divideInts i j = .ok (.float x)) := by
  have finite := Decimal.isFinite_nearestFloat_iff (decide (i < 0) != decide (j < 0)) i.natAbs (Int.natAbs_ne_zero.mpr some)
  unfold divideInts
  rw [if_neg (by simpa using some)]
  constructor
  · intro beyond
    exact if_neg (mt finite.mp (Nat.not_lt.mpr beyond))
  · intro within
    exact ⟨_, if_pos (finite.mpr within)⟩

/-- Real numbers, not both of them integers, are divided as doubles. -/
theorem divide_of_bothFloats (real : a.IsReal) (real' : b.IsReal) (mixed : ∀ i j, a = .int i → b ≠ .int j) :
    (∀ {x y}, bothFloats a b = .ok (x, y) →
      divide a b = if y == 0.0 then zeroDivision "float division by zero" else .ok (.float (x / y))) ∧
      ∀ {f}, bothFloats a b = .error f → divide a b = .error f := by
  cases a with
  | complex re im => exact real.elim
  | int i => cases b with
    | complex re im => exact real'.elim
    | int j => exact absurd rfl (mixed i j rfl)
    | float y => exact ⟨fun both => by simp only [divide, both], fun both => by simp only [divide, both]⟩
  | float x => cases b with
    | complex re im => exact real'.elim
    | int j => exact ⟨fun both => by simp only [divide, both], fun both => by simp only [divide, both]⟩
    | float y => exact ⟨fun both => by simp only [divide, both], fun both => by simp only [divide, both]⟩

/-- Real numbers are divided with a double for the quotient. -/
theorem divide_of_real (real : a.IsReal) (real' : b.IsReal) (some : b.equals (.int 0) = false) :
    (¬ Overflows true a b → ∃ x, divide a b = .ok (.float x)) ∧
      (Overflows true a b → ∃ f, divide a b = .error f ∧ f.cls = .overflow) := by
  by_cases whole : ∃ i j, a = .int i ∧ b = .int j
  · obtain ⟨i, j, rfl, rfl⟩ := whole
    have apart : j ≠ 0 := by
      rintro rfl
      cases some
    obtain ⟨fails, comes⟩ := divideInts_of_ne (i := i) apart
    exact ⟨fun within => comes (Nat.not_le.mp fun beyond => within ⟨rfl, beyond⟩), fun beyond => ⟨_, fails beyond.2, rfl⟩⟩
  · have mixed : ∀ i j, a = .int i → b ≠ .int j := fun i j left right => whole ⟨i, j, left, right⟩
    have same : Overflows true a b ↔ Overflows false a b := by
      cases a <;> cases b <;> first | exact Iff.rfl | exact absurd rfl (mixed _ _ rfl)
    obtain ⟨comes, fails⟩ := bothFloats_of_real real real' mixed
    obtain ⟨divides, stops⟩ := divide_of_bothFloats real real' mixed
    rw [same]
    constructor
    · intro within
      obtain ⟨x, y, double, both⟩ := comes within
      rw [divides both]
      exact ⟨x / y, if_neg (by rw [toFloat_ne_zero double some]; exact Bool.false_ne_true)⟩
    · intro beyond
      exact ⟨_, stops (fails beyond), rfl⟩

/-- What comes out of an operation with a complex number is complex. -/
theorem not_isReal_of_combine {ints : Int → Int → Int} {floats : Float → Float → Float}
    {pairs : Float × Float → Float × Float → Float × Float} {re im : Float}
    (done : combine ints floats pairs a (.complex re im) = .ok c) :
    ¬ c.IsReal := by
  have complex : combine ints floats pairs a (.complex re im) =
      (bothComplex a (.complex re im)).map fun both =>
        .complex (pairs both.1 both.2).1 (pairs both.1 both.2).2 := by
    cases a <;> rfl
  rw [complex] at done
  cases both : bothComplex a (.complex re im) with
  | error f =>
      rw [both] at done
      cases done
  | ok parts =>
      rw [both] at done
      cases done
      exact id

theorem not_isReal_of_divide {re im : Float} (done : divide a (.complex re im) = .ok c) : ¬ c.IsReal := by
  cases both : bothComplex a (.complex re im) with
  | error f =>
      have fails : divide a (.complex re im) = .error f := by
        cases a <;> simp only [divide, both]
      rw [fails] at done
      cases done
  | ok parts =>
      have quotient : divide a (.complex re im) =
          if parts.2.1 == 0.0 && parts.2.2 == 0.0 then zeroDivision "complex division by zero"
          else .ok (.complex (pairQuotient parts.1 parts.2).1 (pairQuotient parts.1 parts.2).2) := by
        cases a <;> simp only [divide, both]
      rw [quotient] at done
      split at done
      · cases done
      · cases done
        exact id

end WorkflowEngine.Number
