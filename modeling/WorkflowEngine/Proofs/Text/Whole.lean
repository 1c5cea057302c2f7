import Mathlib.Data.List.TakeWhile
import WorkflowEngine.Data.Text
import WorkflowEngine.Text.Encoding

/-!
# Whole texts

A text is whole if no character of it stands for half of a surrogate pair.  Such a text can be encoded.  Numbers
are written as whole texts, and quotes around a whole text leave it whole.
-/

namespace WorkflowEngine.Text

/-- All characters are whole ones. -/
def AreWhole (chars : List Char) : Prop :=
  ∀ c ∈ chars, Surrogate.half? c = none

instance (chars : List Char) : Decidable (AreWhole chars) :=
  List.decidableBAll (fun c => Surrogate.half? c = none) chars

/-- All characters of a text are whole ones. -/
abbrev IsWhole (s : String) : Prop :=
  AreWhole s.toList

variable {a b chars : List Char} {s t : String}

@[simp] theorem areWhole_nil : AreWhole [] :=
  fun _ listed => nomatch listed

@[simp] theorem areWhole_cons {c : Char} : AreWhole (c :: chars) ↔ Surrogate.half? c = none ∧ AreWhole chars :=
  List.forall_mem_cons

@[simp] theorem areWhole_append : AreWhole (a ++ b) ↔ AreWhole a ∧ AreWhole b :=
  List.forall_mem_append

@[simp] theorem areWhole_reverse : AreWhole chars.reverse ↔ AreWhole chars := by
  simp [AreWhole]

/-- A part of whole characters is whole. -/
theorem AreWhole.mono (whole : AreWhole b) (sub : a ⊆ b) : AreWhole a :=
  fun c listed => whole c (sub listed)

theorem AreWhole.flatMap {α : Type} {xs : List α} {f : α → List Char} (whole : ∀ x ∈ xs, AreWhole (f x)) :
    AreWhole (xs.flatMap f) := by
  intro c listed
  obtain ⟨x, found, inside⟩ := List.mem_flatMap.mp listed
  exact whole x found c inside

theorem IsWhole.append (whole : IsWhole s) (behind : IsWhole t) : IsWhole (s ++ t) := by
  rw [IsWhole, String.toList_append]
  exact areWhole_append.mpr ⟨whole, behind⟩

theorem isWhole_ofList : IsWhole (String.ofList chars) ↔ AreWhole chars := by
  rw [IsWhole, String.toList_ofList]

/-- Whole texts with a whole mark between them. -/
theorem isWhole_intercalate {texts : List String} (mark : IsWhole s) (whole : ∀ text ∈ texts, IsWhole text) :
    IsWhole (s.intercalate texts) := by
  rw [IsWhole, String.toList_intercalate]
  induction texts with
  | nil => exact areWhole_nil
  | cons text rest ih =>
      have here : IsWhole text := whole text List.mem_cons_self
      have behind := ih fun text listed => whole text (List.mem_cons_of_mem _ listed)
      cases rest with
      | nil => simpa using here
      | cons next rest => simpa [List.intercalate_cons_cons] using ⟨here, mark, behind⟩

/-- Only characters far out stand for halves. -/
theorem half?_eq_none {c : Char} (near : c.toNat < Surrogate.base) : Surrogate.half? c = none := by
  rw [Surrogate.half?, if_neg (by omega)]

/-- Whole texts can be encoded. -/
theorem encodingFault?_eq_none (whole : AreWhole chars) : encodingFault? chars = none := by
  have sound : chars.dropWhile (fun c => (Surrogate.half? c).isNone) = [] :=
    List.dropWhile_eq_nil_iff.mpr fun c listed => by rw [whole c listed]; rfl
  simp only [encodingFault?, unencodable?, sound]

/-! ## Digits -/

theorem half?_of_isDigit {c : Char} (digit : c.isDigit = true) : Surrogate.half? c = none := by
  refine half?_eq_none ?_
  have small : c.toNat ≤ 57 := by
    simp only [Char.isDigit, Bool.and_eq_true, decide_eq_true_eq] at digit
    exact digit.2
  unfold Surrogate.base
  omega

theorem areWhole_hexDigits (count value : Nat) : AreWhole (hexDigits count value) := by
  intro c listed
  obtain ⟨place, -, rfl⟩ := List.mem_map.mp listed
  have digits : ∀ digit < 16, Surrogate.half? (hexDigit digit) = none := by decide
  exact digits _ (Nat.mod_lt _ (by decide))

theorem areWhole_numericEscape (code : Nat) : AreWhole (numericEscape code) := by
  have escape {letter : Char} (whole : Surrogate.half? letter = none) (count : Nat) :
      AreWhole ('\\' :: letter :: hexDigits count code) :=
    areWhole_cons.mpr ⟨by decide, areWhole_cons.mpr ⟨whole, areWhole_hexDigits count code⟩⟩
  unfold numericEscape
  split
  · exact escape (by decide) 2
  · split
    · exact escape (by decide) 4
    · exact escape (by decide) 8

end WorkflowEngine.Text

namespace WorkflowEngine.Decimal

open Text

@[simp] theorem areWhole_digitChars (value : Nat) : AreWhole (digitChars value) := by
  intro c listed
  rw [digitChars, Nat.toList_repr] at listed
  exact half?_of_isDigit (Nat.isDigit_of_mem_toDigits (by decide) (by decide) listed)

@[simp] theorem areWhole_zeros (count : Nat) : AreWhole (List.replicate count '0') := by
  intro c listed
  rw [List.eq_of_mem_replicate listed]
  decide

theorem areWhole_padZeros {width : Nat} {chars : List Char} (whole : AreWhole chars) :
    AreWhole (padZeros width chars) :=
  areWhole_append.mpr ⟨areWhole_zeros _, whole⟩

theorem areWhole_withPoint (places value : Nat) : AreWhole (withPoint places value) := by
  have padded : AreWhole (padZeros (places + 1) (digitChars value)) := areWhole_padZeros (areWhole_digitChars value)
  unfold withPoint
  dsimp only
  split
  · exact padded
  · refine areWhole_append.mpr ⟨padded.mono (List.take_subset _ _), areWhole_cons.mpr ⟨by decide, ?_⟩⟩
    exact padded.mono (List.drop_subset _ _)

theorem areWhole_positional (s : Scientific) : AreWhole (positional s) := by
  unfold positional
  split
  · exact areWhole_append.mpr ⟨areWhole_digitChars _, areWhole_zeros _⟩
  · exact areWhole_withPoint _ _

theorem areWhole_exponentChars (exponent : Int) : AreWhole (exponentChars exponent) := by
  refine areWhole_cons.mpr ⟨?_, areWhole_padZeros (areWhole_digitChars _)⟩
  split <;> decide

theorem areWhole_exponential (s : Scientific) : AreWhole (exponential s) := by
  have digits := areWhole_digitChars s.digits
  unfold exponential
  dsimp only
  refine areWhole_append.mpr ⟨?_, areWhole_cons.mpr ⟨by decide, areWhole_exponentChars _⟩⟩
  split
  case h_1 first found => rwa [found] at digits
  case h_2 first rest _ found =>
    rw [found, areWhole_cons] at digits
    exact areWhole_cons.mpr ⟨digits.1, areWhole_cons.mpr ⟨by decide, digits.2⟩⟩
  case h_3 => exact areWhole_nil

theorem areWhole_withSign {negative : Bool} {chars : List Char} (whole : AreWhole chars) :
    AreWhole (withSign negative chars) := by
  unfold withSign
  split
  · exact areWhole_cons.mpr ⟨by decide, whole⟩
  · exact whole

theorem areWhole_magnitudeChars (d : Dyadic) : AreWhole (magnitudeChars d) := by
  unfold magnitudeChars withPlace
  dsimp only
  split
  · split
    · exact areWhole_positional _
    · exact areWhole_append.mpr ⟨areWhole_positional _, by decide⟩
  · exact areWhole_exponential _

theorem areWhole_specialChars (x : Float) : AreWhole (specialChars x) := by
  unfold specialChars
  split
  · decide
  · exact areWhole_withSign (by decide)

/-- The text of a double is whole. -/
theorem isWhole_floatText (x : Float) : IsWhole (floatText x) := by
  unfold floatText
  split
  · exact isWhole_ofList.mpr (areWhole_specialChars x)
  · exact isWhole_ofList.mpr (areWhole_withSign (areWhole_magnitudeChars _))

/-- The text of an integer is whole. -/
theorem isWhole_intText (i : Int) : IsWhole (intText i) :=
  isWhole_ofList.mpr (areWhole_withSign (areWhole_digitChars _))

end WorkflowEngine.Decimal

namespace WorkflowEngine.Text

/-- A whole text is whole between quotes. -/
theorem isWhole_quoted {s : String} (whole : IsWhole s) : IsWhole (quoted s) := by
  have mark : Surrogate.half? (quoteFor s.toList) = none := by
    unfold quoteFor
    split <;> decide
  have inner (c : Char) (listed : c ∈ s.toList) : AreWhole (quoteChar (quoteFor s.toList) c) := by
    unfold quoteChar
    split
    · exact areWhole_cons.mpr ⟨by decide, areWhole_cons.mpr ⟨whole c listed, areWhole_nil⟩⟩
    split
    · decide
    split
    · decide
    split
    · decide
    split
    · exact areWhole_cons.mpr ⟨whole c listed, areWhole_nil⟩
    · exact areWhole_numericEscape _
  refine isWhole_ofList.mpr (areWhole_cons.mpr ⟨mark, areWhole_append.mpr ⟨.flatMap inner, ?_⟩⟩)
  exact areWhole_cons.mpr ⟨mark, areWhole_nil⟩

end WorkflowEngine.Text
