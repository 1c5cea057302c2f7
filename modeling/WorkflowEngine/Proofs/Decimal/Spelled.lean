import Mathlib
import WorkflowEngine.Number.Basic

/-!
# Numbers spelled with digits alone

A text of digits spells a number in positional notation, whatever scripts its digits are of.  It spells none if it has
a digit that positional notation does not use, and a text of too many digits is not read either.
-/

namespace WorkflowEngine

/-! ## Digits among the characters -/

namespace Text.Unicode

namespace Ranges

/-- Some interval holds the code point, wherever in the table it stands. -/
def Holds (table : Ranges) (code : Nat) : Prop :=
  ∃ range ∈ table, range.1 ≤ code ∧ code ≤ range.2

theorem mem_of_search {table : Ranges} {code fuel low high : Nat} {range : Nat × Nat}
    (found : search table code fuel low high = some range) : range ∈ table := by
  induction fuel generalizing low high with
  | zero => cases found
  | succ fuel ih =>
      simp only [search] at found
      split at found
      · split at found
        · cases found
        · rename_i here
          split at found
          · exact ih found
          · split at found
            · exact ih found
            · cases found
              exact Array.mem_of_getElem? here
      · cases found

theorem holds_of_search {table : Ranges} {code fuel low high : Nat} {range : Nat × Nat}
    (found : search table code fuel low high = some range) : table.Holds code :=
  ⟨range, mem_of_search found, search_bounds found⟩

theorem holds_of_covers {table : Ranges} {code : Nat} (covered : table.covers code = true) : table.Holds code := by
  obtain ⟨range, found⟩ := Option.isSome_iff_exists.mp covered
  exact holds_of_search found

/-- No code point lies in intervals of both tables. -/
def AreApart (table other : Ranges) : Prop :=
  ∀ range ∈ table, ∀ range' ∈ other, range.2 < range'.1 ∨ range'.2 < range.1

instance (table other : Ranges) : Decidable (AreApart table other) :=
  inferInstanceAs (Decidable (∀ range ∈ table, ∀ range' ∈ other, _))

theorem AreApart.not_holds {table other : Ranges} {code : Nat} (apart : AreApart table other)
    (held : table.Holds code) : ¬ other.Holds code := by
  obtain ⟨range, listed, above, below⟩ := held
  rintro ⟨range', listed', above', below'⟩
  rcases apart range listed range' listed' with before | behind
  · omega
  · omega

end Ranges

variable {c : Char} {value : Nat}

theorem holds_of_digitValue? (digit : digitValue? c = some value) : decimalRanges.Holds c.toNat := by
  unfold digitValue? at digit
  split at digit
  · split at digit
    · rename_i between
      refine ⟨(0x30, 0x39), Array.mem_of_getElem? (i := 0) rfl, ?_, ?_⟩
      · exact between.1
      · exact between.2
    · cases digit
  · obtain ⟨start, found, -⟩ := Option.map_eq_some_iff.mp digit
    obtain ⟨range, found, -⟩ := Option.map_eq_some_iff.mp found
    exact Ranges.holds_of_search found

theorem digitValue?_lt (digit : digitValue? c = some value) : value < 10 := by
  unfold digitValue? at digit
  split at digit
  · split at digit
    · rename_i between
      cases digit
      have below : c.toNat ≤ 57 := between.2
      omega
    · cases digit
  · obtain ⟨start, -, same⟩ := Option.map_eq_some_iff.mp digit
    omega

theorem holds_of_isDigit (digit : isDigit c = true) :
    decimalRanges.Holds c.toNat ∨ otherDigitRanges.Holds c.toNat := by
  rcases Bool.or_eq_true_iff.mp digit with decimal | other
  · obtain ⟨value, digit⟩ := Option.isSome_iff_exists.mp decimal
    exact .inl (holds_of_digitValue? digit)
  · exact .inr (Ranges.holds_of_covers other)

theorem isBlank_of_isDigit (digit : isDigit c = true) : isBlank c = false := by
  rw [Bool.eq_false_iff]
  intro blank
  have held : blankRanges.Holds c.toNat := Ranges.holds_of_covers blank
  have apart : blankRanges.AreApart decimalRanges := by decide
  have apart' : blankRanges.AreApart otherDigitRanges := by decide
  rcases holds_of_isDigit digit with decimal | other
  · exact apart.not_holds held decimal
  · exact apart'.not_holds held other

/-- A digit that positional notation does not use is no basic character. -/
theorem large_of_isDigit (digit : isDigit c = true) (odd : digitValue? c = none) : 128 ≤ c.toNat := by
  rcases Bool.or_eq_true_iff.mp digit with decimal | other
  · rw [isDecimal, odd] at decimal
    cases decimal
  · obtain ⟨range, listed, above, -⟩ := Ranges.holds_of_covers other
    have large : ∀ range ∈ otherDigitRanges, 128 ≤ range.1 := by decide
    exact (large range listed).trans above

end Text.Unicode

/-! ## Readers of digits -/

namespace Decimal

open Text.Unicode (digitValue? isDigit isBlank)

variable {c : Char} {chars : List Char}

/-- The value of digits in positional notation; none if there are no digits, or one that has no place in it. -/
def valueOf? (chars : List Char) : Option Nat :=
  if chars = [] then none
  else (chars.mapM digitValue?).map fun digits => Nat.ofDigits 10 digits.reverse

/-- Only digits have a value in positional notation. -/
theorem isDigit_of_valueOf? {value : Nat} (valued : valueOf? chars = some value) : ∀ c ∈ chars, isDigit c = true := by
  rw [valueOf?] at valued
  split at valued
  · cases valued
  · obtain ⟨digits, found, -⟩ := Option.map_eq_some_iff.mp valued
    clear * - found
    induction chars generalizing digits with
    | nil => simp
    | cons c rest ih =>
        rw [List.mapM_cons, Option.bind_eq_bind, Option.bind_eq_some_iff] at found
        obtain ⟨digit, here, found⟩ := found
        obtain ⟨digits, there, -⟩ := Option.bind_eq_some_iff.mp found
        rw [List.forall_mem_cons, isDigit, Text.Unicode.isDecimal, here]
        exact ⟨rfl, ih digits there⟩

theorem plainDigit_of_digit {value : Nat} (digit : digitValue? c = some value) :
    plainDigit c = Char.ofNat (48 + value) := by
  rw [plainDigit, digit]

theorem plainDigit_of_other (odd : digitValue? c = none) : plainDigit c = c := by
  rw [plainDigit, odd]

/-- What holds of the ten plain digits and of all characters that are not basic holds of every plain digit. -/
theorem plainDigit_induction {P : Char → Prop} (plain : ∀ value < 10, P (Char.ofNat (48 + value)))
    (large : ∀ c : Char, 128 ≤ c.toNat → P c) (digit : isDigit c = true) : P (plainDigit c) := by
  cases found : digitValue? c with
  | some value =>
      rw [plainDigit_of_digit found]
      exact plain value (Text.Unicode.digitValue?_lt found)
  | none =>
      rw [plainDigit_of_other found]
      exact large c (Text.Unicode.large_of_isDigit digit found)

theorem ne_of_large {c d : Char} (large : 128 ≤ c.toNat) (basic : d.toNat < 128) : c ≠ d := by
  rintro rfl
  omega

theorem digitInBase?_plainDigit (digit : isDigit c = true) : digitInBase? 10 (plainDigit c) = digitValue? c := by
  cases found : digitValue? c with
  | some value =>
      have each : ∀ value < 10, digitInBase? 10 (Char.ofNat (48 + value)) = some value := by decide
      rw [plainDigit_of_digit found]
      exact each value (Text.Unicode.digitValue?_lt found)
  | none =>
      have large : 128 ≤ c.toNat := Text.Unicode.large_of_isDigit digit found
      have above (d : Char) (basic : d.toNat < 128) : ¬ c ≤ d := by
        intro below
        have : c.toNat ≤ d.toNat := below
        omega
      rw [plainDigit_of_other found, digitInBase?, if_neg fun between => above '9' (by decide) between.2,
        if_neg fun between => above 'z' (by decide) between.2, if_neg fun between => above 'Z' (by decide) between.2]
      rfl

theorem plainDigit_ne_underscore (digit : isDigit c = true) : plainDigit c ≠ '_' :=
  plainDigit_induction (by decide) (fun _ large => ne_of_large large (by decide)) digit

theorem plainDigit_ne_minus (digit : isDigit c = true) : plainDigit c ≠ '-' :=
  plainDigit_induction (by decide) (fun _ large => ne_of_large large (by decide)) digit

theorem plainDigit_ne_plus (digit : isDigit c = true) : plainDigit c ≠ '+' :=
  plainDigit_induction (by decide) (fun _ large => ne_of_large large (by decide)) digit

theorem baseOfLetter?_plainDigit (digit : isDigit c = true) : baseOfLetter? (plainDigit c) = none := by
  have odd (c : Char) (large : 128 ≤ c.toNat) : baseOfLetter? c = none := by
    unfold baseOfLetter?
    split
    case h_7 => rfl
    all_goals exact absurd large (by decide)
  exact plainDigit_induction (P := fun c => baseOfLetter? c = none) (by decide) odd digit

/-- Digits of any scripts are read by their values, and not at all if one of them has none. -/
theorem readDigits_plainDigit (digits : ∀ c ∈ chars, isDigit c = true) (value : Nat) :
    readDigits 10 value false (chars.map plainDigit) =
      (chars.mapM digitValue?).map fun found => found.foldl (fun value digit => value * 10 + digit) value := by
  induction chars generalizing value with
  | nil => rfl
  | cons c rest ih =>
      rw [List.forall_mem_cons] at digits
      rw [List.map_cons, readDigits, digitInBase?_plainDigit digits.1, List.mapM_cons]
      · cases found : digitValue? c with
        | none => rfl
        | some digit =>
            dsimp only
            rw [ih digits.2]
            cases rest.mapM digitValue? with
            | none => rfl
            | some found => rfl
      · exact plainDigit_ne_underscore digits.1

theorem foldl_eq_ofDigits (digits : List Nat) :
    digits.foldl (fun value digit => value * 10 + digit) 0 = Nat.ofDigits 10 digits.reverse := by
  rw [Nat.ofDigits_eq_foldr, List.foldr_reverse]
  congr
  funext value digit
  exact (Nat.add_comm _ _).trans (by rw [Nat.mul_comm]; rfl)

/-- There is nothing to drop or to take off in front of digits or behind them. -/
theorem numeralChars_of_digits {text : String} (digits : ∀ c ∈ text.toList, isDigit c = true) :
    numeralChars text = text.toList.map plainDigit := by
  have kept {chars : List Char} (digits : ∀ c ∈ chars, isDigit c = true) : chars.dropWhile isNumericBlank = chars := by
    cases chars with
    | nil => rfl
    | cons c rest =>
        have unblank : isNumericBlank c = false := by
          rw [isNumericBlank, Text.Unicode.isBlank_of_isDigit (digits c List.mem_cons_self), Bool.false_and]
        exact List.dropWhile_cons_of_neg (by rw [unblank]; exact Bool.false_ne_true)
  rw [numeralChars, kept digits, kept fun c listed => digits c (List.mem_reverse.mp listed), List.reverse_reverse]

theorem takeSign_of_digits (digits : ∀ c ∈ chars, isDigit c = true) :
    takeSign (chars.map plainDigit) = (false, chars.map plainDigit) := by
  cases chars with
  | nil => rfl
  | cons c rest =>
      have digit := digits c List.mem_cons_self
      rw [List.map_cons, takeSign]
      · intro behind same
        exact plainDigit_ne_minus digit (List.cons.inj same).1
      · intro behind same
        exact plainDigit_ne_plus digit (List.cons.inj same).1

theorem dropBaseMark_of_digits (digits : ∀ c ∈ chars, isDigit c = true) :
    dropBaseMark 10 (chars.map plainDigit) = (10, false, chars.map plainDigit) := by
  unfold dropBaseMark
  split
  · rename_i letter rest same
    have listed : letter ∈ chars.map plainDigit := by
      rw [same]
      exact List.mem_cons_of_mem _ List.mem_cons_self
    obtain ⟨c, member, rfl⟩ := List.mem_map.mp listed
    rw [baseOfLetter?_plainDigit (digits c member), same]
  · rfl

/-- The number that a text of digits spells. -/
theorem readInt?_of_digits {text : String} (digits : ∀ c ∈ text.toList, isDigit c = true) :
    readInt? 10 text = (valueOf? text.toList).map Int.ofNat := by
  rw [readInt?, numeralChars_of_digits digits]
  dsimp only
  rw [takeSign_of_digits digits]
  dsimp only
  rw [dropBaseMark_of_digits digits]
  dsimp only
  cases chars : text.toList with
  | nil => rfl
  | cons c rest =>
      rw [chars] at digits
      have read := readDigits_plainDigit digits 0
      rw [List.map_cons] at read ⊢
      dsimp only
      rw [if_neg (by rw [beq_iff_eq]; exact plainDigit_ne_underscore (digits c List.mem_cons_self)),
        if_neg (by decide), read, valueOf?, if_neg (List.cons_ne_nil c rest)]
      cases (c :: rest).mapM digitValue? with
      | none => rfl
      | some found => exact congrArg (fun value : Nat => some (Int.ofNat value)) (foldl_eq_ofDigits found)

theorem overlongDigits?_of_digits {text : String} (digits : ∀ c ∈ text.toList, isDigit c = true) :
    overlongDigits? text = if digitLimit < text.length then some text.length else none := by
  have counted : countDigits (text.toList.map plainDigit) = text.length := by
    rw [countDigits, List.filter_eq_self.mpr, List.length_map, String.length_toList]
    intro d listed
    obtain ⟨c, member, rfl⟩ := List.mem_map.mp listed
    exact bne_iff_ne.mpr (plainDigit_ne_underscore (digits c member))
  rw [overlongDigits?, numeralChars_of_digits digits, takeSign_of_digits digits]
  dsimp only
  rw [counted]

end Decimal

end WorkflowEngine
