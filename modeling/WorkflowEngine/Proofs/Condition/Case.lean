import Mathlib
import WorkflowEngine.Proofs.Condition.Containment
import WorkflowEngine.Text.Case

/-!
# Conditions that let case go

A condition on texts may leave the case of letters out of account.  Equality then never loses a match, and a text without
open sigmas is still found wherever it was.  A text with an open sigma is lost somewhere: the small form of the sigma is
not the one that it has in company.
-/

/-!
## Small letters in a context

A text that stands in another one is lowered letter by letter there, up to its capital sigmas: whether one of them
closes a word may hang on what stands around the text.  Such a sigma is open.  The small form of a text without open
sigmas stands in that of every text in which it stands itself (`infix_lowerChars`), and a text with an open sigma has
company in which its small form is lost (`exists_lost_of_isOpen`).
-/

namespace WorkflowEngine.Text

/-! ## What stands around a character -/

/-- Whether the nearest counting character behind a text has case, where `before` says so of those in front of it. -/
def caseBehind (before : Bool) (chars : List Char) : Bool :=
  chars.foldl casedAfter before

/-- Whether the nearest counting character from a text on has case, where `follows` says so of those behind it. -/
def caseAhead (follows : Bool) (chars : List Char) : Bool :=
  chars.foldr (fun c ahead => casedAfter ahead c) follows

variable {before follows : Bool} {front back part : List Char} {c : Char}

theorem caseBehind_nil (before : Bool) : caseBehind before [] = before :=
  rfl

theorem caseBehind_cons (before : Bool) (c : Char) (rest : List Char) :
    caseBehind before (c :: rest) = caseBehind (casedAfter before c) rest := by
  simp only [caseBehind, List.foldl_cons]

theorem caseAhead_cons (follows : Bool) (c : Char) (rest : List Char) :
    caseAhead follows (c :: rest) = casedAfter (caseAhead follows rest) c := by
  simp only [caseAhead, List.foldr_cons]

theorem caseAhead_append (follows : Bool) (front back : List Char) :
    caseAhead follows (front ++ back) = caseAhead (caseAhead follows back) front :=
  List.foldr_append

theorem casedAfter_of_isCaseIgnorable (passed : Unicode.isCaseIgnorable c = true) : casedAfter before c = before := by
  rw [casedAfter, if_pos passed]

theorem casedAfter_of_counts (counts : Unicode.isCaseIgnorable c = false) :
    casedAfter before c = Unicode.isCased c := by
  rw [casedAfter, if_neg (Bool.eq_false_iff.mp counts)]

theorem counts_capitalSigma : Unicode.isCaseIgnorable capitalSigma = false := by
  decide +kernel

theorem casedAfter_capitalSigma (before : Bool) : casedAfter before capitalSigma = true := by
  rw [casedAfter_of_counts counts_capitalSigma]
  decide +kernel

theorem caseFollows_eq (chars : List Char) : caseFollows chars = caseAhead false chars := by
  unfold caseFollows
  induction chars with
  | nil => rfl
  | cons c rest ih =>
      rw [List.dropWhile_cons, caseAhead_cons]
      cases passed : Unicode.isCaseIgnorable c with
      | true =>
          rw [casedAfter_of_isCaseIgnorable passed, ← ih]
          simp only [if_true]
      | false =>
          rw [casedAfter_of_counts passed]
          simp only [Bool.false_eq_true, if_false]

/-- What stands in front of a text counts behind it only if the text has no counting character. -/
theorem caseBehind_eq_or (chars : List Char) :
    (∀ c ∈ chars, Unicode.isCaseIgnorable c = true) ∨ ∀ before, caseBehind before chars = caseBehind false chars := by
  induction chars with
  | nil => exact .inl (List.forall_mem_nil _)
  | cons c rest ih =>
      cases passed : Unicode.isCaseIgnorable c with
      | true =>
          rcases ih with all | fixed
          · exact .inl (List.forall_mem_cons.mpr ⟨passed, all⟩)
          · refine .inr fun before => ?_
            rw [caseBehind_cons, caseBehind_cons, fixed, fixed (casedAfter false c)]
      | false =>
          refine .inr fun before => ?_
          rw [caseBehind_cons, caseBehind_cons, casedAfter_of_counts passed, casedAfter_of_counts passed]

theorem caseAhead_eq_or (chars : List Char) :
    (∀ c ∈ chars, Unicode.isCaseIgnorable c = true) ∨ ∀ follows, caseAhead follows chars = caseAhead false chars := by
  induction chars with
  | nil => exact .inl (List.forall_mem_nil _)
  | cons c rest ih =>
      cases passed : Unicode.isCaseIgnorable c with
      | true =>
          rcases ih with all | fixed
          · exact .inl (List.forall_mem_cons.mpr ⟨passed, all⟩)
          · refine .inr fun follows => ?_
            rw [caseAhead_cons, caseAhead_cons, fixed follows]
      | false =>
          refine .inr fun follows => ?_
          rw [caseAhead_cons, caseAhead_cons, casedAfter_of_counts passed, casedAfter_of_counts passed]

/-- Characters that do not count leave it to what stands around them. -/
theorem caseBehind_of_isCaseIgnorable (passed : ∀ c ∈ part, Unicode.isCaseIgnorable c = true) (before : Bool) :
    caseBehind before part = before := by
  induction part with
  | nil => rfl
  | cons c rest ih =>
      obtain ⟨first, others⟩ := List.forall_mem_cons.mp passed
      rw [caseBehind_cons, casedAfter_of_isCaseIgnorable first, ih others]

theorem caseAhead_of_isCaseIgnorable (passed : ∀ c ∈ part, Unicode.isCaseIgnorable c = true) (follows : Bool) :
    caseAhead follows part = follows := by
  induction part with
  | nil => rfl
  | cons c rest ih =>
      obtain ⟨first, others⟩ := List.forall_mem_cons.mp passed
      rw [caseAhead_cons, casedAfter_of_isCaseIgnorable first, ih others]

/-! ## Small forms -/

/-- The small form of a character between others. -/
def smallForm (before follows : Bool) (c : Char) : List Char :=
  if c == capitalSigma then [if before && !follows then closingSigma else innerSigma] else lowerChar c

/-- The small forms of the characters of a text between others. -/
def lowerIn (before follows : Bool) : List Char → List Char
  | [] => []
  | c :: rest => smallForm before (caseAhead follows rest) c ++ lowerIn (casedAfter before c) follows rest

theorem lowerIn_cons (before follows : Bool) (c : Char) (rest : List Char) :
    lowerIn before follows (c :: rest) =
      smallForm before (caseAhead follows rest) c ++ lowerIn (casedAfter before c) follows rest := by
  rw [lowerIn]

theorem lowerFrom_eq (chars : List Char) (before : Bool) (done : List Char) :
    lowerFrom before done chars = done.reverse ++ lowerIn before false chars := by
  induction chars generalizing before done with
  | nil => exact (List.append_nil _).symm
  | cons c rest ih =>
      unfold lowerFrom
      dsimp only
      rw [ih, caseFollows_eq, List.reverse_append, List.reverse_reverse, List.append_assoc, lowerIn_cons, smallForm]

/-- A text by itself has nothing around it. -/
theorem lowerChars_eq (chars : List Char) : lowerChars chars = lowerIn false false chars :=
  lowerFrom_eq chars false []

theorem lowerIn_append (before follows : Bool) (front back : List Char) :
    lowerIn before follows (front ++ back) =
      lowerIn before (caseAhead follows back) front ++ lowerIn (caseBehind before front) follows back := by
  induction front generalizing before with
  | nil => rfl
  | cons c rest ih =>
      rw [List.cons_append, lowerIn_cons, ih, caseAhead_append, lowerIn_cons, caseBehind_cons, List.append_assoc]

/-- A text is lowered inside another one like between what stands around it there. -/
theorem lowerChars_around (front part back : List Char) :
    lowerChars (front ++ part ++ back) =
      lowerIn false (caseAhead false (part ++ back)) front ++
        lowerIn (caseBehind false front) (caseAhead false back) part ++
        lowerIn (caseBehind false (front ++ part)) false back := by
  rw [lowerChars_eq, lowerIn_append, lowerIn_append, caseAhead_append]

theorem beq_capitalSigma_of_isCaseIgnorable (passed : Unicode.isCaseIgnorable c = true) : (c == capitalSigma) = false := by
  refine beq_false_of_ne fun same => ?_
  rw [same, counts_capitalSigma] at passed
  cases passed

/-- Characters that do not count are lowered alike everywhere. -/
theorem lowerIn_of_isCaseIgnorable (passed : ∀ c ∈ part, Unicode.isCaseIgnorable c = true) (before follows : Bool) :
    lowerIn before follows part = part.flatMap lowerChar := by
  induction part generalizing before with
  | nil => rfl
  | cons c rest ih =>
      obtain ⟨first, others⟩ := List.forall_mem_cons.mp passed
      rw [lowerIn_cons, smallForm, beq_capitalSigma_of_isCaseIgnorable first, ih others, List.flatMap_cons]
      simp only [Bool.false_eq_true, if_false]

/-! ## Open sigmas -/

/-- Whether a capital sigma closes a word, between the characters of a text and what stands around them. -/
def closes (before follows : Bool) (front back : List Char) : Bool :=
  caseBehind before front && !caseAhead follows back

theorem lowerIn_split (before follows : Bool) (front back : List Char) :
    lowerIn before follows (front ++ capitalSigma :: back) =
      lowerIn before true front ++ (if closes before follows front back then closingSigma else innerSigma) ::
        lowerIn true follows back := by
  rw [lowerIn_append, caseAhead_cons, casedAfter_capitalSigma, lowerIn_cons, casedAfter_capitalSigma, smallForm, closes]
  simp only [beq_self_eq_true, if_true, List.singleton_append]

/-- Some capital sigma of a text closes a word with a letter in front of the text, but not with one behind it. -/
def IsOpen (chars : List Char) : Prop :=
  ∃ front back, chars = front ++ capitalSigma :: back ∧
    closes true false front back = true ∧ closes false true front back = false

/-- Whether a sigma that is not open closes a word does not hang on what stands around the text. -/
theorem closes_of_not_isOpen (shut : ¬ IsOpen part) (split : part = front ++ capitalSigma :: back)
    (before follows : Bool) : closes before follows front back = closes false false front back := by
  have either : closes true false front back = true → closes false true front back = true := by
    intro may
    by_contra must
    exact shut ⟨front, back, split, may, Bool.eq_false_iff.mpr must⟩
  unfold closes at either ⊢
  rcases caseBehind_eq_or front with passed | fixed
  · rw [caseBehind_of_isCaseIgnorable passed, caseBehind_of_isCaseIgnorable passed] at either ⊢
    rcases caseAhead_eq_or back with passed' | fixed'
    · simp [caseAhead_of_isCaseIgnorable passed'] at either
    · have ends : caseAhead false back = true := by simpa using either
      rw [fixed' follows, ends, Bool.not_true, Bool.and_false, Bool.and_false]
  · rw [fixed before]
    rcases caseAhead_eq_or back with passed' | fixed'
    · rw [caseAhead_of_isCaseIgnorable passed', caseAhead_of_isCaseIgnorable passed'] at either ⊢
      have lone : caseBehind false front = false := by simpa [fixed true] using either
      rw [lone, Bool.false_and, Bool.false_and]
    · rw [fixed' follows]

/-- Between other characters a text is lowered alike if its sigmas close words alike. -/
theorem lowerIn_congr {before' follows' : Bool}
    (alike : ∀ front back, part = front ++ capitalSigma :: back →
      closes before follows front back = closes before' follows' front back) :
    lowerIn before follows part = lowerIn before' follows' part := by
  induction part generalizing before before' with
  | nil => rfl
  | cons c rest ih =>
      have first : smallForm before (caseAhead follows rest) c = smallForm before' (caseAhead follows' rest) c := by
        unfold smallForm
        split
        · rename_i sigma
          have same := alike [] rest (by rw [beq_iff_eq.mp sigma, List.nil_append])
          rw [closes, closes, caseBehind_nil, caseBehind_nil] at same
          rw [same]
        · rfl
      rw [lowerIn_cons, lowerIn_cons, first]
      refine congrArg _ (ih fun front back split => ?_)
      have later := alike (c :: front) back (by rw [split, List.cons_append])
      rwa [closes, closes, caseBehind_cons, caseBehind_cons] at later

/-- The small form of a text stands in that of another one where the text stands there and its sigmas close words like
they do by themselves. -/
theorem infix_lowerChars_of_alike (front back : List Char)
    (alike : ∀ ahead behind, part = ahead ++ capitalSigma :: behind →
      closes (caseBehind false front) (caseAhead false back) ahead behind = closes false false ahead behind) :
    lowerChars part <:+: lowerChars (front ++ part ++ back) := by
  rw [lowerChars_around, lowerIn_congr alike, ← lowerChars_eq]
  exact List.infix_append _ _ _

/-- So it does in every text in which a text without open sigmas stands. -/
theorem infix_lowerChars (shut : ¬ IsOpen part) {whole : List Char} (occurs : part <:+: whole) :
    lowerChars part <:+: lowerChars whole := by
  obtain ⟨front, back, rfl⟩ := occurs
  exact infix_lowerChars_of_alike front back fun ahead behind split => closes_of_not_isOpen shut split _ _

/-! ## Company in which a small form is lost -/

theorem not_infix_of_count_lt {whole : List Char} (fewer : whole.count c < part.count c) : ¬ part <:+: whole :=
  fun occurs => absurd (occurs.sublist.count_le c) (Nat.not_le_of_lt fewer)

/-- A letter that has case and does not count as a sigma. -/
theorem lowerIn_letter (before follows : Bool) : lowerIn before follows ['a'] = ['a'] := by
  cases before <;> cases follows <;> decide +kernel

theorem casedAfter_letter (before : Bool) : casedAfter before 'a' = true := by
  cases before <;> decide +kernel

/-- A letter in front of a text makes a sigma close a word that does not close it by itself. -/
theorem lost_behind_letter (may : closes true false front back = true) (waits : closes false false front back = false) :
    ¬ lowerChars (front ++ capitalSigma :: back) <:+: lowerChars ('a' :: (front ++ capitalSigma :: back)) := by
  have plain : ∀ c ∈ front, Unicode.isCaseIgnorable c = true := by
    rcases caseBehind_eq_or front with passed | fixed
    · exact passed
    · rw [closes, fixed true, ← closes, waits] at may
      cases may
  have whole : lowerChars ('a' :: (front ++ capitalSigma :: back)) =
      'a' :: (front.flatMap lowerChar ++ closingSigma :: lowerIn true false back) := by
    rw [lowerChars_eq, ← List.singleton_append, lowerIn_append, lowerIn_letter, caseBehind_cons, casedAfter_letter,
      caseBehind_nil, lowerIn_split, may, lowerIn_of_isCaseIgnorable plain]
    rfl
  rw [whole, lowerChars_eq, lowerIn_split, waits, lowerIn_of_isCaseIgnorable plain]
  refine not_infix_of_count_lt (c := innerSigma) ?_
  have letter : ('a' == innerSigma) = false := by decide
  have closing : (closingSigma == innerSigma) = false := by decide
  simp [List.count_append, List.count_cons, letter, closing]

/-- A letter behind a text keeps a sigma from closing a word that closes it by itself. -/
theorem lost_before_letter (alone : closes false false front back = true) (waits : closes false true front back = false) :
    ¬ lowerChars (front ++ capitalSigma :: back) <:+: lowerChars (front ++ capitalSigma :: back ++ ['a']) := by
  have plain : ∀ c ∈ back, Unicode.isCaseIgnorable c = true := by
    rcases caseAhead_eq_or back with passed | fixed
    · exact passed
    · rw [closes, fixed true, ← closes, alone] at waits
      cases waits
  have whole : lowerChars (front ++ capitalSigma :: back ++ ['a']) =
      lowerIn false true front ++ innerSigma :: (back.flatMap lowerChar ++ ['a']) := by
    rw [lowerChars_eq, lowerIn_append, caseAhead_cons, casedAfter_letter, lowerIn_letter, lowerIn_split, waits,
      lowerIn_of_isCaseIgnorable plain, List.append_assoc]
    rfl
  rw [whole, lowerChars_eq, lowerIn_split, alone, lowerIn_of_isCaseIgnorable plain]
  refine not_infix_of_count_lt (c := closingSigma) ?_
  have letter : ('a' == closingSigma) = false := by decide
  have inner : (innerSigma == closingSigma) = false := by decide
  simp [List.count_append, List.count_cons, letter, inner]

/-- A text with an open sigma stands in some text in whose small form its own does not stand. -/
theorem exists_lost_of_isOpen (opens : IsOpen part) :
    ∃ whole, part <:+: whole ∧ ¬ lowerChars part <:+: lowerChars whole := by
  obtain ⟨front, back, rfl, may, must⟩ := opens
  cases alone : closes false false front back with
  | false => exact ⟨_, List.infix_cons (List.infix_refl _), lost_behind_letter may alone⟩
  | true => exact ⟨_, (List.prefix_append _ _).isInfix, lost_before_letter alone must⟩

end WorkflowEngine.Text

/-! ## Conditions that let case go -/

namespace WorkflowEngine.Condition

open Text (IsOpen closes capitalSigma caseBehind caseAhead lowerChars)

/-- A match of a text with an expected one is kept where case does not count. -/
def Relaxes (operator : Operator) (value expected : String) : Prop :=
  ∀ (name : String) (find : String → Except Fault Data), find name = .ok (.str value) →
    holds ⟨name, operator, .str expected, true⟩ find = .ok true →
      holds ⟨name, operator, .str expected, false⟩ find = .ok true

theorem relaxes_equals (value expected : String) : Relaxes .equals value expected := by
  intro name find found matched
  have same : value = expected := by
    rw [holds, found] at matched
    exact beq_iff_eq.mp (Except.ok.inj matched)
  rw [holds, found, same]
  exact congrArg Except.ok (beq_self_eq_true (Text.lower expected))

/-- A text contains another one if their characters do, in the case in which they are compared. -/
theorem holds_contains_text {name value : String} {find : String → Except Fault Data} (found : find name = .ok (.str value))
    (expected : String) (caseSensitive : Bool) :
    holds ⟨name, .contains, .str expected, caseSensitive⟩ find =
      .ok (occursIn (inCase caseSensitive expected.toList) (inCase caseSensitive value.toList)) := by
  have shown : (Data.str value).plain = .ok value := rfl
  rw [holds, found]
  exact containsExpected_of_plain (c := ⟨name, .contains, .str expected, caseSensitive⟩) shown rfl

/-- A match is kept if and only if the small form of the one text stands in that of the other. -/
theorem relaxes_contains_iff {value expected : String} : Relaxes .contains value expected ↔
    (expected.toList <:+: value.toList → lowerChars expected.toList <:+: lowerChars value.toList) := by
  constructor
  · intro relaxes occurs
    have kept := relaxes "" (fun _ => .ok (.str value)) rfl
    rw [holds_contains_text rfl, holds_contains_text rfl, Except.ok.injEq, Except.ok.injEq] at kept
    exact occursIn_iff.mp (kept (occursIn_iff.mpr occurs))
  · intro kept name find found matched
    rw [holds_contains_text found, Except.ok.injEq] at matched ⊢
    exact occursIn_iff.mpr (kept (occursIn_iff.mp matched))

/-- Where case does not count, equality of texts loses no match.  A text is found wherever it was found before exactly if
it has no open sigma, one that closes a word or not as a letter stands in front of the text or behind it; and any text
is found where what stands around it makes its sigmas close words like they do in the text by itself. -/
theorem relaxes_unless_open (expected : String) :
    (∀ value, Relaxes .equals value expected) ∧
      ((∀ value, Relaxes .contains value expected) ↔ ¬ IsOpen expected.toList) ∧
      ∀ front back : String,
        (∀ ahead behind, expected.toList = ahead ++ capitalSigma :: behind →
          closes (caseBehind false front.toList) (caseAhead false back.toList) ahead behind =
            closes false false ahead behind) →
        Relaxes .contains (front ++ expected ++ back) expected := by
  refine ⟨fun value => relaxes_equals value expected, ⟨fun relaxes opens => ?_, fun shut value => ?_⟩,
    fun front back alike => ?_⟩
  · obtain ⟨whole, occurs, lost⟩ := Text.exists_lost_of_isOpen opens
    have kept := relaxes_contains_iff.mp (relaxes (String.ofList whole))
    rw [String.toList_ofList] at kept
    exact lost (kept occurs)
  · exact relaxes_contains_iff.mpr fun occurs => Text.infix_lowerChars shut occurs
  · refine relaxes_contains_iff.mpr fun _ => ?_
    rw [String.toList_append, String.toList_append]
    exact Text.infix_lowerChars_of_alike front.toList back.toList alike

/-- A sigma that closes a word by itself is not found in front of a letter once case does not count, and one that does not
is not found behind a letter. -/
theorem contains_misses_sigma :
    let find : String → Except Fault Data :=
      fun name => resolve name (.dict [(.str "x", .str "AΣB"), (.str "y", .str "AΣ")]) (.dict [])
    holds ⟨"x", .contains, .str "AΣ", true⟩ find = .ok true ∧
      holds ⟨"x", .contains, .str "AΣ", false⟩ find = .ok false ∧
      holds ⟨"y", .contains, .str "Σ", true⟩ find = .ok true ∧
      holds ⟨"y", .contains, .str "Σ", false⟩ find = .ok false := by
  intro find
  have found : find "x" = .ok (.str "AΣB") := rfl
  have found' : find "y" = .ok (.str "AΣ") := rfl
  rw [holds_contains_text found, holds_contains_text found, holds_contains_text found', holds_contains_text found']
  simp only [Except.ok.injEq]
  decide +kernel

end WorkflowEngine.Condition
