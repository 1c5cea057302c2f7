import Mathlib
import WorkflowEngine.Condition
import WorkflowEngine.Json.Writer
import WorkflowEngine.Text.Case

/-!
# Texts contained in lists of texts

A condition looks for a text in the JSON text of a list.  An item is found there if its characters are plain.  Other
characters stand in the list as escapes, but are looked for as they are: a text with one that is not visible is never
found, whatever the items of the list.
-/

/-!
## Texts inside JSON

A text that is written between quotes keeps its plain characters and has others replaced by escapes, so that only
visible basic characters are left.  The text of a list holds the plain texts among its items as they are, and no
character from outside the visible ones.
-/

namespace WorkflowEngine

/-! ## Visible characters -/

namespace Text

/-- A basic character that is neither a control nor the last one. -/
def IsVisible (c : Char) : Prop :=
  32 ≤ c.toNat ∧ c.toNat < 127

instance (c : Char) : Decidable (IsVisible c) :=
  inferInstanceAs (Decidable (_ ∧ _))

variable {chars : List Char}

/-- What is found for every code of a visible character holds of all visible characters. -/
theorem IsVisible.induction {P : Char → Prop} (each : ∀ code < 127, 32 ≤ code → P (Char.ofNat code)) {c : Char}
    (visible : IsVisible c) : P c := by
  have found := each c.toNat visible.2 visible.1
  rwa [Char.ofNat_toNat] at found

theorem IsVisible.lowerOne {c : Char} (visible : IsVisible c) : IsVisible (Unicode.lowerOne c) :=
  IsVisible.induction (P := fun c => IsVisible (Unicode.lowerOne c)) (by decide +kernel) visible

/-- Visible characters have small forms of their own, wherever they stand. -/
theorem lowerFrom_of_isVisible (visible : ∀ c ∈ chars, IsVisible c) (before : Bool) (done : List Char) :
    lowerFrom before done chars = done.reverse ++ chars.map Unicode.lowerOne := by
  induction chars generalizing before done with
  | nil => exact (List.append_nil _).symm
  | cons c rest ih =>
      rw [List.forall_mem_cons] at visible
      have single : lowerChar c = [Unicode.lowerOne c] := by
        have other : c.toNat ≠ 0x130 := by
          have below := visible.1.2
          omega
        rw [lowerChar, if_neg (by rwa [beq_iff_eq])]
      have inner : (c == capitalSigma) = false :=
        IsVisible.induction (P := fun c => (c == capitalSigma) = false) (by decide +kernel) visible.1
      unfold lowerFrom
      rw [inner, ih visible.2, single]
      simp

theorem lowerChars_of_isVisible (visible : ∀ c ∈ chars, IsVisible c) : lowerChars chars = chars.map Unicode.lowerOne :=
  lowerFrom_of_isVisible visible false []

theorem isVisible_lowerChars (visible : ∀ c ∈ chars, IsVisible c) : ∀ c ∈ lowerChars chars, IsVisible c := by
  rw [lowerChars_of_isVisible visible, List.forall_mem_map]
  intro c listed
  exact (visible c listed).lowerOne

theorem isVisible_hexDigits (count value : Nat) : ∀ c ∈ hexDigits count value, IsVisible c := by
  have digit : ∀ value < 16, IsVisible (hexDigit value) := by decide
  rw [hexDigits, List.forall_mem_map]
  intro place _
  exact digit _ (Nat.mod_lt _ (by decide))

end Text

/-! ## Texts between quotes -/

namespace Json

open Text (IsVisible)

/-- A character that stands for itself inside a text. -/
def IsPlain (c : Char) : Prop :=
  IsVisible c ∧ c ≠ '"' ∧ c ≠ '\\'

instance (c : Char) : Decidable (IsPlain c) :=
  inferInstanceAs (Decidable (_ ∧ _))

theorem escapeChar_of_isPlain {c : Char} (plain : IsPlain c) : escapeChar c = [c] := by
  have each (c : Char) (visible : IsVisible c) : c ≠ '"' → c ≠ '\\' → escapeChar c = [c] :=
    IsVisible.induction (P := fun c => c ≠ '"' → c ≠ '\\' → escapeChar c = [c]) (by decide +kernel) visible
  exact each c plain.1 plain.2.1 plain.2.2

theorem isVisible_unitEscape (unit : Nat) : ∀ c ∈ unitEscape unit, IsVisible c := by
  rw [unitEscape, List.forall_mem_cons, List.forall_mem_cons]
  exact ⟨by decide, by decide, Text.isVisible_hexDigits 4 unit⟩

/-- Only visible characters are left of any character. -/
theorem isVisible_escapeChar (c : Char) : ∀ d ∈ escapeChar c, IsVisible d := by
  have pair {d : Char} (visible : IsVisible d) : ∀ e ∈ ['\\', d], IsVisible e :=
    List.forall_mem_cons.mpr ⟨by decide, List.forall_mem_singleton.mpr visible⟩
  have single (between : (decide (32 ≤ c.toNat) && decide (c.toNat < 127)) = true) : ∀ e ∈ [c], IsVisible e := by
    rw [Bool.and_eq_true, decide_eq_true_eq, decide_eq_true_eq] at between
    exact List.forall_mem_singleton.mpr between
  unfold escapeChar
  dsimp only
  repeat' split
  all_goals first
    | exact pair (by decide)
    | exact single ‹_›
    | exact isVisible_unitEscape _
    | exact List.forall_mem_append.mpr ⟨isVisible_unitEscape _, isVisible_unitEscape _⟩

theorem escapeChars_eq (done chars : List Char) :
    escapeChars done chars = done.reverse ++ chars.flatMap escapeChar := by
  induction chars generalizing done with
  | nil => rw [escapeChars, List.flatMap_nil, List.append_nil]
  | cons c rest ih =>
      rw [escapeChars, ih]
      simp

/-- A text between quotes, with escapes inside. -/
def quotedChars (s : String) : List Char :=
  '"' :: (s.toList.flatMap escapeChar ++ ['"'])

theorem toList_writeString (s : String) : (writeString s).toList = quotedChars s := by
  rw [writeString, escapeChars_eq, String.toList_ofList]
  rfl

theorem isVisible_quotedChars (s : String) : ∀ c ∈ quotedChars s, IsVisible c := by
  rw [quotedChars, List.forall_mem_cons, List.forall_mem_append, List.forall_mem_flatMap, List.forall_mem_singleton]
  exact ⟨by decide, fun c _ => isVisible_escapeChar c, by decide⟩

/-- A plain text stands between its quotes as it is. -/
theorem infix_quotedChars {s : String} (plain : ∀ c ∈ s.toList, IsPlain c) : s.toList <:+: quotedChars s := by
  have kept (chars : List Char) (plain : ∀ c ∈ chars, IsPlain c) : chars.flatMap escapeChar = chars := by
    induction chars with
    | nil => rfl
    | cons c rest ih =>
        rw [List.forall_mem_cons] at plain
        rw [List.flatMap_cons, escapeChar_of_isPlain plain.1, ih plain.2]
        rfl
  rw [quotedChars, kept _ plain]
  exact List.infix_append ['"'] s.toList ['"']

/-! ## Lists of texts -/

/-- The text of a list of texts. -/
def listChars (texts : List String) : List Char :=
  '[' :: ([',', ' '].intercalate (texts.map quotedChars) ++ [']'])

theorem writeItems_texts (done texts : List String) :
    writeItems lenientStyle done (texts.map .str) = .ok (done.reverse ++ texts.map writeString) := by
  induction texts generalizing done with
  | nil => rw [List.map_nil, writeItems, List.map_nil, List.append_nil]
  | cons s rest ih =>
      rw [List.map_cons, writeItems, writeIn]
      dsimp only
      rw [ih]
      simp [writeStringIn, lenientStyle]

theorem toList_listText (texts : List String) :
    ("[" ++ ", ".intercalate (texts.map writeString) ++ "]").toList = listChars texts := by
  have quoted : (texts.map writeString).map String.toList = texts.map quotedChars := by
    rw [List.map_map]
    exact List.map_congr_left fun s _ => toList_writeString s
  rw [String.toList_append, String.toList_append, String.toList_intercalate, quoted]
  rfl

/-- Lists and tuples of texts are written alike. -/
theorem plain_of_texts {d : Data} {texts : List String}
    (kind : d = .list (texts.map .str) ∨ d = .tuple (texts.map .str)) :
    ∃ text, d.plain = .ok text ∧ text.toList = listChars texts := by
  refine ⟨_, ?_, toList_listText texts⟩
  rcases kind with rfl | rfl
  · rw [Data.plain, write, writeIn, writeItems_texts]
    rfl
  · rw [Data.plain, write, writeIn, writeItems_texts]
    rfl

theorem infix_intercalate {α : Type} {mark part : List α} {parts : List (List α)} (listed : part ∈ parts) :
    part <:+: mark.intercalate parts := by
  induction parts with
  | nil => cases listed
  | cons first rest ih =>
      cases rest with
      | nil =>
          rw [List.mem_singleton] at listed
          rw [listed, List.intercalate_singleton]
      | cons second rest =>
          rw [List.intercalate_cons_cons]
          rcases List.mem_cons.mp listed with rfl | behind
          · rw [List.append_assoc]
            exact (List.prefix_append _ _).isInfix
          · exact (ih behind).trans (List.suffix_append _ _).isInfix

/-- A plain text among the items stands in the text of the list as it is. -/
theorem infix_listChars {s : String} {texts : List String} (listed : s ∈ texts) (plain : ∀ c ∈ s.toList, IsPlain c) :
    s.toList <:+: listChars texts := by
  have item : quotedChars s <:+: [',', ' '].intercalate (texts.map quotedChars) :=
    infix_intercalate (List.mem_map_of_mem listed)
  exact (infix_quotedChars plain).trans (item.trans (List.infix_append ['['] _ [']']))

theorem isVisible_intercalate {mark : List Char} {parts : List (List Char)} (visible : ∀ c ∈ mark, IsVisible c)
    (each : ∀ part ∈ parts, ∀ c ∈ part, IsVisible c) : ∀ c ∈ mark.intercalate parts, IsVisible c := by
  induction parts with
  | nil => exact List.forall_mem_nil _
  | cons first rest ih =>
      rw [List.forall_mem_cons] at each
      cases rest with
      | nil =>
          rw [List.intercalate_singleton]
          exact each.1
      | cons second rest =>
          rw [List.intercalate_cons_cons, List.forall_mem_append, List.forall_mem_append]
          exact ⟨⟨each.1, visible⟩, ih each.2⟩

theorem isVisible_listChars (texts : List String) : ∀ c ∈ listChars texts, IsVisible c := by
  have items : ∀ c ∈ [',', ' '].intercalate (texts.map quotedChars), IsVisible c := by
    have mark : ∀ c ∈ [',', ' '], IsVisible c :=
      List.forall_mem_cons.mpr ⟨by decide, List.forall_mem_singleton.mpr (by decide)⟩
    refine isVisible_intercalate mark ?_
    rw [List.forall_mem_map]
    intro s _
    exact isVisible_quotedChars s
  rw [listChars, List.forall_mem_cons, List.forall_mem_append]
  exact ⟨by decide, items, List.forall_mem_singleton.mpr (by decide)⟩

end Json

end WorkflowEngine

/-! ## Texts contained in lists of texts -/

namespace WorkflowEngine.Condition

open Text (IsVisible lowerChars)

variable {part whole : List Char}

theorem occursIn_iff : occursIn part whole = true ↔ part <:+: whole := by
  induction whole with
  | nil => rw [occursIn, List.isEmpty_iff, List.infix_nil]
  | cons c rest ih => rw [occursIn, Bool.or_eq_true, List.isPrefixOf_iff_prefix, ih, List.infix_cons_iff]

/-- The characters as they are compared. -/
def inCase (caseSensitive : Bool) (chars : List Char) : List Char :=
  if caseSensitive then chars else lowerChars chars

theorem containsExpected_of_plain {c : Condition} {value : Data} {text sought : String} (shown : value.plain = .ok text)
    (shown' : c.value.plain = .ok sought) : c.containsExpected value =
      .ok (occursIn (inCase c.caseSensitive sought.toList) (inCase c.caseSensitive text.toList)) := by
  rw [containsExpected, shown, shown']
  cases c.caseSensitive with
  | true => rfl
  | false =>
      change Except.ok (occursIn (Text.lower sought).toList (Text.lower text).toList) = _
      rw [Text.lower, Text.lower, String.toList_ofList, String.toList_ofList]
      rfl

/-- Visible characters that stand in others do so in either case. -/
theorem infix_inCase (caseSensitive : Bool) (occurs : part <:+: whole) (visible : ∀ c ∈ whole, IsVisible c) :
    inCase caseSensitive part <:+: inCase caseSensitive whole := by
  cases caseSensitive with
  | true => exact occurs
  | false =>
      have visible' : ∀ c ∈ part, IsVisible c := fun c listed => visible c (occurs.subset listed)
      change lowerChars part <:+: lowerChars whole
      rw [Text.lowerChars_of_isVisible visible, Text.lowerChars_of_isVisible visible']
      exact occurs.map Text.Unicode.lowerOne

theorem isVisible_inCase (caseSensitive : Bool) (visible : ∀ c ∈ whole, IsVisible c) :
    ∀ c ∈ inCase caseSensitive whole, IsVisible c := by
  cases caseSensitive with
  | true => exact visible
  | false => exact Text.isVisible_lowerChars visible

variable {find : String → Except Fault Data} {name s : String} {d : Data} {texts : List String}

/-- A text is looked for in the JSON text of a list or a tuple of texts. -/
theorem holds_contains_texts (found : find name = .ok d)
    (kind : d = .list (texts.map .str) ∨ d = .tuple (texts.map .str)) (caseSensitive : Bool) :
    holds ⟨name, .contains, .str s, caseSensitive⟩ find =
      .ok (occursIn (inCase caseSensitive s.toList) (inCase caseSensitive (Json.listChars texts))) := by
  obtain ⟨text, shown, chars⟩ := Json.plain_of_texts kind
  rw [holds, found, ← chars]
  exact containsExpected_of_plain (c := ⟨name, .contains, .str s, caseSensitive⟩) shown rfl

theorem occursIn_of_isPlain (listed : s ∈ texts) (plain : ∀ c ∈ s.toList, Json.IsPlain c) (caseSensitive : Bool) :
    occursIn (inCase caseSensitive s.toList) (inCase caseSensitive (Json.listChars texts)) = true :=
  occursIn_iff.mpr (infix_inCase caseSensitive (Json.infix_listChars listed plain) (Json.isVisible_listChars texts))

theorem occursIn_of_hidden {caseSensitive : Bool} (hidden : ∃ c ∈ inCase caseSensitive s.toList, ¬ IsVisible c)
    (texts : List String) :
    occursIn (inCase caseSensitive s.toList) (inCase caseSensitive (Json.listChars texts)) = false := by
  obtain ⟨c, sought, hidden⟩ := hidden
  rw [Bool.eq_false_iff]
  intro occurs
  have there := (occursIn_iff.mp occurs).subset sought
  exact hidden (isVisible_inCase caseSensitive (Json.isVisible_listChars texts) c there)

/-- Looking for an item of a list of texts never fails.  It succeeds exactly if the item stands in the JSON text of the
list: always if its characters are plain, and never if one of them is not visible in the case in which it is sought. -/
theorem holds_contains_item (found : find name = .ok d)
    (kind : d = .list (texts.map .str) ∨ d = .tuple (texts.map .str)) (listed : s ∈ texts) (caseSensitive : Bool) :
    ∃ matched : Bool,
      holds ⟨name, .contains, .str s, caseSensitive⟩ find = .ok matched ∧
      (matched = true ↔ inCase caseSensitive s.toList <:+: inCase caseSensitive (Json.listChars texts)) ∧
      ((∀ c ∈ s.toList, Json.IsPlain c) → matched = true) ∧
      ((∃ c ∈ inCase caseSensitive s.toList, ¬ IsVisible c) → matched = false) := by
  refine ⟨_, holds_contains_texts found kind caseSensitive, occursIn_iff, ?_, ?_⟩
  · intro plain
    exact occursIn_of_isPlain listed plain caseSensitive
  · intro hidden
    exact occursIn_of_hidden hidden texts

/-- The second of two plain texts is found in a tuple of both. -/
theorem holds_contains_item_billing :
    let find : String → Except Fault Data :=
      fun name => resolve name (.dict [(.str "tags", .tuple [.str "urgent", .str "to Bill!"])]) (.dict [])
    find "tags" = .ok (.tuple (["urgent", "to Bill!"].map .str)) ∧ "to Bill!" ∈ ["urgent", "to Bill!"] ∧
      (∀ c ∈ "to Bill!".toList, Json.IsPlain c) ∧
      holds ⟨"tags", .contains, .str "to Bill!", false⟩ find = .ok true := by
  intro find
  have found : find "tags" = .ok (.tuple (["urgent", "to Bill!"].map .str)) := rfl
  have listed : "to Bill!" ∈ ["urgent", "to Bill!"] := by simp
  have plain : ∀ c ∈ "to Bill!".toList, Json.IsPlain c := by
    rw [← List.all_iff_forall_prop]
    rfl
  obtain ⟨matched, holds, -, always, -⟩ := holds_contains_item found (.inr rfl) listed false
  rw [always plain] at holds
  exact ⟨found, listed, plain, holds⟩

/-- An accented letter is not found in the list that holds it, whether or not the case of letters counts. -/
theorem contains_misses_accented :
    let find : String → Except Fault Data :=
      fun name => resolve name (.dict [(.str "tags", .list [.str "é"])]) (.dict [])
    ∀ caseSensitive : Bool, holds ⟨"tags", .contains, .str "é", caseSensitive⟩ find = .ok false := by
  intro find caseSensitive
  have found : find "tags" = .ok (.list (["é"].map .str)) := rfl
  have hidden : ∃ c ∈ inCase caseSensitive "é".toList, ¬ IsVisible c := by
    refine ⟨'é', ?_, by decide⟩
    cases caseSensitive
    · decide +kernel
    · decide +kernel
  rw [holds_contains_texts found (.inl rfl), occursIn_of_hidden hidden]

end WorkflowEngine.Condition
