import WorkflowEngine.Json.Writer
import WorkflowEngine.Proofs.Text.Whole

/-!
# Data that can be sent

Data can be sent if its texts are whole, its numbers are finite and not too long, and its keys are texts.  Every
document is of this kind, unless it spells half of a surrogate pair, an infinity or the missing number.
`writeStrict_of_isSendable` says that such data is written, and `IsSendable.isWhole_text` that its text is whole.
-/

namespace WorkflowEngine

open Text

namespace Data

/-- Data that an answer can hold. -/
inductive IsSendable : Data → Prop where
  | null : IsSendable .null
  | bool (b : Bool) : IsSendable (.bool b)
  | int {i : Int} (short : Decimal.digitCount i.natAbs ≤ Decimal.digitLimit) : IsSendable (.int i)
  | float {x : Float} (finite : x.isFinite = true) : IsSendable (.float x)
  | str {s : String} (whole : IsWhole s) : IsSendable (.str s)
  | list {items : List Data} (each : ∀ item ∈ items, IsSendable item) : IsSendable (.list items)
  | dict {entries : List (Data × Data)} (keys : ∀ e ∈ entries, ∃ s, e.1 = .str s ∧ IsWhole s)
      (values : ∀ e ∈ entries, IsSendable e.2) : IsSendable (.dict entries)

/-- Fields with whole names can be sent if their values can. -/
theorem isSendable_ofFields {fields : List (String × Data)} (each : ∀ f ∈ fields, IsWhole f.1 ∧ f.2.IsSendable) :
    (ofFields fields).IsSendable := by
  refine .dict (List.forall_mem_map.mpr fun f listed => ?_) (List.forall_mem_map.mpr fun f listed => ?_)
  · exact ⟨f.1, rfl, (each f listed).1⟩
  · exact (each f listed).2

end Data

namespace Json

open Data

theorem areWhole_escapeControl {c : Char} (whole : Surrogate.half? c = none) : AreWhole (escapeControl c) := by
  unfold escapeControl
  split
  · exact areWhole_cons.mpr ⟨whole, areWhole_nil⟩
  · have unit (code : Nat) : AreWhole (unitEscape code) :=
      areWhole_cons.mpr ⟨by decide, areWhole_cons.mpr ⟨by decide, areWhole_hexDigits 4 code⟩⟩
    unfold escapeChar
    dsimp only
    repeat' split
    all_goals first
      | decide
      | exact areWhole_cons.mpr ⟨whole, areWhole_nil⟩
      | exact unit _
      | exact areWhole_append.mpr ⟨unit _, unit _⟩

/-- A whole text is written as one. -/
theorem isWhole_writeStringIn {s : String} (whole : IsWhole s) : IsWhole (writeStringIn strictStyle s) := by
  have inner : AreWhole (s.toList.flatMap escapeControl) :=
    .flatMap fun c listed => areWhole_escapeControl (whole c listed)
  refine isWhole_ofList.mpr (areWhole_cons.mpr ⟨by decide, areWhole_append.mpr ⟨inner, by decide⟩⟩)

theorem isWhole_writeFloat (x : Float) : IsWhole (writeFloat x) := by
  unfold writeFloat
  split
  · decide
  · split
    · split <;> decide
    · exact Decimal.isWhole_floatText x

/-- Items are written if each of them is. -/
theorem writeItems_isWhole {done : List String} {items : List Data} (before : ∀ text ∈ done, IsWhole text)
    (each : ∀ item ∈ items, ∃ text, writeIn strictStyle item = .ok text ∧ IsWhole text) :
    ∃ texts, writeItems strictStyle done items = .ok texts ∧ ∀ text ∈ texts, IsWhole text := by
  induction items generalizing done with
  | nil => exact ⟨done.reverse, by rw [writeItems], fun text listed => before text (List.mem_reverse.mp listed)⟩
  | cons item rest ih =>
      obtain ⟨text, written, whole⟩ := each item List.mem_cons_self
      rw [writeItems, written]
      have behind := fun item listed => each item (List.mem_cons_of_mem _ listed)
      exact ih (List.forall_mem_cons.mpr ⟨whole, before⟩) behind

/-- Entries with texts for keys are written if each of their values is. -/
theorem writeEntries_isWhole {done : List String} {entries : List (Data × Data)} (before : ∀ text ∈ done, IsWhole text)
    (keys : ∀ e ∈ entries, ∃ s, e.1 = .str s ∧ IsWhole s)
    (values : ∀ e ∈ entries, ∃ text, writeIn strictStyle e.2 = .ok text ∧ IsWhole text) :
    ∃ texts, writeEntries strictStyle done entries = .ok texts ∧ ∀ text ∈ texts, IsWhole text := by
  induction entries generalizing done with
  | nil => exact ⟨done.reverse, by rw [writeEntries], fun text listed => before text (List.mem_reverse.mp listed)⟩
  | cons e rest ih =>
      obtain ⟨key, value⟩ := e
      obtain ⟨s, rfl, named⟩ := keys (key, value) List.mem_cons_self
      obtain ⟨text, written, whole⟩ := values _ List.mem_cons_self
      rw [writeEntries, keyText, written]
      refine ih ?_ (fun e listed => keys e (List.mem_cons_of_mem _ listed))
        fun e listed => values e (List.mem_cons_of_mem _ listed)
      refine List.forall_mem_cons.mpr ⟨?_, before⟩
      exact ((isWhole_writeStringIn named).append (by decide)).append whole

/-- Data that can be sent is written as a whole text. -/
theorem writeIn_of_isSendable {d : Data} (sendable : d.IsSendable) :
    ∃ text, writeIn strictStyle d = .ok text ∧ IsWhole text := by
  induction sendable with
  | null => exact ⟨"null", by rw [writeIn], by decide⟩
  | bool b => exact ⟨_, by rw [writeIn], by cases b <;> decide⟩
  | @int i short =>
      refine ⟨Decimal.intText i, ?_, Decimal.isWhole_intText i⟩
      rw [writeIn, writeInt, if_neg (Nat.not_lt.mpr short)]
  | @float x finite =>
      refine ⟨writeFloat x, ?_, isWhole_writeFloat x⟩
      rw [writeIn, writeFloatIn, finite]
      rfl
  | str whole => exact ⟨_, by rw [writeIn], isWhole_writeStringIn whole⟩
  | list each ih =>
      obtain ⟨texts, written, whole⟩ := writeItems_isWhole (List.forall_mem_nil _) ih
      refine ⟨_, by rw [writeIn, written], ?_⟩
      exact (IsWhole.append (by decide) (isWhole_intercalate (by decide) whole)).append (by decide)
  | dict keys values ih =>
      obtain ⟨texts, written, whole⟩ := writeEntries_isWhole (List.forall_mem_nil _) keys ih
      refine ⟨_, by rw [writeIn, written], ?_⟩
      exact (IsWhole.append (by decide) (isWhole_intercalate (by decide) whole)).append (by decide)

/-- Data that can be sent makes a document. -/
theorem writeStrict_of_isSendable {d : Data} (sendable : d.IsSendable) : ∃ text, writeStrict d = .ok text := by
  obtain ⟨text, written, whole⟩ := writeIn_of_isSendable sendable
  exact ⟨text, by simp only [writeStrict, written, encodingFault?_eq_none whole]⟩

end Json

namespace Data

theorem sourceItems_isWhole (path : List Kind) {done : List String} {items : List Data}
    (before : ∀ text ∈ done, IsWhole text) (each : ∀ item ∈ items, ∀ path, IsWhole (item.sourceIn path)) :
    ∀ text ∈ sourceItems path done items, IsWhole text := by
  induction items generalizing done with
  | nil =>
      rw [sourceItems]
      exact fun text listed => before text (List.mem_reverse.mp listed)
  | cons item rest ih =>
      rw [sourceItems]
      refine ih ?_ fun item listed => each item (List.mem_cons_of_mem _ listed)
      exact List.forall_mem_cons.mpr ⟨each item List.mem_cons_self path, before⟩

theorem sourceEntries_isWhole (path : List Kind) {done : List String} {entries : List (Data × Data)}
    (before : ∀ text ∈ done, IsWhole text) (keys : ∀ e ∈ entries, ∃ s, e.1 = .str s ∧ IsWhole s)
    (values : ∀ e ∈ entries, ∀ path, IsWhole (e.2.sourceIn path)) :
    ∀ text ∈ sourceEntries path done entries, IsWhole text := by
  induction entries generalizing done with
  | nil =>
      rw [sourceEntries]
      exact fun text listed => before text (List.mem_reverse.mp listed)
  | cons e rest ih =>
      obtain ⟨key, value⟩ := e
      obtain ⟨s, rfl, named⟩ := keys (key, value) List.mem_cons_self
      rw [sourceEntries]
      refine ih ?_ (fun e listed => keys e (List.mem_cons_of_mem _ listed))
        fun e listed => values e (List.mem_cons_of_mem _ listed)
      refine List.forall_mem_cons.mpr ⟨?_, before⟩
      exact ((isWhole_quoted named).append (by decide)).append (values _ List.mem_cons_self path)

theorem IsSendable.isWhole_sourceIn {d : Data} (sendable : d.IsSendable) (path : List Kind) :
    IsWhole (d.sourceIn path) := by
  induction sendable generalizing path with
  | null => exact (by decide : IsWhole "None")
  | bool b => exact (by cases b <;> decide : IsWhole (if b then "True" else "False"))
  | int => exact Decimal.isWhole_intText _
  | float => exact Decimal.isWhole_floatText _
  | str whole => exact isWhole_quoted whole
  | list each ih =>
      have whole := sourceItems_isWhole (.list :: path) (List.forall_mem_nil _) ih
      exact (IsWhole.append (by decide) (isWhole_intercalate (by decide) whole)).append (by decide)
  | dict keys values ih =>
      have whole := sourceEntries_isWhole (.dict :: path) (List.forall_mem_nil _) keys ih
      exact (IsWhole.append (by decide) (isWhole_intercalate (by decide) whole)).append (by decide)

/-- Data that can be sent has a whole text. -/
theorem IsSendable.isWhole_text {d : Data} (sendable : d.IsSendable) : IsWhole d.text := by
  have source := sendable.isWhole_sourceIn []
  cases sendable with
  | str whole => exact whole
  | _ => exact source

end Data

end WorkflowEngine
