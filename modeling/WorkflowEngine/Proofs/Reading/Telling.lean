import WorkflowEngine.Proofs.Json.Sendable
import WorkflowEngine.Reading.Container

/-!
# Issues that can be told

An issue can be told if its message and the steps of its path are whole texts.  A reader tells its issues if, for
every document that can be sent, all issues it lists can be told.  Readers of single values do, and a reader of a
container does where the reader of its parts does.
-/

namespace WorkflowEngine

open Text

namespace Cause

/-- The choices between quotes are whole where they are. -/
theorem isWhole_choiceText {choices : List String} (whole : ∀ choice ∈ choices, IsWhole choice) :
    IsWhole (choiceText choices) := by
  have quoted {s : String} (whole : IsWhole s) : IsWhole ("'" ++ s) := .append (by decide) whole
  induction choices using choiceText.induct with
  | case1 => decide
  | case2 only => exact (quoted (whole only List.mem_cons_self)).append (by decide)
  | case3 first last =>
      have front := (quoted (whole first List.mem_cons_self)).append (t := "' or '") (by decide)
      exact (front.append (whole last (by simp))).append (by decide)
  | case4 first rest nonempty several ih =>
      rw [choiceText]
      · have front := (quoted (whole first List.mem_cons_self)).append (t := "', ") (by decide)
        exact front.append (ih fun choice listed => whole choice (List.mem_cons_of_mem _ listed))
      · exact nonempty
      · exact several

/-- The texts that the message for a cause quotes. -/
def quotes : Cause → List String
  | .notRecord name => [name]
  | .notAmong choices => choices
  | .notMember choices => choices
  | .wrongTag shown tags => shown :: tags
  | .stated message => [message]
  | _ => []

/-- The message is whole if what it quotes is. -/
theorem isWhole_message {cause : Cause} (whole : ∀ s ∈ cause.quotes, IsWhole s) : IsWhole cause.message := by
  cases cause with
  | notRecord name => exact .append (by decide) (whole name List.mem_cons_self)
  | notAmong choices => exact .append (by decide) (isWhole_choiceText whole)
  | notMember choices => exact .append (by decide) (isWhole_choiceText whole)
  | wrongTag shown tags =>
      have tag : IsWhole (tagText tags) := by
        refine isWhole_intercalate (by decide) (List.forall_mem_map.mpr fun tag listed => ?_)
        exact (IsWhole.append (by decide) (whole tag (List.mem_cons_of_mem _ listed))).append (by decide)
      exact ((IsWhole.append (by decide) (whole shown List.mem_cons_self)).append (by decide)).append tag
  | stated message => exact .append (by decide) (whole message List.mem_cons_self)
  | _ => decide +kernel

end Cause

/-- The message and the path are whole texts. -/
structure Issue.IsTellable (i : Issue) : Prop where
  message : IsWhole i.cause.message
  path : ∀ step ∈ i.path, IsWhole step

theorem Issue.IsTellable.inside {i : Issue} {step : String} (tellable : i.IsTellable) (whole : IsWhole step) :
    (i.inside step).IsTellable :=
  ⟨tellable.message, List.forall_mem_cons.mpr ⟨whole, tellable.path⟩⟩

namespace Data

variable {entries : List (Data × Data)} {name : String} {d : Data}

/-- The value of a field can be sent if the dictionary can. -/
theorem IsSendable.field? (sendable : (Data.dict entries).IsSendable) (found : Data.field? entries name = some d) :
    d.IsSendable := by
  cases sendable with
  | dict keys values =>
      obtain ⟨e, first, rfl⟩ := Option.map_eq_some_iff.mp found
      exact values e (List.mem_of_find?_eq_some first)

/-- So can the value that stands for a field where it is missing. -/
theorem IsSendable.field?_getD {fallback : Data} (sendable : (Data.dict entries).IsSendable)
    (given : fallback.IsSendable) : ((Data.field? entries name).getD fallback).IsSendable := by
  cases found : Data.field? entries name with
  | none => exact given
  | some d => exact sendable.field? found

/-- One entry more with a whole name. -/
theorem IsSendable.snoc (sendable : (Data.dict entries).IsSendable) (whole : IsWhole name) (given : d.IsSendable) :
    (Data.dict (entries ++ [(.str name, d)])).IsSendable := by
  cases sendable with
  | dict keys values =>
      refine .dict (List.forall_mem_append.mpr ⟨keys, ?_⟩) (List.forall_mem_append.mpr ⟨values, ?_⟩)
      · exact List.forall_mem_singleton.mpr ⟨name, rfl, whole⟩
      · exact List.forall_mem_singleton.mpr given

/-- A part of the entries can be sent if all of them can. -/
theorem IsSendable.entries_mono {others : List (Data × Data)} (sendable : (Data.dict entries).IsSendable)
    (sub : others ⊆ entries) : (Data.dict others).IsSendable := by
  cases sendable with
  | dict keys values => exact .dict (fun e listed => keys e (sub listed)) fun e listed => values e (sub listed)

end Data

namespace Reading

variable {α β : Type}

/-- Every issue that is listed can be told. -/
def IsTellable : Reading α → Prop
  | .refused issues => ∀ i ∈ issues, i.IsTellable
  | _ => True

@[simp] theorem isTellable_ok (a : α) : (Reading.ok a).IsTellable :=
  trivial

@[simp] theorem isTellable_failed (f : Fault) : (Reading.failed f : Reading α).IsTellable :=
  trivial

/-- What refuses a part can be told if the message quotes whole texts. -/
theorem isTellable_refuse {cause : Cause} (whole : ∀ s ∈ cause.quotes, IsWhole s) :
    (refuse cause : Reading α).IsTellable := by
  intro i listed
  obtain rfl := List.mem_singleton.mp listed
  exact ⟨Cause.isWhole_message whole, List.forall_mem_nil _⟩

theorem isTellable_refuse_plain {cause : Cause} (plain : cause.quotes = []) : (refuse cause : Reading α).IsTellable :=
  isTellable_refuse (plain ▸ List.forall_mem_nil _)

theorem isTellable_state {message : String} (whole : IsWhole message) : (state message : Reading α).IsTellable :=
  isTellable_refuse (List.forall_mem_singleton.mpr whole)

theorem IsTellable.map {r : Reading α} (tellable : r.IsTellable) (f : α → β) : (f <$> r).IsTellable := by
  cases r with
  | refused issues => exact tellable
  | _ => trivial

theorem IsTellable.map' {r : Reading α} (tellable : r.IsTellable) (f : α → β) : (r.map f).IsTellable :=
  tellable.map f

theorem IsTellable.inside {r : Reading α} {step : String} (tellable : r.IsTellable) (whole : IsWhole step) :
    (r.inside step).IsTellable := by
  cases r with
  | refused issues =>
      intro i listed
      obtain ⟨inner, found, rfl⟩ := List.mem_map.mp listed
      exact (tellable inner found).inside whole
  | _ => trivial

theorem IsTellable.both {a : Reading α} {b : Unit → Reading β} (first : a.IsTellable) (second : (b ()).IsTellable) :
    (both a b).IsTellable := by
  unfold Reading.both
  cases a with
  | failed f => trivial
  | ok x =>
      dsimp only
      cases found : b () with
      | refused issues => rwa [found] at second
      | _ => trivial
  | refused issues =>
      dsimp only
      cases found : b () with
      | ok y => exact first
      | failed f => trivial
      | refused others =>
          rw [found] at second
          exact List.forall_mem_append.mpr ⟨first, second⟩

theorem IsTellable.seq {f : Reading (α → β)} {r : Reading α} (first : f.IsTellable) (second : r.IsTellable) :
    (f <*> r).IsTellable :=
  (first.both (b := fun _ => r) second).map _

/-- A check tells its issues if what goes on with a value does. -/
theorem IsTellable.check {r : Reading α} {next : α → Reading β} (tellable : r.IsTellable)
    (behind : ∀ a, r = .ok a → (next a).IsTellable) : (r.check next).IsTellable := by
  cases r with
  | ok a => exact behind a rfl
  | refused issues => exact tellable
  | failed f => trivial

/-- Two parts beside each other give what the first makes of the second. -/
theorem seq_eq_ok {f : Reading (α → β)} {r : Reading α} {b : β} (read : (f <*> r) = .ok b) :
    ∃ g a, f = .ok g ∧ r = .ok a ∧ g a = b := by
  change ((Reading.both f fun _ => r).map fun pair => pair.1 pair.2) = .ok b at read
  cases found : Reading.both f fun _ => r with
  | ok pair =>
      obtain ⟨g, a⟩ := pair
      obtain ⟨first, second⟩ := both_eq_ok_iff.mp found
      rw [found] at read
      cases read
      exact ⟨g, a, first, second, rfl⟩
  | refused issues => rw [found] at read; cases read
  | failed f => rw [found] at read; cases read

theorem map_eq_ok {f : α → β} {r : Reading α} {b : β} (read : (f <$> r) = .ok b) : ∃ a, r = .ok a ∧ f a = b := by
  cases r with
  | ok a => cases read; exact ⟨a, rfl, rfl⟩
  | refused issues => cases read
  | failed f => cases read

theorem check_eq_ok {r : Reading α} {next : α → Reading β} {b : β} (read : r.check next = .ok b) :
    ∃ a, r = .ok a ∧ next a = .ok b := by
  cases r with
  | ok a => exact ⟨a, rfl, read⟩
  | refused issues => cases read
  | failed f => cases read

/-- The reader tells all issues of documents that can be sent. -/
def Tells (read : Data → Reading α) : Prop :=
  ∀ d : Data, d.IsSendable → (read d).IsTellable

/-! ## Single values -/

theorem tells_text : Tells text := by
  intro d _
  unfold text
  split
  · trivial
  · split
    · trivial
    · exact isTellable_refuse_plain rfl
  · exact isTellable_refuse_plain rfl

/-- What goes on with the text that spells a value tells its issues if that does. -/
theorem isTellable_spelled {unreadable : Cause} {next : Option String → Reading α} (plain : unreadable.quotes = [])
    (behind : ∀ spelling, (next spelling).IsTellable) (d : Data) :
    ((spelling? unreadable d).check next).IsTellable := by
  refine IsTellable.check ?_ fun spelling _ => behind spelling
  unfold spelling?
  split
  · split
    · trivial
    · exact isTellable_refuse_plain rfl
  · split
    · trivial
    · exact isTellable_refuse_plain plain
  · trivial

theorem isTellable_boolOfInt (i : Int) : (boolOfInt i).IsTellable := by
  unfold boolOfInt
  split
  · trivial
  · split
    · trivial
    · exact isTellable_refuse_plain rfl

theorem isTellable_intOfFloat (x : Float) : (intOfFloat x).IsTellable := by
  unfold intOfFloat
  split
  · exact isTellable_refuse_plain rfl
  · split
    · exact isTellable_refuse_plain rfl
    · split
      · split
        · trivial
        · exact isTellable_refuse_plain rfl
      · exact isTellable_refuse_plain rfl

theorem tells_bool : Tells bool := by
  intro d _
  unfold bool
  split
  · trivial
  · exact isTellable_boolOfInt _
  · split
    · exact isTellable_boolOfInt _
    · exact isTellable_refuse_plain rfl
  · refine isTellable_spelled rfl (fun spelling => ?_) _
    cases spelling with
    | none => exact isTellable_refuse_plain rfl
    | some s =>
        dsimp only
        split
        · trivial
        · split
          · trivial
          · exact isTellable_refuse_plain rfl

theorem isTellable_intOfText (s : String) : (intOfText s).IsTellable := by
  unfold intOfText
  dsimp only
  split
  · split
    · exact isTellable_refuse_plain rfl
    · trivial
  · split
    · trivial
    · exact isTellable_refuse_plain rfl

theorem tells_int : Tells int := by
  intro d _
  unfold int
  split
  · trivial
  · trivial
  · exact isTellable_intOfFloat _
  · exact isTellable_refuse_plain rfl
  · refine isTellable_spelled rfl (fun spelling => ?_) _
    cases spelling with
    | none => exact isTellable_refuse_plain rfl
    | some s => exact isTellable_intOfText s

theorem isTellable_floatOfText (s : String) : (floatOfText s).IsTellable := by
  unfold floatOfText
  split
  · trivial
  · split
    · trivial
    · exact isTellable_refuse_plain rfl

theorem tells_float : Tells float := by
  intro d _
  unfold float
  split
  · trivial
  · trivial
  · trivial
  · split
    · trivial
    · exact isTellable_refuse_plain rfl
  · refine isTellable_spelled rfl (fun spelling => ?_) _
    cases spelling with
    | none => exact isTellable_refuse_plain rfl
    | some s => exact isTellable_floatOfText s

theorem isTellable_oneOf {all : List α} {name : α → String} (whole : ∀ a ∈ all, IsWhole (name a)) (d : Data) :
    (oneOf all name d).IsTellable := by
  have told : (refuse (.notAmong (all.map name)) : Reading α).IsTellable :=
    isTellable_refuse (List.forall_mem_map.mpr whole)
  unfold oneOf
  split
  · split
    · split
      · trivial
      · exact told
    · exact isTellable_refuse_plain rfl
  · exact told

theorem tells_oneOf {all : List α} {name : α → String} (whole : ∀ a ∈ all, IsWhole (name a)) :
    Tells (oneOf all name) :=
  fun d _ => isTellable_oneOf whole d

theorem tells_member {all : List α} {name : α → String} (whole : ∀ a ∈ all, IsWhole (name a)) :
    Tells (member all name) := by
  have told : (refuse (.notMember (all.map name)) : Reading α).IsTellable :=
    isTellable_refuse (List.forall_mem_map.mpr whole)
  intro d _
  unfold member
  dsimp only
  split
  · trivial
  · exact told

theorem tells_any : Tells any :=
  fun _ _ => trivial

theorem Tells.optional {read : Data → Reading α} (tells : Tells read) : Tells (optional read) := by
  intro d sendable
  unfold Reading.optional
  split
  · trivial
  · exact (tells d sendable).map' _

/-! ## Containers -/

theorem isTellable_finish {p : Progress α} (before : ∀ i ∈ p.issues, i.IsTellable) : p.finish.IsTellable := by
  unfold Progress.finish
  split
  · trivial
  · exact fun i listed => before i (List.mem_reverse.mp listed)

/-- Reading one part more keeps what is listed tellable. -/
theorem Progress.push_isTellable {p q : Progress α} {r : Reading α} (before : ∀ i ∈ p.issues, i.IsTellable)
    (tellable : r.IsTellable) (pushed : p.push r = .ok q) : ∀ i ∈ q.issues, i.IsTellable := by
  unfold Progress.push at pushed
  cases r with
  | ok a => cases pushed; exact before
  | failed f => cases pushed
  | refused issues =>
      cases pushed
      exact List.forall_mem_append.mpr ⟨fun i listed => tellable i (List.mem_reverse.mp listed), before⟩

theorem isTellable_itemsFrom {read : Data → Reading α} {items : List Data}
    (each : ∀ item ∈ items, (read item).IsTellable) (index : Nat) {p : Progress α}
    (before : ∀ i ∈ p.issues, i.IsTellable) : (itemsFrom read index p items).IsTellable := by
  induction items generalizing index p with
  | nil => exact isTellable_finish before
  | cons item rest ih =>
      have position : IsWhole (toString index) := Decimal.areWhole_digitChars index
      unfold itemsFrom
      split
      case h_1 => trivial
      case h_2 q pushed =>
        refine ih (fun item listed => each item (List.mem_cons_of_mem _ listed)) _ ?_
        exact Progress.push_isTellable before ((each item List.mem_cons_self).inside position) pushed

theorem Tells.list {read : Data → Reading α} (tells : Tells read) : Tells (list read) := by
  intro d sendable
  unfold Reading.list
  cases sendable with
  | list each => exact isTellable_itemsFrom (fun item listed => tells item (each item listed)) 0 (by simp [Progress.start])
  | _ => exact isTellable_refuse_plain rfl

theorem isTellable_entriesFrom {read : Data → Reading α} (tells : Tells read) {entries : List (Data × Data)}
    (sendable : (Data.dict entries).IsSendable) {p : Progress (String × α)} (before : ∀ i ∈ p.issues, i.IsTellable) :
    (entriesFrom read p entries).IsTellable := by
  induction entries generalizing p with
  | nil => exact isTellable_finish before
  | cons e rest ih =>
      have told : (entry read e).IsTellable := by
        cases sendable with
        | dict keys values =>
            obtain ⟨s, key, whole⟩ := keys e List.mem_cons_self
            have value := tells e.2 (values e List.mem_cons_self)
            unfold entry
            rw [key]
            exact .both (trivial : (Reading.ok s).IsTellable) (value.inside whole)
      unfold entriesFrom
      split
      case h_1 => trivial
      case h_2 q pushed =>
        exact ih (sendable.entries_mono (List.subset_cons_self _ _)) (Progress.push_isTellable before told pushed)

theorem Tells.dict {read : Data → Reading α} (tells : Tells read) : Tells (dict read) := by
  intro d sendable
  unfold Reading.dict
  split
  · exact (isTellable_entriesFrom tells sendable (by simp [Progress.start])).map' _
  · exact isTellable_refuse_plain rfl

/-! ## Fields -/

section Fields

variable {entries : List (Data × Data)} {s : Spelling} {name : String} {read : Data → Reading α}

/-- What stands in a field can be sent, and the way the field is spelled is one of the ways. -/
theorem find?_spec {ways : List String} {found : String × Data} (sendable : (Data.dict entries).IsSendable)
    (hit : find? entries ways = some found) : found.1 ∈ ways ∧ found.2.IsSendable := by
  obtain ⟨way, listed, here⟩ := List.exists_of_findSome?_eq_some hit
  obtain ⟨d, there, rfl⟩ := Option.map_eq_some_iff.mp here
  exact ⟨listed, sendable.field? there⟩

theorem Tells.required (tells : Tells read) (sendable : (Data.dict entries).IsSendable)
    (whole : ∀ way ∈ s.ways name, IsWhole way) : (required s entries name read).IsTellable := by
  unfold Reading.required
  split
  case h_1 way d hit =>
    obtain ⟨listed, given⟩ := find?_spec sendable hit
    exact (tells d given).inside (whole way listed)
  case h_2 =>
    refine (isTellable_refuse_plain rfl).inside (whole _ ?_)
    cases s <;> exact List.mem_cons_self

/-- A field that is read holds what can be sent. -/
theorem required_eq_ok {a : α} (sendable : (Data.dict entries).IsSendable) (given : required s entries name read = .ok a) :
    ∃ d : Data, d.IsSendable ∧ read d = .ok a := by
  unfold Reading.required at given
  split at given
  case h_1 way d hit =>
    refine ⟨d, (find?_spec sendable hit).2, ?_⟩
    cases held : read d with
    | ok b => rw [held] at given; exact given
    | refused issues => rw [held] at given; cases given
    | failed f => rw [held] at given; cases given
  case h_2 => cases given

theorem Tells.withDefault {fallback : α} (tells : Tells read) (sendable : (Data.dict entries).IsSendable)
    (whole : ∀ way ∈ s.ways name, IsWhole way) : (withDefault s entries name fallback read).IsTellable := by
  unfold Reading.withDefault
  split
  case h_1 way d hit =>
    obtain ⟨listed, given⟩ := find?_spec sendable hit
    exact (tells d given).inside (whole way listed)
  case h_2 => trivial

end Fields

theorem tells_record {name : String} {read : List (Data × Data) → Reading α} (whole : IsWhole name)
    (tells : ∀ entries, (Data.dict entries).IsSendable → (read entries).IsTellable) : Tells (record name read) := by
  intro d sendable
  unfold record
  split
  · exact tells _ sendable
  · exact isTellable_refuse (List.forall_mem_singleton.mpr whole)

end Reading

end WorkflowEngine
