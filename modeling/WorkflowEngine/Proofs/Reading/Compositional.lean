import WorkflowEngine.Reading.Container

/-!
# Properties that pass from parts to the whole

Readings are put together in a few ways.  A property of readings that passes through each of them holds of all texts,
numbers, words and truth values that are read, and of lists, dictionaries and records whose parts have it.
-/

namespace WorkflowEngine.Reading

/-- A property that holds of values and of refusals with a cause, and that passes from parts to the whole. -/
structure Compositional (P : (α : Type) → Reading α → Prop) : Prop where
  ok : ∀ {α : Type} (a : α), P α (.ok a)
  refuse : ∀ {α : Type} (cause : Cause), P α (refuse cause)
  failed : ∀ {α β : Type} {f : Fault}, P α (.failed f) → P β (.failed f)
  map : ∀ {α β : Type} {r : Reading α} (f : α → β), P α r → P β (r.map f)
  inside : ∀ {α : Type} {r : Reading α} (step : String), P α r → P α (r.inside step)
  both : ∀ {α β : Type} {a : Reading α} {b : Unit → Reading β}, P α a → P β (b ()) → P (α × β) (both a b)
  check : ∀ {α β : Type} {r : Reading α} {next : α → Reading β}, P α r → (∀ a, P β (next a)) → P β (r.check next)
  finish : ∀ {α : Type} (p : Progress α), P (List α) p.finish

namespace Compositional

variable {P : (α : Type) → Reading α → Prop} (passes : Compositional P) {α β : Type}

include passes

theorem state (message : String) : P α (Reading.state message) :=
  passes.refuse _

theorem map' {r : Reading α} {f : α → β} (part : P α r) : P β (f <$> r) :=
  passes.map f part

theorem seq {f : Reading (α → β)} {r : Reading α} (first : P (α → β) f) (second : P α r) : P β (f <*> r) :=
  passes.map _ (passes.both first second)

/-! ## Single values -/

theorem text (d : Data) : P String (text d) := by
  unfold Reading.text
  split
  · exact passes.ok _
  · split
    · exact passes.ok _
    · exact passes.refuse _
  · exact passes.refuse _

theorem spelling? (unreadable : Cause) (d : Data) : P (Option String) (spelling? unreadable d) := by
  unfold Reading.spelling?
  repeat' split
  all_goals first | exact passes.ok _ | exact passes.refuse _

theorem boolOfInt (i : Int) : P Bool (boolOfInt i) := by
  unfold Reading.boolOfInt
  repeat' split
  all_goals first | exact passes.ok _ | exact passes.refuse _

theorem intOfFloat (x : Float) : P Int (intOfFloat x) := by
  unfold Reading.intOfFloat
  repeat' split
  all_goals first | exact passes.ok _ | exact passes.refuse _

theorem bool (d : Data) : P Bool (bool d) := by
  unfold Reading.bool
  split
  · exact passes.ok _
  · exact passes.boolOfInt _
  · split
    · exact passes.boolOfInt _
    · exact passes.refuse _
  · refine passes.check (passes.spelling? _ _) fun spelling => ?_
    cases spelling with
    | none => exact passes.refuse _
    | some s =>
        dsimp only
        repeat' split
        all_goals first | exact passes.ok _ | exact passes.refuse _

theorem intOfText (s : String) : P Int (intOfText s) := by
  unfold Reading.intOfText
  dsimp only
  repeat' split
  all_goals first | exact passes.ok _ | exact passes.refuse _

theorem int (d : Data) : P Int (int d) := by
  unfold Reading.int
  split
  · exact passes.ok _
  · exact passes.ok _
  · exact passes.intOfFloat _
  · exact passes.refuse _
  · refine passes.check (passes.spelling? _ _) fun spelling => ?_
    cases spelling with
    | none => exact passes.refuse _
    | some s => exact passes.intOfText s

theorem floatOfText (s : String) : P Float (floatOfText s) := by
  unfold Reading.floatOfText
  repeat' split
  all_goals first | exact passes.ok _ | exact passes.refuse _

theorem float (d : Data) : P Float (float d) := by
  unfold Reading.float
  split
  · exact passes.ok _
  · exact passes.ok _
  · exact passes.ok _
  · split
    · exact passes.ok _
    · exact passes.refuse _
  · refine passes.check (passes.spelling? _ _) fun spelling => ?_
    cases spelling with
    | none => exact passes.refuse _
    | some s => exact passes.floatOfText s

theorem oneOf (all : List α) (name : α → String) (d : Data) : P α (oneOf all name d) := by
  unfold Reading.oneOf
  repeat' split
  all_goals first | exact passes.ok _ | exact passes.refuse _

theorem member (all : List α) (name : α → String) (d : Data) : P α (member all name d) := by
  unfold Reading.member
  dsimp only
  split
  · exact passes.ok _
  · exact passes.refuse _

theorem any (d : Data) : P Data (any d) :=
  passes.ok d

/-! ## Containers -/

variable {read : Data → Reading α} (each : ∀ d, P α (read d))

include each

theorem optional (d : Data) : P (Option α) (optional read d) := by
  unfold Reading.optional
  split
  · exact passes.ok _
  · exact passes.map _ (each _)

theorem itemsFrom (index : Nat) (p : Progress α) (items : List Data) : P (List α) (itemsFrom read index p items) := by
  induction items generalizing index p with
  | nil => exact passes.finish p
  | cons item rest ih =>
      unfold Reading.itemsFrom Progress.push
      have part := passes.inside (toString index) (each item)
      cases read : (read item).inside (toString index) with
      | ok a => exact ih _ _
      | refused issues => exact ih _ _
      | failed f => exact passes.failed (read ▸ part)

theorem list (d : Data) : P (List α) (list read d) := by
  unfold Reading.list
  split
  · exact passes.itemsFrom each 0 .start _
  · exact passes.refuse _

theorem entriesFrom (p : Progress (String × α)) (entries : List (Data × Data)) :
    P (List (String × α)) (entriesFrom read p entries) := by
  induction entries generalizing p with
  | nil => exact passes.finish p
  | cons e rest ih =>
      unfold Reading.entriesFrom Progress.push
      have value : P α ((read e.2).inside (keyStep e.1)) := passes.inside _ (each _)
      have part : P (String × α) (entry read e) :=
        passes.both (b := fun _ => _) (passes.inside _ (passes.inside _ (passes.text _))) value
      cases read : entry read e with
      | ok a => exact ih _
      | refused issues => exact ih _
      | failed f => exact passes.failed (read ▸ part)

theorem dict (d : Data) : P (List (String × α)) (dict read d) := by
  unfold Reading.dict
  split
  · exact passes.map _ (passes.entriesFrom each .start _)
  · exact passes.refuse _

variable {s : Spelling} {entries : List (Data × Data)} {name : String}

theorem required : P α (required s entries name read) := by
  unfold Reading.required
  split
  · exact passes.inside _ (each _)
  · exact passes.inside _ (passes.refuse _)

theorem withDefault {fallback : α} : P α (withDefault s entries name fallback read) := by
  unfold Reading.withDefault
  split
  · exact passes.inside _ (each _)
  · exact passes.ok _

omit each

theorem record {body : List (Data × Data) → Reading α} (whole : ∀ entries, P α (body entries)) (name : String) (d : Data) :
    P α (record name body d) := by
  unfold Reading.record
  split
  · exact whole _
  · exact passes.refuse _

end Compositional

end WorkflowEngine.Reading
