import WorkflowEngine.Proofs.Action.Registry
import WorkflowEngine.Proofs.Region.Method
import WorkflowEngine.Proofs.Run.Task

/-!
# Handlers that work on what they are given

A handler is local if it comes to no container but through its input and its parameters.  It may change these
in place, so it is local in what it spares: containers that neither its arguments nor anything outside lead to.
The built-in handlers are local, and so are the samples.
-/

namespace WorkflowEngine

open Eval

namespace Work

variable {reserved : Address → Prop} {h : Heap} {α β : Type} [Naming α] [Naming β]

/-- The work leaves the reserved containers as they are and yields a free value. -/
def Spares (reserved : Address → Prop) (h : Heap) (w : Work α) : Prop :=
  ∀ journal, h.Sound reserved →
    h.Grown reserved (w.run ⟨h, journal⟩).2.heap ∧
      ∀ v, (w.run ⟨h, journal⟩).1 = .ok v → Held reserved (w.run ⟨h, journal⟩).2.heap v

theorem spares_pure {v : α} (held : Held reserved h v) : Spares reserved h (pure v) := by
  intro journal sound
  refine ⟨.refl sound, fun w yields => ?_⟩
  cases yields
  exact held

theorem spares_throw (i : Interruption) : Spares reserved h (throw i : Work α) :=
  fun _ sound => ⟨.refl sound, fun _ yields => nomatch yields⟩

theorem spares_fail (f : Fault) : Spares reserved h (fail f : Work α) :=
  spares_throw _

theorem spares_onHeap {e : Eval α} (spares : Eval.Spares reserved h e) : Spares reserved h (onHeap e) := by
  intro journal sound
  obtain ⟨grown, held⟩ := spares 0 sound
  rw [run_onHeap, Eval.run]
  rcases ran : e.exec ⟨h, 0⟩ with ⟨outcome, m⟩
  rw [ran] at grown held
  cases outcome with
  | ok v => exact ⟨grown, fun w yields => by cases yields; exact held v rfl⟩
  | error f => exact ⟨grown, fun _ yields => nomatch yields⟩

/-- What follows begins on a later heap. -/
theorem spares_bind {w : Work α} {k : α → Work β} (first : Spares reserved h w)
    (rest : ∀ h' v, h.Grown reserved h' → Held reserved h' v → Spares reserved h' (k v)) :
    Spares reserved h (w >>= k) := by
  intro journal sound
  obtain ⟨grown, held⟩ := first journal sound
  rw [run_bind]
  rcases ran : w.run ⟨h, journal⟩ with ⟨outcome, ⟨h', journal'⟩⟩
  rw [ran] at grown held
  cases outcome with
  | error i => exact ⟨grown, fun _ yields => nomatch yields⟩
  | ok v =>
      obtain ⟨later, final⟩ := rest h' v grown (held v rfl) journal' grown.sound
      exact ⟨grown.trans later, final⟩

/-- Where the heap is only read, it stays as it is, and what is read is free. -/
theorem onHeap_of_reads {e : Eval α} (reads : Reads reserved h e) (sound : h.Sound reserved) (journal : List Line) :
    ((onHeap e).run ⟨h, journal⟩).2.heap = h ∧ ∀ v, ((onHeap e).run ⟨h, journal⟩).1 = .ok v → Held reserved h v := by
  obtain ⟨same, held⟩ := reads 0 sound
  rw [run_onHeap, Eval.run]
  rcases ran : e.exec ⟨h, 0⟩ with ⟨outcome, m⟩
  rw [ran] at same held
  cases outcome with
  | ok v => exact ⟨same, fun w yields => by cases yields; exact held v rfl⟩
  | error f => exact ⟨same, nofun⟩

/-- So what follows begins on the same heap. -/
theorem spares_read {e : Eval α} {k : α → Work β} (first : Reads reserved h e)
    (rest : ∀ v, Held reserved h v → Spares reserved h (k v)) : Spares reserved h (onHeap e >>= k) := by
  intro journal sound
  obtain ⟨same, held⟩ := onHeap_of_reads first sound journal
  rw [run_bind]
  rcases ran : (onHeap e).run ⟨h, journal⟩ with ⟨outcome, ⟨h', journal'⟩⟩
  rw [ran] at same held
  cases same
  cases outcome with
  | error i => exact ⟨.refl sound, fun _ yields => nomatch yields⟩
  | ok v => exact rest v (held v rfl) journal' sound

/-- A line is written before what follows. -/
theorem spares_noting {level : Level} {source message : String} {k : Unit → Work α} (rest : Spares reserved h (k ())) :
    Spares reserved h (note level source message >>= k) :=
  fun journal sound => rest (⟨level, source, message⟩ :: journal) sound

end Work

open Work

variable {reserved : Address → Prop} {h : Heap}

/-- Free arguments make the work of the handler spare whatever is reserved. -/
def Handler.IsLocal (handler : Handler) : Prop :=
  ∀ {reserved : Address → Prop} {h : Heap} {input : Value} {named : Named}, Held reserved h input →
    Held reserved h named → Work.Spares reserved h (handler.work input named)

namespace Registry

/-- All handlers are local. -/
def IsLocal (r : Registry) : Prop :=
  ∀ entry ∈ r.entries, entry.2.handler.IsLocal

end Registry

/-- A named parameter, or what stands in for it. -/
theorem held_parameter {named : Named} {fallback : Value} (held : Held reserved h named) (name : String)
    (plain : Held reserved h fallback) : Held reserved h ((named.lookup name).getD fallback) := by
  cases found : named.lookup name with
  | none => exact plain
  | some v => exact Held.named held found

namespace Builtin

variable {input : Value} {named : Named}

theorem spares_lowerLevel (v : Value) : Work.Spares reserved h (lowerLevel v) := by
  unfold lowerLevel
  split
  · exact Work.spares_pure trivial
  · exact Work.spares_pure trivial
  · exact Work.spares_fail _

theorem spares_logMessage (input : Value) (held : Held reserved h named) : Work.Spares reserved h (logMessage input named) := by
  have message : Held reserved h ((named.lookup "message").getD (.str "Default message")) :=
    held_parameter held _ trivial
  have rest {h' : Heap} (grown : h.Grown reserved h') (name : String) (level : Level) : Work.Spares reserved h' (do
      note level source (← onHeap (Eval.text ((named.lookup "message").getD (.str "Default message"))))
      onHeap (Eval.newDict
        [(.str "message", (named.lookup "message").getD (.str "Default message")), (.str "level", .str name)])) := by
    refine Work.spares_read (reads_text _) fun text _ => spares_noting (Work.spares_onHeap (spares_newDict ?_))
    exact Held.cons ⟨trivial, Held.grown message grown⟩ (Held.cons ⟨trivial, trivial⟩ Held.nil)
  unfold logMessage
  refine Work.spares_bind (spares_lowerLevel _) fun h' word grown _ => ?_
  dsimp only
  split
  · rw [pure_bind]
    exact rest grown _ _
  · refine Work.spares_read (reads_text _) fun text _ => spares_noting ?_
    rw [pure_bind]
    exact rest grown _ _

instance : Naming (Data × Data) := .nothing (Data × Data)

theorem reads_sortedKeys (entries : List (Value × Value)) : Reads reserved h (sortedKeys entries) := by
  have views (entries : List (Value × Value)) : Reads reserved h (entries.mapM fun entry => Eval.view entry.1) := by
    induction entries with
    | nil => exact reads_pure Held.nil
    | cons entry rest ih =>
        rw [List.mapM_cons]
        refine reads_bind (reads_view _) fun d _ => reads_bind ih fun ds heldRest => reads_pure ?_
        exact Held.cons trivial heldRest
  unfold sortedKeys
  refine reads_bind (views entries) fun keys _ => reads_bind (reads_lift fun _ _ _ _ => trivial) fun ordered _ => ?_
  exact reads_lift fun _ _ => trivial

theorem reads_baseEntries (held : Held reserved h input) : Reads reserved h (baseEntries input) := by
  unfold baseEntries
  split
  · exact reads_entries held.2
  · exact reads_pure (Held.cons ⟨trivial, held⟩ Held.nil)

theorem spares_setFields (heldInput : Held reserved h input) (held : Held reserved h named) :
    Work.Spares reserved h (setFields input named) := by
  have fields : Held reserved h ((named.lookup "fields").getD .null) := held_parameter held _ trivial
  unfold setFields
  refine Work.spares_read (reads_baseEntries heldInput) fun base heldBase => ?_
  refine Work.spares_read (e := do
    if ← Eval.isTrue ((named.lookup "fields").getD .null) then
      Conversion.extend base ((named.lookup "fields").getD .null) else pure base) ?_ fun entries heldEntries => ?_
  · refine reads_bind (reads_isTrue _) fun holds _ => ?_
    split
    · exact Conversion.reads_extend heldBase fields
    · exact reads_pure heldBase
  · refine Work.spares_read (reads_sortedKeys entries) fun text _ => spares_noting ?_
    exact Work.spares_onHeap (spares_newDict heldEntries)

theorem reads_fieldOf (heldInput : Held reserved h input) (field : Value) : Reads reserved h (fieldOf input field) := by
  unfold fieldOf
  split
  · refine reads_bind (reads_requireKey field) fun _ _ => reads_heap fun _ => ?_
    refine reads_bind (reads_entries heldInput.2) fun entries heldEntries => reads_pure ?_
    cases found : h.lookup entries field with
    | none => trivial
    | some v => exact heldEntries.lookup found
  · exact reads_pure trivial

theorem spares_operation {name a b : Value} {apply : Value → Value → Eval Value} (known : operation? name = some apply)
    (left : Held reserved h a) (right : Held reserved h b) : Eval.Spares reserved h (apply a b) := by
  unfold operation? at known
  split at known <;> cases known
  · exact Value.spares_add left right
  · exact Value.spares_subtract left right
  · exact Value.spares_multiply left right
  · exact Value.spares_divide a b

theorem spares_mathOperation (heldInput : Held reserved h input) (held : Held reserved h named) :
    Work.Spares reserved h (mathOperation input named) := by
  have operation : Held reserved h ((named.lookup "operation").getD (.str "add")) := held_parameter held _ trivial
  have operand : Held reserved h ((named.lookup "operand").getD (.float 1.0)) := held_parameter held _ trivial
  unfold mathOperation
  refine Work.spares_read (reads_fieldOf heldInput _) fun current heldCurrent => ?_
  split
  · refine Work.spares_read (reads_text _) fun name _ => Work.spares_read (reads_source _) fun shown _ => ?_
    exact Work.spares_fail _
  · split
    · exact Work.spares_read (reads_text _) fun name _ => Work.spares_fail _
    · rename_i apply known
      have rest : Work.Spares reserved h (do
          let result ← onHeap (apply current ((named.lookup "operand").getD (.float 1.0)))
          let shown ← onHeap do
            return "math_operation " ++ (← Eval.text ((named.lookup "operation").getD (.str "add"))) ++ "(" ++
              (← Eval.text current) ++ ", " ++ (← Eval.text ((named.lookup "operand").getD (.float 1.0))) ++ ") = " ++
              (← Eval.text result)
          note .debug source shown
          onHeap (Eval.newDict
            [(.str "result", result), (.str "operation", (named.lookup "operation").getD (.str "add")),
             (.str "operand", (named.lookup "operand").getD (.float 1.0))])) := by
        refine Work.spares_bind (Work.spares_onHeap (spares_operation known heldCurrent operand)) ?_
        intro h' result grown heldResult
        refine Work.spares_read ?_ fun shown _ => spares_noting (Work.spares_onHeap (spares_newDict ?_))
        · refine reads_bind (reads_text _) fun _ _ => reads_bind (reads_text _) fun _ _ => ?_
          exact reads_bind (reads_text _) fun _ _ => reads_bind (reads_text _) fun _ _ => reads_pure trivial
        · refine Held.cons ⟨trivial, heldResult⟩ (Held.cons ⟨trivial, Held.grown operation grown⟩ ?_)
          exact Held.cons ⟨trivial, Held.grown operand grown⟩ Held.nil
      refine Work.spares_read (reads_equals _ _) fun same _ => ?_
      split
      · exact spares_noting (Work.spares_fail _)
      · exact rest

/-- The built-in handlers are local. -/
theorem all_local : ∀ entry ∈ all, entry.1.IsLocal := by
  simp only [all, List.forall_mem_cons]
  refine ⟨?_, ?_, ?_, fun _ listed => absurd listed List.not_mem_nil⟩
  · exact fun {_ _ input _} _ heldNamed => spares_logMessage input heldNamed
  · exact fun heldInput heldNamed => spares_setFields heldInput heldNamed
  · exact fun heldInput heldNamed => spares_mathOperation heldInput heldNamed

end Builtin

namespace Sample

variable {input : Value} {named : Named}

theorem spares_receipt (name : String) (heldInput : Held reserved h input) (held : Held reserved h named) :
    Work.Spares reserved h (receipt name input named) := by
  refine Work.spares_onHeap (Eval.spares_bind (spares_newDict (Conversion.held_entries held)) ?_)
  intro h' parameters grown heldParameters
  refine spares_newDict (Held.cons ⟨trivial, Held.grown heldInput grown⟩ ?_)
  exact Held.cons ⟨trivial, heldParameters⟩ Held.nil

theorem spares_setItem (heldInput : Held reserved h input) (name : String) {v : Value} (held : Held reserved h v) :
    Eval.Spares reserved h (setItem input name v) := by
  unfold setItem
  split
  · refine spares_heap fun _ => Eval.spares_read (reads_entries heldInput.2) fun entries heldEntries => ?_
    exact spares_write (c := .dict _) heldInput (heldEntries.setEntry trivial held)
  · exact Eval.spares_fail _
  · exact Eval.spares_fail _

theorem mutating_local : mutating.IsLocal := by
  intro reserved h input named heldInput _
  refine Work.spares_bind (Work.spares_onHeap (spares_setItem heldInput _ trivial)) fun h' _ grown _ => ?_
  exact Work.spares_pure (Held.grown heldInput grown)

/-- A registry of a handler that changes its input. -/
theorem isLocal_of_mutating (name : String) (description : String) :
    Registry.IsLocal ⟨[(name, ⟨mutating, description⟩)]⟩ := by
  intro entry listed
  rw [List.mem_singleton.mp listed]
  exact mutating_local

theorem partialEcho_local : partialEcho.IsLocal := by
  intro reserved h input named heldInput held
  refine spares_receipt _ heldInput (Held.cons ⟨trivial, held_parameter held _ trivial⟩ ?_)
  exact Held.filter held _

theorem length_local : length.IsLocal := by
  intro reserved h input named _ _
  unfold length sample Handler.ofBody
  dsimp only
  exact Work.spares_onHeap (Eval.spares_read (reads_length input) fun count _ => by exact Eval.spares_pure trivial)

theorem uncallable_local (name : String) : (uncallable name).IsLocal := by
  intro reserved h input named heldInput _
  change Work.Spares reserved h (pure input)
  exact Work.spares_pure heldInput

/-- The sample handlers are local, whatever else they do. -/
theorem all_local : ∀ handler ∈ all, handler.IsLocal := by
  simp only [all, List.forall_mem_cons]
  refine ⟨?echo, ?asyncEcho, ?failing, ?keyError, mutating_local, ?dispatchError, ?timeoutError, ?noParameters, ?hang,
    ?returnsAwaitable, ?asyncCallable, partialEcho_local, length_local, ?intType, uncallable_local _, uncallable_local _,
    fun _ listed => absurd listed List.not_mem_nil⟩
  all_goals intro reserved h input named heldInput held
  case echo => exact spares_receipt _ heldInput held
  case asyncEcho => exact spares_receipt _ heldInput held
  case failing => exact Work.spares_read (reads_text _) fun message _ => Work.spares_fail _
  case keyError => exact Work.spares_read (reads_view _) fun key _ => Work.spares_fail _
  case dispatchError => exact Work.spares_read (reads_view _) fun message _ => Work.spares_throw _
  case timeoutError => exact Work.spares_throw _
  case noParameters => exact Work.spares_fail _
  case hang => exact Work.spares_throw _
  case returnsAwaitable => exact spares_receipt _ heldInput held
  case asyncCallable => exact Work.spares_onHeap (Value.spares_multiply heldInput (held_parameter held _ trivial))
  case intType =>
    change Work.Spares reserved h (pure input)
    exact Work.spares_pure heldInput

/-- What holds of the samples and of the built-in handlers holds of all handlers of a registry that is made of them. -/
theorem forall_registryOf {P : Handler → Prop} (samples : ∀ handler ∈ all, P handler)
    (builtin : ∀ entry ∈ Builtin.all, P entry.1) (names : List String) :
    ∀ entry ∈ (registryOf names).entries, P entry.2.handler := by
  have hold : ∀ entry ∈ Registry.empty.entries, P entry.2.handler := fun _ listed => absurd listed List.not_mem_nil
  unfold registryOf
  generalize Registry.empty = r at hold ⊢
  induction names generalizing r with
  | nil => exact hold
  | cons name rest ih =>
      rw [List.foldl_cons]
      refine ih _ ?_
      split
      · exact Registry.forall_registerMissing hold builtin []
      · split
        · rename_i handler found
          have listed : handler ∈ Sample.all ++ Builtin.all.map Prod.fst := List.mem_of_find?_eq_some found
          have holds : P handler := by
            rcases List.mem_append.mp listed with sample | builtIn
            · exact samples handler sample
            · obtain ⟨entry, member, rfl⟩ := List.mem_map.mp builtIn
              exact builtin entry member
          exact Registry.forall_register hold holds _ _
        · exact hold

/-- So are those of every registry that is made of samples and built-in handlers. -/
theorem registryOf_local (names : List String) : (registryOf names).IsLocal :=
  forall_registryOf all_local Builtin.all_local names

end Sample

end WorkflowEngine
