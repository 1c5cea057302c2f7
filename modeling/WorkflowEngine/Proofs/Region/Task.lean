import WorkflowEngine.Proofs.Region.Expression
import WorkflowEngine.Proofs.Region.Handler
import WorkflowEngine.Proofs.Region.Load

/-!
# What the tasks of nodes spare

The task of a node is given a free input, parameters with free entries and the variables.  With local handlers
it spares what is reserved, and its output is free, so it can be passed on.
-/

namespace WorkflowEngine

open Eval

variable {reserved : Address → Prop} {h : Heap}

theorem Eval.spares_load (d : Data) : Spares reserved h (load d) := by
  intro steps sound
  obtain ⟨grown, held⟩ := sound.load d
  exact ⟨grown, fun v yields => by cases yields; exact held⟩

/-- Parameters that may be given to handlers: none, or a dictionary with free entries, which may be reserved
itself. -/
def Offers (reserved : Address → Prop) (h : Heap) (parameters : Value) : Prop :=
  parameters = .null ∨ ∃ a, parameters = .dict a ∧ Held reserved h (h.entries a)

namespace Registry

variable {r : Registry} {input parameters : Value}

theorem reads_parameterEntries (offers : Offers reserved h parameters) :
    Reads reserved h (parameterEntries parameters) := by
  unfold parameterEntries
  refine reads_bind (reads_isTrue _) fun holds _ => ?_
  split
  · rcases offers with rfl | ⟨a, rfl, held⟩
    · exact Conversion.reads_extend Held.nil trivial
    · have entries : Reads reserved h (Eval.entries a) := reads_heap fun _ => reads_pure held
      exact reads_heap fun _ => reads_bind entries fun added heldAdded => reads_pure (Held.nil.setEntries heldAdded)
  · exact reads_pure Held.nil

theorem held_namedOf {done named : Named} {entries : List (Value × Value)} (before : Held reserved h done)
    (held : Held reserved h entries) (read : namedOf done entries = .ok named) : Held reserved h named := by
  fun_induction namedOf with
  | case1 =>
      cases read
      exact before.reverse
  | case2 done name value rest ih =>
      obtain ⟨first, others⟩ := List.forall_mem_cons.mp held
      exact ih (Held.cons ⟨trivial, first.2⟩ before) others read
  | case3 => cases read

theorem spares_attend {handler : Handler} (localHandler : handler.IsLocal) (heldInput : Held reserved h input)
    {entries : List (Value × Value)} (held : Held reserved h entries) (wait : Option Number) :
    Work.Spares reserved h (attend handler input entries wait) := by
  unfold attend
  split
  · exact Work.spares_fail _
  · rename_i named read
    split
    · split
      · exact Work.spares_fail _
      · exact Work.spares_throw _
    · unfold Handler.call
      split
      · exact Work.spares_fail _
      · exact localHandler heldInput (held_namedOf Held.nil held read)

/-- A dispatch to local handlers spares what is reserved, and its value is free. -/
theorem spares_dispatch (locals : r.IsLocal) (name : String) (heldInput : Held reserved h input)
    (offers : Offers reserved h parameters) (wait : Option Number) (journal : List Line) (sound : h.Sound reserved) :
    h.Grown reserved (r.dispatch name input parameters wait ⟨h, journal⟩).2.heap ∧
      ∀ v, (r.dispatch name input parameters wait ⟨h, journal⟩).1 = .ok v →
        Held reserved (r.dispatch name input parameters wait ⟨h, journal⟩).2.heap v := by
  unfold dispatch
  split
  · exact ⟨.refl sound, fun _ yields => by cases yields⟩
  · rename_i handler found
    obtain ⟨entry, listed, rfl⟩ := mem_of_get found
    obtain ⟨same, held⟩ := Work.onHeap_of_reads (reads_parameterEntries offers) sound journal
    rcases ran : (Work.onHeap (parameterEntries parameters)).run ⟨h, journal⟩ with ⟨outcome, ⟨h', journal'⟩⟩
    rw [ran] at held same
    cases same
    cases outcome with
    | error interruption =>
        cases interruption
        all_goals exact ⟨.refl sound, fun _ yields => by cases yields⟩
    | ok entries =>
        obtain ⟨later, final⟩ := spares_attend (locals entry listed) heldInput (held entries rfl) wait journal' sound
        dsimp only
        rcases attended : (attend entry.2.handler input entries wait).run ⟨h', journal'⟩ with ⟨outcome, d⟩
        rw [attended] at later final
        cases outcome with
        | error interruption => exact ⟨later, fun _ yields => by cases yields⟩
        | ok v => exact ⟨later, fun w yields => by cases yields; exact final v rfl⟩

end Registry

namespace Act

variable {α β : Type} [Naming α] [Naming β] {vars : Address}

/-- Work at a node, with the variables at a place, leaves the reserved containers as they are and yields a free
value. -/
def Spares (reserved : Address → Prop) (vars : Address) (h : Heap) (a : Act α) : Prop :=
  ∀ stage, stage.scene.heap = h → stage.scene.vars = vars → h.Sound reserved →
    (a.run stage).2.scene.vars = vars ∧ h.Grown reserved (a.run stage).2.scene.heap ∧
      ∀ v, (a.run stage).1 = .ok v → Held reserved (a.run stage).2.scene.heap v

theorem spares_pure {v : α} (held : Held reserved h v) : Spares reserved vars h (pure v) := by
  rintro stage rfl rfl sound
  exact ⟨rfl, .refl sound, fun w yields => by cases yields; exact held⟩

theorem spares_throw (message : NodeFailure) : Spares reserved vars h (throw message : Act α) := by
  rintro stage rfl rfl sound
  exact ⟨rfl, .refl sound, fun _ yields => by cases yields⟩

theorem spares_say (words : String) : Spares reserved vars h (say words : Act α) :=
  spares_throw _

theorem spares_fail (f : Fault) : Spares reserved vars h (fail f : Act α) :=
  spares_throw _

/-- What follows begins on a later heap. -/
theorem spares_bind {a : Act α} {k : α → Act β} (first : Spares reserved vars h a)
    (rest : ∀ h' v, h.Grown reserved h' → Held reserved h' v → Spares reserved vars h' (k v)) :
    Spares reserved vars h (a >>= k) := by
  intro stage here there sound
  obtain ⟨place, grown, held⟩ := first stage here there sound
  rw [run_bind]
  rcases ran : a.run stage with ⟨outcome, stage'⟩
  rw [ran] at place grown held
  cases outcome with
  | error message => exact ⟨place, grown, fun _ yields => by cases yields⟩
  | ok v =>
      obtain ⟨last, later, final⟩ := rest _ v grown (held v rfl) stage' rfl place grown.sound
      exact ⟨last, grown.trans later, final⟩

/-- A line is written before what follows. -/
theorem spares_noting {level : LogLevel} {message : String} {data : Data} {k : Unit → Act α}
    (rest : Spares reserved vars h (k ())) : Spares reserved vars h (note level message data >>= k) := by
  rintro stage rfl rfl sound
  exact rest ⟨stage.scene.write _, _⟩ rfl rfl sound

/-- The scene that is looked at has the heap and the place of the variables. -/
theorem spares_scene {k : Scene → Act α}
    (rest : ∀ s : Scene, s.heap = h → s.vars = vars → h.Sound reserved → Spares reserved vars h (k s)) :
    Spares reserved vars h (scene >>= k) := by
  rintro stage rfl rfl sound
  exact rest stage.scene rfl rfl sound stage rfl rfl sound

/-- What does not depend on the scene may come before what follows. -/
theorem spares_lifting {γ : Type} {outcome : Except Fault γ} {k : γ → Act α}
    (rest : ∀ v, Spares reserved vars h (k v)) : Spares reserved vars h (lift outcome >>= k) := by
  cases outcome with
  | ok v => exact rest v
  | error f =>
      rintro stage rfl rfl sound
      exact ⟨rfl, .refl sound, fun _ yields => by cases yields⟩

/-- The scene is changed, but not in the place of the variables, and what follows begins on its new heap. -/
theorem spares_changing {f : Scene → Scene} {k : Unit → Act α} {h' : Heap} (grown : h.Grown reserved h')
    (changes : ∀ s : Scene, s.heap = h → s.vars = vars → (f s).heap = h' ∧ (f s).vars = vars)
    (rest : Spares reserved vars h' (k ())) : Spares reserved vars h (change f >>= k) := by
  intro stage here there sound
  obtain ⟨heap, place⟩ := changes stage.scene here there
  obtain ⟨last, later, final⟩ := rest { stage with scene := f stage.scene } heap place grown.sound
  exact ⟨last, grown.trans later, final⟩

/-- Work on the heap alone yields an outcome, which is free if it is a value. -/
theorem spares_onHeap {e : Eval α} {k : Except Fault α → Act β} (spares : Eval.Spares reserved h e)
    (fault : ∀ h' f, h.Grown reserved h' → Spares reserved vars h' (k (.error f)))
    (rest : ∀ h' v, h.Grown reserved h' → Held reserved h' v → Spares reserved vars h' (k (.ok v))) :
    Spares reserved vars h (onHeap e >>= k) := by
  rintro stage rfl rfl sound
  obtain ⟨grown, held⟩ := spares 0 sound
  have ran : (onHeap e).run stage =
      (.ok (Eval.run e stage.scene.heap).1, { stage with scene := { stage.scene with heap := (Eval.run e stage.scene.heap).2 } }) :=
    rfl
  rw [run_bind, ran]
  rcases outcome : (e.exec ⟨stage.scene.heap, 0⟩) with ⟨_ | v, m⟩
  all_goals
    rw [Eval.run, outcome]
    rw [outcome] at grown held
  · obtain ⟨place, later, final⟩ := fault m.heap _ grown { stage with scene := { stage.scene with heap := m.heap } } rfl
      rfl grown.sound
    exact ⟨place, grown.trans later, final⟩
  · obtain ⟨place, later, final⟩ := rest m.heap v grown (held v rfl)
      { stage with scene := { stage.scene with heap := m.heap } } rfl rfl grown.sound
    exact ⟨place, grown.trans later, final⟩

theorem held_product {v : Value} (held : Held reserved h v) (chosen : Option (List String)) :
    Held reserved h (v, chosen) :=
  ⟨held, fun _ _ _ _ => trivial⟩

section Tasks

variable {setting : Setting} {input : Value}

theorem spares_dispatch (locals : setting.registry.IsLocal)
    (offers : ∀ id v, setting.parameters.lookup id = some v → Offers reserved h v) (n : Node) (c : ActionConfig)
    (held : Held reserved h input) : Spares reserved vars h (dispatch setting n c input) := by
  have offered : Offers reserved h ((setting.parameters.lookup n.id).getD .null) := by
    cases found : setting.parameters.lookup n.id with
    | none => exact .inl rfl
    | some v => exact offers n.id v found
  unfold dispatch
  refine spares_noting ?_
  extract_lets parameters send
  have sent (wait : Option Number) : Spares reserved vars h (send wait) := by
    refine spares_scene fun s here there sound => ?_
    dsimp only
    rw [here]
    obtain ⟨grown, final⟩ := Registry.spares_dispatch locals c.actionType held offered wait [] sound
    rcases dispatched : setting.registry.dispatch c.actionType input ((setting.parameters.lookup n.id).getD .null) wait
      ⟨h, []⟩ with ⟨outcome, desk⟩
    rw [dispatched] at grown final
    refine spares_changing grown (fun s _ place => ⟨rfl, place⟩) ?_
    cases outcome with
    | ok v =>
        have heldOutput := final v rfl
        refine spares_onHeap (Eval.spares_newDict ?_) (fun _ f _ => spares_fail f) fun _ report _ heldReport => ?_
        · refine Held.cons ⟨trivial, trivial⟩ (Held.cons ⟨trivial, trivial⟩ (Held.cons ⟨trivial, trivial⟩ ?_))
          exact Held.cons ⟨trivial, Held.grown held grown⟩ (Held.cons ⟨trivial, heldOutput⟩ Held.nil)
        · exact spares_pure heldReport
    | error failure =>
        cases failure with
        | fault f => exact spares_fail f
        | refused e => exact spares_throw e.message
  split
  · exact spares_lifting fun limit => by rw [pure_bind]; exact sent _
  · rw [pure_bind]
    exact sent none

theorem spares_choose (n : Node) (c : ConditionConfig) (held : Held reserved h input) :
    Spares reserved vars h (choose setting n c input) := by
  unfold choose
  refine spares_noting (spares_scene fun s _ _ _ => spares_lifting fun ⟨holds, results⟩ => spares_noting ?_)
  split
  · exact spares_pure (held_product held _)
  · exact spares_noting (spares_pure (held_product held _))

/-- A variable is given a free value. -/
theorem grown_assign {s : Scene} {name : String} {v : Value} (sound : s.heap.Sound reserved)
    (heldVars : Held reserved s.heap (Value.dict s.vars)) (held : Held reserved s.heap v) :
    s.heap.Grown reserved (s.assign name v).heap := by
  have entries : Held reserved s.heap (s.heap.setEntry (s.heap.entries s.vars) (.str name) v) :=
    Held.setEntry (sound.entries heldVars.2) trivial held
  exact sound.write (c := .dict _) heldVars entries

theorem spares_compute (c : TransformConfig) (heldVars : Held reserved h (Value.dict vars))
    (held : Held reserved h input) : Spares reserved vars h (compute c input) := by
  unfold compute
  refine spares_noting (spares_scene fun s _ place _ => ?_)
  rw [place]
  refine spares_onHeap (Expression.spares_evaluate c.expression held heldVars) (fun _ f _ => spares_say _) ?_
  intro h' v grown heldValue
  dsimp only
  have assigned (name : String) : Spares reserved vars h' (do
      change fun s => s.assign name v
      return v) := by
    intro stage here there sound
    have heldHere : Held reserved stage.scene.heap (Value.dict stage.scene.vars) := by
      rw [here, there]
      exact Held.grown (x := Value.dict vars) heldVars grown
    have later : stage.scene.heap.Grown reserved (stage.scene.assign name v).heap :=
      grown_assign (here ▸ sound) heldHere (here ▸ heldValue)
    rw [here] at later
    refine ⟨there, later, fun w yields => ?_⟩
    cases yields
    exact Held.grown heldValue later
  split
  · split
    · exact assigned _
    · exact spares_pure heldValue
  · exact spares_pure heldValue

theorem spares_wait (c : DelayConfig) : Spares reserved vars h (wait c) := by
  unfold wait
  refine spares_noting ?_
  rintro stage rfl rfl sound
  exact ⟨rfl, .refl sound, fun _ _ => trivial⟩

theorem spares_request (c : ApiConfig) : Spares reserved vars h (request setting c) := by
  unfold request
  refine spares_noting (spares_lifting fun proof => spares_lifting fun limit => spares_scene fun s here place sound => ?_)
  dsimp only
  refine spares_changing (.refl sound) (fun s same there => ⟨same, there⟩) ?_
  split
  · exact spares_say _
  · exact spares_fail _
  · refine spares_onHeap (Eval.spares_load _) (fun _ f _ => spares_fail f) fun _ loaded _ heldLoaded => ?_
    exact spares_pure heldLoaded

/-- The task of a node spares what is reserved, and its output is free. -/
theorem spares_perform (locals : setting.registry.IsLocal)
    (offers : ∀ id v, setting.parameters.lookup id = some v → Offers reserved h v) (n : Node)
    (heldVars : Held reserved h (Value.dict vars)) (held : Held reserved h input) :
    Spares reserved vars h (perform setting n input) := by
  unfold perform
  split
  · exact spares_pure (held_product held _)
  · refine spares_bind (spares_dispatch locals offers n _ held) fun h' v _ heldValue => ?_
    exact spares_pure (held_product heldValue _)
  · exact spares_choose n _ held
  · refine spares_bind (spares_compute _ heldVars held) fun h' v _ heldValue => ?_
    exact spares_pure (held_product heldValue _)
  · refine spares_bind (spares_wait _) fun h' _ grown _ => ?_
    exact spares_pure (held_product (Held.grown held grown) _)
  · refine spares_bind (spares_request _) fun h' v _ heldValue => ?_
    exact spares_pure (held_product heldValue _)
  · exact spares_noting (spares_pure (held_product held _))

/-- So does the whole of a visit around the task. -/
theorem spares_complete {task : Node → Value → Act Product} {n : Node}
    (spares : Spares reserved vars h (task n input)) : Spares reserved vars h (complete task n input) := by
  unfold complete
  refine spares_noting (spares_bind spares fun h' product _ heldProduct => spares_scene fun s _ _ _ => ?_)
  exact spares_lifting fun output => spares_pure ⟨heldProduct, trivial⟩

end Tasks

end Act

end WorkflowEngine
