import WorkflowEngine.Condition
import WorkflowEngine.Engine.Perform
import WorkflowEngine.Proofs.Relocation.Copy
import WorkflowEngine.Proofs.Relocation.Expression
import WorkflowEngine.Proofs.Relocation.Handler

/-!
# Tasks on moved heaps

Two scenes belong together if their heaps do, if their variables stand at places that belong together, and if they have
recorded the same visits up to marks.  The logs of the two runs may differ.  The task of a node then does the same in
both, given the same edges behind the node and moved parameters for it.
-/

/-!
## Conditions

Conditions compare what they find in the input and among the variables with values of the definition.  Those are put
beside the run without marks of its own, so a condition on a moved heap holds exactly when it holds on the heap.
-/

namespace WorkflowEngine.Condition

variable (r : Relocation)

section Paths

variable {r} {h h' : Heap} (moves : h.Moves r h')

theorem itemAt_move (items : List Value) (part : String) : itemAt (r.move items) part = r.move (itemAt items part) := by
  unfold itemAt
  split
  · cases indexOf part with
    | error f => rfl
    | ok i => exact congrArg Except.ok (r.getElem?_move items i)
  · rfl

include moves

theorem entry?_move (v : Value) (name : String) : h'.opening.entry? (r.move v) name = r.move (h.opening.entry? v name) := by
  cases v with
  | dict a =>
      have found := moves.lookup (h.entries a) (.str name)
      rw [← moves.entries] at found
      exact found
  | _ => rfl

theorem items?_move (v : Value) : h'.opening.items? (r.move v) = r.move (h.opening.items? v) := by
  cases v with
  | list a => exact congrArg some (moves.items a)
  | tuple a => exact congrArg some (moves.items a)
  | _ => rfl

theorem step_move (v : Value) (part : String) : h'.opening.step (r.move v) part = r.move (h.opening.step v part) := by
  unfold Opening.step
  rw [entry?_move moves, items?_move moves]
  cases h.opening.entry? v part with
  | some next => rfl
  | none =>
      cases h.opening.items? v with
      | none => rfl
      | some items => exact itemAt_move items part

theorem walk_move (v : Value) (path : List String) : h'.opening.walk (r.move v) path = r.move (h.opening.walk v path) := by
  induction path generalizing v with
  | nil => rfl
  | cons part rest ih =>
      rw [Opening.walk, Opening.walk, step_move moves]
      rcases h.opening.step v part with f | _ | next
      · rfl
      · rfl
      · exact ih next

theorem findIn_move (v : Value) (name : String) : h'.opening.findIn (r.move v) name = r.move (h.opening.findIn v name) := by
  unfold Opening.findIn
  rw [entry?_move moves, walk_move moves]
  cases h.opening.entry? v name <;> rfl

theorem resolveOn_move (name : String) (input vars : Value) :
    resolveOn h' name (r.move input) (r.move vars) = r.move (resolveOn h name input vars) := by
  unfold resolveOn Opening.find
  rw [findIn_move moves, findIn_move moves]
  rcases h.opening.findIn input name with f | _ | value
  · rfl
  · rcases h.opening.findIn vars name with f | _ | value <;> rfl
  · rfl

end Paths

section Comparisons

theorem toNumber_move (d : Data) : toNumber (r.move d) = toNumber d := by
  cases d <;> rfl

theorem isEmpty_move (d : Data) : isEmpty (r.move d) = isEmpty d := by
  cases d with
  | list items =>
      rw [r.move_data_list]
      exact r.isEmpty_move items
  | tuple items =>
      rw [r.move_data_tuple]
      exact r.isEmpty_move items
  | set items =>
      rw [r.move_data_set]
      exact r.isEmpty_move items
  | dict entries =>
      rw [r.move_data_dict]
      exact r.isEmpty_move entries
  | _ => rfl

mutual

/-- Values of a definition have no marks. -/
theorem move_foreign (d : Data) : r.move (foreign d) = foreign d := by
  cases d with
  | list items => exact (r.move_data_list _).trans (congrArg Data.list (move_foreignItems items))
  | tuple items => exact (r.move_data_tuple _).trans (congrArg Data.tuple (move_foreignItems items))
  | set items => exact (r.move_data_set _).trans (congrArg Data.set (move_foreignItems items))
  | dict entries => exact (r.move_data_dict _).trans (congrArg Data.dict (move_foreignEntries entries))
  | slice lower upper step =>
      have parts := congr (congr (congrArg Data.slice (move_foreign lower)) (move_foreign upper)) (move_foreign step)
      exact parts
  | _ => rfl

theorem move_foreignItems (items : List Data) : r.move (foreignItems items) = foreignItems items := by
  cases items with
  | nil => rfl
  | cons item rest => rw [foreignItems, r.move_cons, move_foreign item, move_foreignItems rest]

theorem move_foreignEntries (entries : List (Data × Data)) :
    r.move (foreignEntries entries) = foreignEntries entries := by
  rcases entries with _ | ⟨⟨key, value⟩, rest⟩
  · rfl
  · rw [foreignEntries, r.move_cons, r.move_pair, move_foreign key, move_foreign value, move_foreignEntries rest]

end

theorem strictlyEqual_foreign_move (a b : Data) : strictlyEqual (r.move a) (foreign b) = strictlyEqual a (foreign b) := by
  have kind : isBool (r.move a) = isBool a := by cases a <;> rfl
  have equal := Data.equals_move r a (foreign b)
  rw [move_foreign] at equal
  rw [strictlyEqual, strictlyEqual, kind, equal]

variable (c : Condition)

theorem equalsExpected_move (d : Data) : c.equalsExpected (r.move d) = c.equalsExpected d := by
  have strict := strictlyEqual_foreign_move r d c.value
  cases d with
  | str s => rfl
  | _ => exact strict

theorem containsExpected_move (d : Data) : c.containsExpected (r.move d) = c.containsExpected d := by
  rw [containsExpected, containsExpected, Data.plain_move]

theorem matchesExpected_move (d : Data) : c.matchesExpected (r.move d) = c.matchesExpected d := by
  rw [matchesExpected, matchesExpected, Data.plain_move]

end Comparisons

/-- A condition holds of moved data exactly when it holds of the data. -/
theorem holds_move (c : Condition) (find : String → Except Fault Data) :
    c.holds (fun name => r.move (find name)) = c.holds find := by
  unfold holds
  refine (r.move_bind fun value => Eq.trans ?_ (r.move_fixed _).symm).trans (r.move_fixed _)
  simp only [equalsExpected_move, toNumber_move, containsExpected_move, matchesExpected_move, isEmpty_move]

theorem results_move (find : String → Except Fault Data) (done : List Bool) (conditions : List Condition) :
    results (fun name => r.move (find name)) done conditions = results find done conditions := by
  induction conditions generalizing done with
  | nil => rfl
  | cons c rest ih =>
      rw [results, results, holds_move]
      cases c.holds find with
      | error f => rfl
      | ok b => exact ih (b :: done)

/-- Conditions hold together on a moved heap exactly when they hold on the heap. -/
theorem evaluateOn_move {h h' : Heap} (moves : h.Moves r h') (logical : String) (input vars : Value)
    (conditions : List Condition) :
    evaluateOn h' logical (r.move input) (r.move vars) conditions = evaluateOn h logical input vars conditions := by
  have found : (fun name => (resolveOn h' name (r.move input) (r.move vars)).map h'.view) =
      fun name => r.move ((resolveOn h name input vars).map h.view) := by
    funext name
    rw [resolveOn_move moves]
    cases resolveOn h name input vars with
    | error f => rfl
    | ok v => exact congrArg Except.ok (moves.view v)
  rw [evaluateOn, evaluateOn, found, judge, judge, results_move]

end WorkflowEngine.Condition

/-! ## Tasks -/

namespace WorkflowEngine

open Relocation (Fixes)

variable {r : Relocation} {h : Heap} {α β : Type} [Movable α] [Movable β]

/-- The record of a visit with other marks in its input and its output. -/
instance : Movable Visit where
  moved r v := { v with input := r.move v.input, output := r.move v.output }

/-- Scenes that belong together. -/
structure Scene.Moves (r : Relocation) (s s' : Scene) : Prop where
  heap : s.heap.Moves r s'.heap
  clock : s'.clock = s.clock
  transport : s'.transport = s.transport
  vars : s'.vars = r.address s.vars
  visits : s'.visits = r.move s.visits

/-- Stages that belong together, on which the same lines were written during the visit. -/
structure Stage.Moves (r : Relocation) (t t' : Stage) : Prop where
  scene : t.scene.Moves r t'.scene
  lines : t'.lines = t.lines

namespace Scene.Moves

variable {s s' : Scene}

theorem now (moves : s.Moves r s') : s'.now = s.now :=
  congrArg Clock.now moves.clock

theorem line (moves : s.Moves r s') (level : LogLevel) (message : String) (data : Data) :
    s'.line level message data = s.line level message data :=
  congrArg (LogLine.mk · level message data) moves.now

/-- The logs do not matter. -/
theorem write (moves : s.Moves r s') (l l' : LogLine) : (s.write l).Moves r (s'.write l') :=
  ⟨moves.heap, moves.clock, moves.transport, moves.vars, moves.visits⟩

theorem onHeap {h h' : Heap} (moves : s.Moves r s') (later : h.Moves r h') :
    ({ s with heap := h } : Scene).Moves r { s' with heap := h' } :=
  ⟨later, moves.clock, moves.transport, moves.vars, moves.visits⟩

/-- A variable is given a value and the moved one. -/
theorem assign (moves : s.Moves r s') (name : String) (v : Value) : (s.assign name v).Moves r (s'.assign name (r.move v)) := by
  have entries : s'.heap.setEntry (s'.heap.entries s'.vars) (.str name) (r.move v) =
      r.move (s.heap.setEntry (s.heap.entries s.vars) (.str name) v) := by
    rw [moves.vars, moves.heap.entries]
    exact moves.heap.setEntry _ (.str name) v
  refine moves.onHeap ?_
  rw [entries, moves.vars]
  exact moves.heap.write s.vars (.dict _)

theorem variablesData (moves : s.Moves r s') : s'.variablesData = r.move s.variablesData := by
  rw [Scene.variablesData, Scene.variablesData, moves.vars]
  exact moves.heap.view (.dict s.vars)

end Scene.Moves

/-- Settings that are the same for a node: the same handlers, the same edges behind the node unless paths end there, and
moved parameters for it. -/
structure Setting.Moves (r : Relocation) (n : Node) (t t' : Setting) : Prop where
  registry : t'.registry = t.registry
  requestLimit : t'.requestLimit = t.requestLimit
  outgoing : n.kind ≠ .ending → t'.workflow.outgoing n.id = t.workflow.outgoing n.id
  parameters : t'.parameters.lookup n.id = r.move (t.parameters.lookup n.id)

namespace Act

/-- From a stage with a heap and one that belongs to it, the second work comes to what the first one does, moved. -/
def FollowsFrom (r : Relocation) (h : Heap) (a a' : Act α) : Prop :=
  ∀ ⦃t t'⦄, t.scene.heap = h → t.Moves r t' → (a'.run t').1 = r.move (a.run t).1 ∧ (a.run t).2.Moves r (a'.run t').2

/-- The second work follows from every heap. -/
def Follows (r : Relocation) (a a' : Act α) : Prop :=
  ∀ h, FollowsFrom r h a a'

section Rules

theorem follows_pure {v v' : α} (moved : v' = r.move v) : Follows r (pure v) (pure v') :=
  fun _ _ _ _ moves => ⟨congrArg Except.ok moved, moves⟩

theorem follows_throw {message message' : NodeFailure} (moved : message' = r.move message) :
    Follows r (throw message : Act α) (throw message') :=
  fun _ _ _ _ moves => ⟨congrArg Except.error moved, moves⟩

theorem follows_say (words : String) : Follows r (say words : Act α) (say words) :=
  follows_throw rfl

/-- What is said of faults that look alike is the same. -/
theorem follows_fail_of_alike {f f' : Fault} (alike : f.Alike f') : Follows r (fail f : Act α) (fail f') := by
  have same : f'.summary = f.summary := by rw [Fault.summary, Fault.summary, alike.1, alike.2]
  unfold fail
  rw [same]
  exact follows_say _

theorem follows_fail (f : Fault) : Follows r (fail f : Act α) (fail f) :=
  follows_fail_of_alike ⟨rfl, rfl⟩

theorem follows_lift {outcome outcome' : Except Fault α} (moved : outcome' = r.move outcome) :
    Follows r (lift outcome) (lift outcome') := by
  subst moved
  cases outcome with
  | ok v => exact follows_pure rfl
  | error f => exact follows_fail f

theorem followsFrom_bind {a a' : Act α} {k k' : α → Act β} (first : FollowsFrom r h a a')
    (rest : ∀ v, Follows r (k v) (k' (r.move v))) : FollowsFrom r h (a >>= k) (a' >>= k') := by
  intro t t' here moves
  obtain ⟨same, later⟩ := first here moves
  rw [run_bind, run_bind]
  rcases ran : a.run t with ⟨outcome, u⟩
  rcases ran' : a'.run t' with ⟨outcome', u'⟩
  rw [ran, ran'] at same later
  cases same
  cases outcome with
  | ok v => exact rest v _ rfl later
  | error message => exact ⟨rfl, later⟩

/-- The same line is written before what follows. -/
theorem followsFrom_noting {level : LogLevel} {message : String} {data : Data} {k k' : Unit → Act α}
    (rest : FollowsFrom r h (k ()) (k' ())) :
    FollowsFrom r h (note level message data >>= k) (note level message data >>= k') := by
  intro t t' here moves
  have lines : t'.scene.line level message data :: t'.lines = t.scene.line level message data :: t.lines :=
    congr (congrArg List.cons (moves.scene.line level message data)) moves.lines
  exact rest here ⟨moves.scene.write _ _, lines⟩

/-- The same outcome comes before what follows. -/
theorem followsFrom_lifting {γ : Type} {outcome : Except Fault γ} {k k' : γ → Act α}
    (rest : ∀ v, FollowsFrom r h (k v) (k' v)) : FollowsFrom r h (lift outcome >>= k) (lift outcome >>= k') := by
  cases outcome with
  | ok v => exact rest v
  | error f => exact fun t t' here moves => follows_fail f h here moves

/-- The scenes that are looked at belong together. -/
theorem followsFrom_scene {k k' : Scene → Act α}
    (rest : ∀ s s', s.heap = h → s.Moves r s' → FollowsFrom r h (k s) (k' s')) :
    FollowsFrom r h (scene >>= k) (scene >>= k') :=
  fun t t' here moves => rest t.scene t'.scene here moves.scene here moves

/-- The scenes are changed, and belong together when the rest begins. -/
theorem followsFrom_changing {f f' : Scene → Scene} {k k' : Unit → Act α}
    (changes : ∀ ⦃s s'⦄, s.Moves r s' → (f s).Moves r (f' s')) (rest : Follows r (k ()) (k' ())) :
    FollowsFrom r h (change f >>= k) (change f' >>= k') :=
  fun _ _ _ moves => rest _ rfl ⟨changes moves.scene, moves.lines⟩

/-- Work on the heap alone comes to a value and the moved one, or to faults that look alike. -/
theorem followsFrom_onHeap {e e' : Eval α} {k k' : Except Fault α → Act β} (follows : Eval.Follows r e e')
    (fault : ∀ f f', f.Alike f' → Follows r (k (.error f)) (k' (.error f')))
    (rest : ∀ v, Follows r (k (.ok v)) (k' (.ok (r.move v)))) :
    FollowsFrom r h (onHeap e >>= k) (onHeap e' >>= k') := by
  intro t t' here moves
  have begun : Machine.Moves r ⟨t.scene.heap, 0⟩ ⟨t'.scene.heap, 0⟩ := ⟨moves.scene.heap, rfl⟩
  obtain ⟨answers, later⟩ := follows begun
  have ran (e : Eval α) (t : Stage) : (onHeap e).run t =
      (.ok (Eval.run e t.scene.heap).1, { t with scene := { t.scene with heap := (Eval.run e t.scene.heap).2 } }) :=
    rfl
  rw [run_bind, run_bind, ran, ran, Eval.run, Eval.run]
  rcases done : e.exec ⟨t.scene.heap, 0⟩ with ⟨outcome, m⟩
  rcases done' : e'.exec ⟨t'.scene.heap, 0⟩ with ⟨outcome', m'⟩
  rw [done, done'] at answers later
  have next := moves.scene.onHeap later.heap
  cases answers with
  | ok v => exact rest v _ rfl ⟨next, moves.lines⟩
  | error alike => exact fault _ _ alike _ rfl ⟨next, moves.lines⟩

end Rules

section Tasks

variable {reserved : Address → Prop} {setting setting' : Setting} {n : Node} {input : Value}

theorem followsFrom_dispatch (same : setting.Moves r n setting') (blind : setting.registry.IsBlind)
    (sound : h.Sound reserved) (offers : ∀ v, setting.parameters.lookup n.id = some v → Offers reserved h v)
    (c : ActionConfig) (held : Held reserved h input) :
    FollowsFrom r h (dispatch setting n c input) (dispatch setting' n c (r.move input)) := by
  have offered : Offers reserved h ((setting.parameters.lookup n.id).getD .null) := by
    cases found : setting.parameters.lookup n.id with
    | none => exact .inl rfl
    | some v => exact offers v found
  have parameters : (setting'.parameters.lookup n.id).getD .null = r.move ((setting.parameters.lookup n.id).getD .null) := by
    rw [same.parameters]
    exact Relocation.getD_move (r := r) _ Value.null
  unfold dispatch
  rw [same.registry, parameters]
  refine followsFrom_noting ?_
  extract_lets given send given' send'
  have sent (wait : Option Number) : FollowsFrom r h (send wait) (send' wait) := by
    refine followsFrom_scene fun s s' here moves => ?_
    obtain ⟨answers, later⟩ := Registry.answers_dispatch blind c.actionType sound held offered wait [] (here ▸ moves.heap)
    dsimp only
    rw [here]
    rcases dispatched : setting.registry.dispatch c.actionType input given wait ⟨h, []⟩ with ⟨outcome, desk⟩
    rcases dispatched' : setting.registry.dispatch c.actionType (r.move input) given' wait ⟨s'.heap, []⟩ with ⟨outcome', desk'⟩
    rw [dispatched, dispatched'] at answers later
    refine followsFrom_changing (fun s s' moves => moves.onHeap later.heap) fun h => ?_
    cases answers with
    | ok v =>
        rw [moves.now]
        refine followsFrom_onHeap (Eval.follows_newDict _) (fun f f' alike => ?_) fun report => ?_
        · exact follows_fail_of_alike alike
        · exact follows_pure rfl
    | error alike =>
        cases alike with
        | refused message actionType => exact follows_throw rfl h
        | fault alike => exact follows_fail_of_alike alike h
  split
  · refine followsFrom_lifting fun limit => ?_
    rw [pure_bind, pure_bind]
    exact sent (some limit)
  · rw [pure_bind, pure_bind]
    exact sent none

theorem follows_choose (same : setting'.workflow.outgoing n.id = setting.workflow.outgoing n.id) (c : ConditionConfig)
    (input : Value) : Follows r (choose setting n c input) (choose setting' n c (r.move input)) := by
  intro h
  unfold choose
  refine followsFrom_noting (followsFrom_scene fun s s' _ moves => ?_)
  have judged : Condition.evaluateOn s'.heap c.junction.name (r.move input) (.dict s'.vars) c.conditions =
      Condition.evaluateOn s.heap c.junction.name input (.dict s.vars) c.conditions := by
    rw [moves.vars]
    exact Condition.evaluateOn_move r moves.heap c.junction.name input (.dict s.vars) c.conditions
  rw [judged, same]
  refine followsFrom_lifting fun judged => followsFrom_noting ?_
  split
  · exact follows_pure rfl h
  · exact followsFrom_noting (follows_pure rfl h)

theorem follows_compute (c : TransformConfig) (input : Value) : Follows r (compute c input) (compute c (r.move input)) := by
  intro h
  unfold compute
  refine followsFrom_noting (followsFrom_scene fun s s' _ moves => ?_)
  rw [moves.vars]
  refine followsFrom_onHeap (Expression.follows_evaluate c.expression input (.dict s.vars)) (fun f f' alike => ?_) fun value => ?_
  · dsimp only
    rw [alike.2]
    exact follows_say _
  · have assigned (name : String) : Follows r (do
        change fun s => s.assign name value
        return value) (do
        change fun s => s.assign name (r.move value)
        return r.move value) :=
      fun h => followsFrom_changing (fun s s' moves => moves.assign name value) (follows_pure rfl)
    dsimp only
    split
    · split
      · exact assigned _
      · exact follows_pure rfl
    · exact follows_pure rfl

theorem follows_wait (c : DelayConfig) : Follows r (wait c) (wait c) := by
  intro h
  refine followsFrom_noting ?_
  refine fun t t' here moves => ⟨rfl, ⟨⟨moves.scene.heap, ?_, moves.scene.transport, moves.scene.vars, moves.scene.visits⟩, moves.lines⟩⟩
  exact congrArg (Clock.sleep · _) moves.scene.clock

theorem follows_request (same : setting'.requestLimit = setting.requestLimit) (c : ApiConfig) :
    Follows r (request setting c) (request setting' c) := by
  intro h
  unfold request
  rw [same]
  refine followsFrom_noting (followsFrom_lifting fun proof => followsFrom_lifting fun limit => ?_)
  refine followsFrom_scene fun s s' _ moves => ?_
  rw [moves.transport]
  dsimp only
  refine followsFrom_changing (fun s s' moves => ⟨moves.heap, moves.clock, rfl, moves.vars, moves.visits⟩) fun h => ?_
  split
  · exact follows_say _ h
  · exact follows_fail _ h
  · exact followsFrom_onHeap (Eval.follows_load _) (fun f f' alike => follows_fail_of_alike alike) (fun v => follows_pure rfl)

/-- The task of a node does the same with a moved input. -/
theorem followsFrom_perform (same : setting.Moves r n setting') (blind : setting.registry.IsBlind)
    (sound : h.Sound reserved) (offers : ∀ v, setting.parameters.lookup n.id = some v → Offers reserved h v)
    (held : Held reserved h input) :
    FollowsFrom r h (perform setting n input) (perform setting' n (r.move input)) := by
  have product (v : Value) (chosen : Option (List String)) : (r.move v, chosen) = r.move (v, chosen) :=
    Prod.ext rfl (r.move_fixed chosen).symm
  unfold perform
  split
  · exact follows_pure (product input none) h
  · exact followsFrom_bind (followsFrom_dispatch same blind sound offers _ held) fun v => follows_pure (product v none)
  · rename_i c task
    exact follows_choose (same.outgoing (by simp [Node.kind, Task.kind, task])) c input h
  · exact followsFrom_bind (follows_compute _ input h) fun v => follows_pure (product v none)
  · exact followsFrom_bind (follows_wait _ h) fun _ => follows_pure (product input none)
  · exact followsFrom_bind (follows_request same.requestLimit _ h) fun v => follows_pure (product v none)
  · exact followsFrom_noting (follows_pure (product input _) h)

/-- So does the whole of a visit around the task. -/
theorem followsFrom_complete {task task' : Node → Value → Act Product}
    (follows : FollowsFrom r h (task n input) (task' n (r.move input))) :
    FollowsFrom r h (complete task n input) (complete task' n (r.move input)) := by
  unfold complete
  refine followsFrom_noting (followsFrom_bind follows fun product h => ?_)
  refine followsFrom_scene fun s s' _ moves => ?_
  rw [r.fst_move, moves.heap.snapshot]
  exact followsFrom_bind (follows_lift rfl h) fun output => follows_pure rfl

end Tasks

end Act

end WorkflowEngine
