import WorkflowEngine.Engine.Visit
import WorkflowEngine.Proofs.Relocation.Task

/-!
# Visits on moved heaps

A visit with a moved input leaves a record with other marks and the same messages, and passes on a moved output.  What
is handed on to several nodes is copied on both heaps to places that belong together.
-/

namespace WorkflowEngine

variable {r : Relocation} {α ε : Type} [Movable α] [Movable ε]

/-- The failure of a run with other marks in its message. -/
instance : Movable RunFailure where
  moved r e := { e with message := r.move e.message }

instance : Movable (Passage ε α) where
  moved r
    | .ended => .ended
    | .stopped e => .stopped (r.move e)
    | .onward output chosen => .onward (r.move output) chosen

theorem keptMessage_move (message : Data) : keptMessage (r.move message) = keptMessage message := by
  have text : Reading.text (r.move message) = Reading.text message := by cases message <;> rfl
  have notice (title : String) (issues : List Issue) : Finding.notice title (issues.map fun i => ⟨i, r.move message⟩) =
      Finding.notice title (issues.map fun i => ⟨i, message⟩) := by
    simp only [Finding.notice, List.length_map, List.map_map, Function.comp_def, Finding.text, Data.source_move, Data.kindOf_move]
  unfold keptMessage
  rw [text]
  cases (Reading.text message).inside "message" with
  | ok kept => rfl
  | refused issues => exact congrArg Except.error (notice _ issues)
  | failed f => rfl

namespace Scene

variable {reserved : Address → Prop} {s s' : Scene} {w w' : Workflow} {task task' : Node → Value → Act Product}
  {n : Node} {input v : Value}

theorem Moves.keep (moves : s.Moves r s') (record : Visit) : (s.keep record).Moves r (s'.keep (r.move record)) :=
  ⟨moves.heap, moves.clock, moves.transport, moves.vars, congrArg (r.move record :: ·) moves.visits⟩

theorem moves_completeVisit {t t' : Stage} (moves : t.Moves r t') (n : Node) (begun : Visit) (output : Data) :
    (completeVisit n begun output t).Moves r (completeVisit n (r.move begun) (r.move output) t') := by
  unfold completeVisit
  rw [moves.scene.now, moves.lines]
  dsimp only
  rw [moves.scene.line]
  exact (moves.scene.write _ _).keep _

/-- A failed visit is followed by one that fails with the moved message. -/
theorem moves_failVisit {t t' : Stage} (moves : t.Moves r t') (settings : w'.errorHandling = w.errorHandling) (n : Node)
    (begun : Visit) (message : NodeFailure) :
    (failVisit w' n (r.move begun) (r.move message) t').1 = r.move (failVisit w n begun message t).1 ∧
      (failVisit w n begun message t).2.Moves r (failVisit w' n (r.move begun) (r.move message) t').2 := by
  unfold failVisit
  rw [keptMessage_move, settings, moves.scene.now, moves.lines, Data.text_move]
  dsimp only
  rw [moves.scene.line]
  cases keptMessage message with
  | error said => exact ⟨rfl, moves.scene.keep _⟩
  | ok kept =>
      cases w.errorHandling with
      | stop => exact ⟨rfl, (moves.scene.write _ _).keep _⟩
      | «continue» => exact ⟨rfl, (moves.scene.write _ _).keep _⟩

/-- A visit with a moved input passes on a moved output, if the task of the node does. -/
theorem moves_visit (moves : s.Moves r s') (settings : w'.errorHandling = w.errorHandling)
    (follows : Act.FollowsFrom r s.heap (task n input) (task' n (r.move input))) :
    (visit w' task' n (r.move input) s').1 = r.move (visit w task n input s).1 ∧
      (visit w task n input s).2.Moves r (visit w' task' n (r.move input) s').2 := by
  unfold visit
  rw [moves.heap.snapshot]
  cases s.heap.snapshot input with
  | error f => exact ⟨rfl, moves⟩
  | ok given =>
      have begun : Visit.begin n (r.move given) s'.now = r.move (Visit.begin n given s.now) := by
        rw [moves.now]
        rfl
      have stages : Stage.Moves r ⟨s, []⟩ ⟨s', []⟩ := ⟨moves, rfl⟩
      obtain ⟨same, later⟩ := Act.followsFrom_complete follows rfl stages
      rw [r.move_ok]
      dsimp only
      rw [begun]
      rcases ran : (Act.complete task n input).run ⟨s, []⟩ with ⟨outcome, t⟩
      rcases ran' : (Act.complete task' n (r.move input)).run ⟨s', []⟩ with ⟨outcome', t'⟩
      rw [ran, ran'] at same later
      replace same : outcome' = r.move outcome := same
      subst same
      rcases outcome with message | ⟨⟨value, chosen⟩, output⟩
      · exact moves_failVisit later settings n _ message
      · have moved : r.move ((value, chosen), output) = ((r.move value, chosen), r.move output) :=
          Prod.ext (Prod.ext rfl (r.move_fixed chosen)) rfl
        rw [r.move_ok, moved]
        exact ⟨rfl, moves_completeVisit later n _ output⟩

/-- Copies of a free value and of the moved one are moved copies. -/
theorem moves_copies {h h' : Heap} (moves : h.Moves r h') (sound : h.Sound reserved) (held : Held reserved h v)
    (done : List (String × Value)) (ids : List String) :
    (copies (r.move v) (r.move done) h' ids).1 = r.move (copies v done h ids).1 ∧
      (copies v done h ids).2.Moves r (copies (r.move v) (r.move done) h' ids).2 := by
  induction ids generalizing h h' done with
  | nil => exact ⟨congrArg Except.ok (r.move_reverse done).symm, moves⟩
  | cons id rest ih =>
      have answers := moves.copy sound held
      unfold copies
      cases made : h.copy v with
      | error f =>
          rw [made] at answers
          cases made' : h'.copy (r.move v) with
          | error f' =>
              rw [made'] at answers
              cases answers
              exact ⟨rfl, moves⟩
          | ok result =>
              rw [made'] at answers
              cases answers
      | ok result =>
          obtain ⟨fresh, h1⟩ := result
          have copy := Heap.copyOf_of_copy sound held made
          rw [made] at answers
          cases made' : h'.copy (r.move v) with
          | error f' =>
              rw [made'] at answers
              cases answers
          | ok result' =>
              rw [made'] at answers
              cases answers with
              | ok later => exact ih later copy.grown.sound (Held.grown held copy.grown) ((id, fresh) :: done)

/-- A moved output is handed on as moved inputs. -/
theorem moves_spread (moves : s.Moves r s') (sound : s.heap.Sound reserved) (held : Held reserved s.heap v)
    (ids : List String) :
    (spread (r.move v) ids s').1 = r.move (spread v ids s).1 ∧ (spread v ids s).2.Moves r (spread (r.move v) ids s').2 := by
  obtain ⟨same, later⟩ := moves_copies moves.heap sound held [] ids
  unfold spread
  split
  · exact ⟨rfl, moves⟩
  · rw [r.move_nil] at same later
    rcases made : copies v [] s.heap ids with ⟨outcome, h⟩
    rcases made' : copies (r.move v) [] s'.heap ids with ⟨outcome', h'⟩
    rw [made, made'] at same later
    cases same
    cases outcome with
    | error f => exact ⟨rfl, moves.onHeap later⟩
    | ok inputs => exact ⟨rfl, moves.onHeap later⟩

end Scene

end WorkflowEngine

/-!
## Data without marks

Marks tell missing numbers apart, and the owners of methods.  They are given as a run goes on and are written nowhere.
Two records say the same if they are equal without marks, and a relocation changes nothing but marks.
-/

namespace WorkflowEngine

namespace Data

mutual

/-- The data with all missing numbers alike, and methods without the marks of their owners. -/
def bare : Data → Data
  | .nan _ => .nan 0
  | .list items => .list (bareItems items)
  | .tuple items => .tuple (bareItems items)
  | .set items => .set (bareItems items)
  | .dict entries => .dict (bareEntries entries)
  | .method owner name _ => .method owner name 0
  | .slice lower upper step => .slice (bare lower) (bare upper) (bare step)
  | d => d

/-- Items without marks. -/
def bareItems : List Data → List Data
  | [] => []
  | item :: rest => bare item :: bareItems rest

/-- Entries without marks. -/
def bareEntries : List (Data × Data) → List (Data × Data)
  | [] => []
  | (key, value) :: rest => (bare key, bare value) :: bareEntries rest

end

section Marks

variable (r : Relocation)

mutual

/-- A relocation changes nothing but marks. -/
theorem bare_move (d : Data) : (r.move d).bare = d.bare := by
  cases d with
  | list items => rw [r.move_data_list, bare, bare, bareItems_move items]
  | tuple items => rw [r.move_data_tuple, bare, bare, bareItems_move items]
  | set items => rw [r.move_data_set, bare, bare, bareItems_move items]
  | dict entries => rw [r.move_data_dict, bare, bare, bareEntries_move entries]
  | slice lower upper step =>
      have parts := congr (congr (congrArg Data.slice (bare_move lower)) (bare_move upper)) (bare_move step)
      exact parts
  | _ => rfl

theorem bareItems_move (items : List Data) : bareItems (r.move items) = bareItems items := by
  cases items with
  | nil => rfl
  | cons item rest => rw [r.move_cons, bareItems, bareItems, bare_move item, bareItems_move rest]

theorem bareEntries_move (entries : List (Data × Data)) : bareEntries (r.move entries) = bareEntries entries := by
  rcases entries with _ | ⟨⟨key, value⟩, rest⟩
  · rfl
  · rw [r.move_cons, r.move_pair, bareEntries, bareEntries, bare_move key, bare_move value, bareEntries_move rest]

end

end Marks

end Data

/-- The record of a visit without marks. -/
def Visit.bare (v : Visit) : Visit :=
  { v with input := v.input.bare, output := v.output.bare }

/-- The record of a run without marks. -/
def Run.bare (record : Run) : Run :=
  { record with visits := record.visits.map Visit.bare, vars := record.vars.bare }

variable {r : Relocation}

theorem Visit.bare_move (v : Visit) : (r.move v).bare = v.bare := by
  have parts := congr (congrArg (fun input output => ({ v with input := input, output := output } : Visit))
    (Data.bare_move r v.input)) (Data.bare_move r v.output)
  exact parts

/-- Where runs end in scenes that belong together, with the same failure up to marks if there is one, their records say
the same. -/
theorem Order.settle_bare {pending : Run} {outcome : Except RunFailure Unit} {s s' : Scene} (moves : s.Moves r s') :
    (settle pending (r.move outcome) s').1.bare = (settle pending outcome s).1.bare := by
  have visits : s'.visits.reverse.map Visit.bare = s.visits.reverse.map Visit.bare := by
    rw [moves.visits, ← r.move_reverse, Relocation.move_list, List.map_map]
    exact List.map_congr_left fun v _ => Visit.bare_move v
  have vars : s'.variablesData.bare = s.variablesData.bare := by
    rw [moves.variablesData, Data.bare_move]
  cases outcome with
  | ok _ =>
      simp only [r.move_ok, settle, Run.bare, visits, vars, moves.now]
  | error e =>
      have message : keptMessage (r.move e).message = keptMessage e.message := keptMessage_move e.message
      simp only [r.move_error, settle, Run.bare, visits, vars, moves.now, message]
      rfl

end WorkflowEngine
