import WorkflowEngine.Proofs.Run.Task
import WorkflowEngine.Proofs.Walk.DepthFirst

/-!
# The course of a run

A run takes over its input, has the definition checked, and then walks it.  Until the walk begins there are
no visits.  The walk begins in a scene that differs from the one with the input only in the log.
-/

/-!
## What visits leave behind

A visit whose input can be read leaves one record more, in front of those that were there.  The record is
over when the visit is, whether the node completes or fails, and it keeps the input as it was read.
-/

namespace WorkflowEngine

/-- The visit is over: it ended at an instant and took as long as until then, and it either completed without
an error or failed with an error and without an output. -/
structure Visit.IsOver (v : Visit) : Prop where
  timed : ∃ last, v.finish = some last ∧ v.duration = some (v.start.millisecondsUntil last)
  ended : v.status = .completed ∧ v.error = none ∨ v.status = .failed ∧ v.output = .null ∧ ∃ e, v.error = some e

namespace Scene

variable {w : Workflow} {task : Node → Value → Act Product} {n : Node} {input : Value} {s t : Scene}
  {p : Passage RunFailure Value}

/-- What a visit comes to: its input cannot be read, or the node completes, or it fails. -/
inductive Visited (w : Workflow) (task : Node → Value → Act Product) (n : Node) (input : Value) (s : Scene) :
    Passage RunFailure Value → Scene → Prop where
  | unreadable {f : Fault} (faulty : s.heap.snapshot input = .error f) :
      Visited w task n input s (.stopped (.ofFault f)) s
  | completed {given : Data} {value : Value} {chosen : Option (List String)} {output : Data} {stage : Stage}
      (read : s.heap.snapshot input = .ok given)
      (done : (Act.complete task n input).run ⟨s, []⟩ = (.ok ((value, chosen), output), stage)) :
      Visited w task n input s (.onward value chosen) (completeVisit n (Visit.begin n given s.now) output stage)
  | failed {given : Data} {message : NodeFailure} {stage : Stage} (read : s.heap.snapshot input = .ok given)
      (done : (Act.complete task n input).run ⟨s, []⟩ = (.error message, stage)) :
      Visited w task n input s (failVisit w n (Visit.begin n given s.now) message stage).1
        (failVisit w n (Visit.begin n given s.now) message stage).2

theorem visited_of_visit (visited : visit w task n input s = (p, t)) : Visited w task n input s p t := by
  unfold visit at visited
  split at visited
  · rename_i f faulty
    cases visited
    exact .unreadable faulty
  · rename_i given read
    split at visited
    · rename_i value chosen output stage done
      cases visited
      exact .completed read done
    · rename_i message stage done
      have split : (p, t) = ((failVisit w n (Visit.begin n given s.now) message stage).1,
          (failVisit w n (Visit.begin n given s.now) message stage).2) := visited.symm
      cases split
      exact .failed read done

/-- The task of a node and what goes with it add no visit. -/
theorem complete_visits (steady : (task n input).Steady) {outcome : Except NodeFailure (Product × Data)} {stage : Stage}
    (done : (Act.complete task n input).run ⟨s, []⟩ = (outcome, stage)) : stage.scene.visits = s.visits := by
  have same := (Act.steady_discipline.complete steady ⟨s, []⟩).1
  rw [done] at same
  exact same

/-- A failing visit leaves a record of the failure, and changes the scene in nothing but the records and the log. -/
theorem failVisit_visits (w : Workflow) (n : Node) (begun : Visit) (message : NodeFailure) (stage : Stage) :
    ∃ v, (failVisit w n begun message stage).2.visits = v :: stage.scene.visits ∧ v.nodeId = begun.nodeId ∧
      v.input = begun.input ∧ v.output = begun.output ∧ v.status = .failed ∧ v.start = begun.start ∧
      v.finish = some stage.scene.now ∧ v.duration = some (begun.start.millisecondsUntil stage.scene.now) ∧
      ((∃ kept, keptMessage message = .ok kept) → ∃ e, v.error = some e) := by
  unfold failVisit
  dsimp only
  split
  · rename_i said unkept
    refine ⟨_, rfl, rfl, rfl, rfl, rfl, rfl, rfl, rfl, ?_⟩
    rintro ⟨kept, same⟩
    rw [unkept] at same
    cases same
  · split
    · exact ⟨_, rfl, rfl, rfl, rfl, rfl, rfl, rfl, rfl, fun _ => ⟨_, rfl⟩⟩
    · exact ⟨_, rfl, rfl, rfl, rfl, rfl, rfl, rfl, rfl, fun _ => ⟨_, rfl⟩⟩

/-- Whatever a visit comes to, it leaves the records that were there behind records that are over. -/
theorem Visited.ended (visited : Visited w task n input s p t) (steady : (task n input).Steady)
    (words : (task n input).SpeaksInWords) (before : ∀ v ∈ s.visits, v.IsOver) : ∀ v ∈ t.visits, v.IsOver := by
  cases visited with
  | unreadable faulty => exact before
  | completed read done =>
      rename_i given value chosen output stage
      have same := complete_visits steady done
      intro v listed
      rcases List.mem_cons.mp listed with rfl | old
      · exact ⟨⟨_, rfl, rfl⟩, .inl ⟨rfl, rfl⟩⟩
      · exact before v (same ▸ old)
  | failed read done =>
      rename_i given message stage
      have same := complete_visits steady done
      obtain ⟨v, visits, -, -, output, status, start, finish, duration, error⟩ :=
        failVisit_visits w n (Visit.begin n given s.now) message stage
      have kept := Act.inWords_discipline.complete words _ _ _ done
      intro v' listed
      rw [visits] at listed
      rcases List.mem_cons.mp listed with rfl | old
      · exact ⟨⟨_, finish, start ▸ duration⟩, .inr ⟨status, output, error kept⟩⟩
      · exact before v' (same ▸ old)

/-- Passing an output on changes the heap only. -/
theorem spread_eq (v : Value) (ids : List String) (s : Scene) : ∃ h, (spread v ids s).2 = { s with heap := h } := by
  unfold spread
  split
  · exact ⟨_, rfl⟩
  · split <;> exact ⟨_, rfl⟩

theorem spread_visits (v : Value) (ids : List String) (s : Scene) : (spread v ids s).2.visits = s.visits := by
  obtain ⟨h, same⟩ := spread_eq v ids s
  rw [same]

/-- Putting the parameters of actions on the heap changes the heap only. -/
theorem loadParameters_eq (done : List (String × Value)) (s : Scene) (nodes : List Node) :
    ∃ h, (loadParameters done s nodes).2 = { s with heap := h } := by
  induction nodes generalizing done s with
  | nil => exact ⟨s.heap, rfl⟩
  | cons n rest ih =>
      unfold loadParameters
      split
      · exact ih _ _
      · exact ih _ _

/-- The entries of a copied input: those of the dictionary that it is. -/
def entriesOf (h : Heap) (own : Value) : List (Value × Value) :=
  match own with
  | .dict a => h.entries a
  | _ => []

/-- Seeding the variables copies an input that is a dictionary once more and writes its entries, which have to
have names; it does nothing with other inputs. -/
theorem seed_cases {payload : Value} (seeded : s.seed payload = .ok t) :
    (∀ a, payload ≠ .dict a) ∧ t = s ∨
    ∃ a own copied named, payload = .dict a ∧ s.copy payload = .ok (own, copied) ∧
      variableEntries copied.heap (entriesOf copied.heap own) = .ok named ∧
      t = { copied with heap := copied.heap.write copied.vars (.dict (named.map fun e => (.str e.1, e.2))) } := by
  unfold seed at seeded
  split at seeded
  · rename_i a
    split at seeded
    · cases seeded
    · rename_i own copied taken
      extract_lets entries at seeded
      have told : entries = entriesOf copied.heap own := rfl
      rw [told] at seeded
      cases read : variableEntries copied.heap (entriesOf copied.heap own) with
      | ok named =>
          simp only [read, Except.ok.injEq] at seeded
          exact .inr ⟨a, own, copied, named, rfl, taken, read, seeded.symm⟩
      | refused issues =>
          simp only [read] at seeded
          cases seeded
      | failed f =>
          simp only [read] at seeded
          cases seeded
  · rename_i other
    cases seeded
    exact .inl ⟨fun a same => other a same, rfl⟩

/-- Copying a value changes the heap only. -/
theorem copy_eq {v fresh : Value} (copied : s.copy v = .ok (fresh, t)) :
    ∃ h, s.heap.copy v = .ok (fresh, h) ∧ t = { s with heap := h } := by
  unfold copy at copied
  cases outcome : s.heap.copy v with
  | error f =>
      rw [outcome] at copied
      cases copied
  | ok made =>
      rw [outcome] at copied
      cases copied
      exact ⟨_, rfl, rfl⟩

/-- Preparing a run changes the heap only. -/
theorem prepare_eq (s : Scene) (input : Data) : ∃ h, (s.prepare input).2 = { s with heap := h } := by
  unfold prepare
  dsimp only
  split
  · exact ⟨s.heap, rfl⟩
  · rename_i payload copied taken
    obtain ⟨h, -, rfl⟩ := copy_eq taken
    split
    · rename_i seeded sown
      rcases seed_cases sown with ⟨-, rfl⟩ | ⟨a, own, again, named, -, twice, -, rfl⟩
      · exact ⟨h, rfl⟩
      · obtain ⟨h', -, rfl⟩ := copy_eq twice
        exact ⟨_, rfl⟩
    · exact ⟨s.heap, rfl⟩

end Scene

end WorkflowEngine

/-! ## The course of a run -/

namespace WorkflowEngine.Order

variable {o : Order} {payload : Value} {s t : Scene}

/-- The scene in which the walk begins, unless the definition keeps it from beginning. -/
def opening? (o : Order) (s : Scene) : Option Scene :=
  match o.report with
  | .error _ => none
  | .ok report =>
    if !report.valid || o.workflow.triggers.isEmpty then none
    else some (o.opening report (s.note .info "Validating workflow structure"))

/-- The line that warns about a definition. -/
def warning (s : Scene) (w : DefinitionWarning) : LogLine :=
  s.line .warn ("Validation warning: " ++ w.message) (Data.ofFields [("nodeId", .ofStr? w.nodeId), ("type", .str w.kind.name)])

/-- The lines of a run before its walk: that the definition is checked, the warnings about it, and that the walk
begins if it does. -/
def announcements (o : Order) (s : Scene) : List LogLine :=
  s.line .info "Validating workflow structure" .null ::
    match o.report with
    | .error _ => []
    | .ok report =>
      report.warnings.map (warning s) ++
        if !report.valid || o.workflow.triggers.isEmpty then []
        else [s.line .info ("Starting workflow execution with " ++ toString o.workflow.triggers.length ++ " trigger(s)") .null]

theorem warn_eq (s : Scene) (warnings : List DefinitionWarning) :
    s.warn warnings = { s with log := (warnings.map (warning s)).reverse ++ s.log } := by
  unfold Scene.warn
  induction warnings generalizing s with
  | nil => rfl
  | cons w rest ih =>
      rw [List.foldl_cons, ih, List.map_cons, List.reverse_cons, List.append_assoc]
      rfl

/-- The walk begins in the scene before it, with the announcements in the log. -/
theorem opening?_eq (opened : o.opening? s = some t) : t = { s with log := (o.announcements s).reverse ++ s.log } := by
  unfold opening? at opened
  unfold announcements
  split at opened
  · cases opened
  · split at opened
    · cases opened
    · rename_i report checked begins
      cases opened
      rw [opening, warn_eq]
      simp [begins, Scene.note, Scene.write, warning, Scene.line, Scene.now]

/-- A definition that keeps the walk from beginning makes the run fail in words, after what there is to announce. -/
theorem proceed_of_none (payload : Value) (closed : o.opening? s = none) :
    ∃ e words, e.message = .str words ∧
      o.proceed payload s = (.error e, { s with log := (o.announcements s).reverse ++ s.log }) := by
  unfold opening? at closed
  unfold proceed announcements
  dsimp only
  cases checked : o.report with
  | error f => exact ⟨.ofFault f, _, rfl, rfl⟩
  | ok report =>
      rw [checked] at closed
      dsimp only at closed ⊢
      have warned : (s.note .info "Validating workflow structure").warn report.warnings =
          { s with log := (s.line .info "Validating workflow structure" .null :: report.warnings.map (warning s)).reverse ++ s.log } := by
        rw [warn_eq, List.reverse_cons, List.append_assoc]
        rfl
      cases valid : report.valid with
      | false =>
          refine ⟨invalid report, _, rfl, ?_⟩
          rw [warned]
          simp
      | true =>
          cases lacking : o.workflow.triggers.isEmpty with
          | false => simp [valid, lacking] at closed
          | true =>
              refine ⟨.say "Workflow must have at least one trigger node", _, rfl, ?_⟩
              rw [warned]
              simp

/-- Otherwise the run is the walk. -/
theorem proceed_of_some (opened : o.opening? s = some t) :
    o.proceed payload s = (o.outcome (o.walk payload t).1, (o.walk payload t).2) := by
  unfold opening? at opened
  unfold proceed
  dsimp only
  cases checked : o.report with
  | error f =>
      rw [checked] at opened
      cases opened
  | ok report =>
      rw [checked] at opened
      dsimp only at opened ⊢
      split at opened
      · cases opened
      · rename_i open_
        cases opened
        simp only [Bool.or_eq_true, not_or, Bool.not_eq_true', Bool.not_eq_true] at open_
        simp only [open_, Bool.not_true, Bool.false_eq_true, if_false]

/-- Where the walk of a run sets out: the copy of the input, the parameters of actions as they stand on the heap,
and the scene. -/
structure Outset where
  payload : Value
  parameters : List (String × Value)
  scene : Scene

/-- Where the walk of a run sets out, unless the input or the definition keeps it from doing so. -/
def outset? (o : Order) (s : Scene) : Option Outset :=
  match s.prepare o.input with
  | (.error _, _) => none
  | (.ok payload, t) =>
    (o.opening? t).map fun u =>
      let (parameters, v) := Scene.loadParameters [] u o.workflow.nodes
      ⟨payload, parameters, v⟩

/-- What a walk sets out from: a prepared input, and the scene behind it with the parameters on the heap. -/
theorem outset?_eq_some {b : Outset} (begun : o.outset? s = some b) :
    ∃ t log, s.prepare o.input = (.ok b.payload, t) ∧ o.opening? t = some { t with log := log } ∧
      Scene.loadParameters [] { t with log := log } o.workflow.nodes = (b.parameters, b.scene) := by
  unfold outset? at begun
  split at begun
  · cases begun
  · rename_i payload t prepared
    obtain ⟨u, opened, rfl⟩ := Option.map_eq_some_iff.mp begun
    cases opening?_eq opened
    exact ⟨t, _, prepared, opened, rfl⟩

/-- No visit is taken before the walk sets out. -/
theorem visits_of_outset {b : Outset} (begun : o.outset? s = some b) : b.scene.visits = s.visits := by
  obtain ⟨t, log, prepared, -, loaded⟩ := outset?_eq_some begun
  obtain ⟨h, prior⟩ := Scene.prepare_eq s o.input
  obtain ⟨h', loading⟩ := Scene.loadParameters_eq [] { t with log := log } o.workflow.nodes
  rw [prepared] at prior
  rw [loaded] at loading
  replace loading : b.scene = _ := loading
  replace prior : t = _ := prior
  rw [loading, prior]

/-- A run whose walk sets out is that walk. -/
theorem carryOut_of_outset {b : Outset} (begun : o.outset? s = some b) :
    (o.carryOut s).2 = (o.walkWith (o.task b.parameters) b.payload b.scene).2 := by
  obtain ⟨t, log, prepared, opened, loaded⟩ := outset?_eq_some begun
  unfold carryOut
  rw [prepared]
  change (o.proceed b.payload t).2 = _
  rw [proceed_of_some opened]
  dsimp only
  unfold walk
  rw [loaded]

/-- A run whose walk does not set out ends where it was prepared, or where it could not be. -/
theorem carryOut_of_no_outset (closed : o.outset? s = none) :
    (∃ e, s.prepare o.input = (.error e, (o.carryOut s).2)) ∨
      ∃ payload t, s.prepare o.input = (.ok payload, t) ∧
        (o.carryOut s).2 = { t with log := (o.announcements t).reverse ++ t.log } := by
  unfold outset? at closed
  unfold carryOut
  split at closed
  · rename_i e t refused
    rw [refused]
    exact .inl ⟨e, rfl⟩
  · rename_i payload t accepted
    rw [accepted]
    obtain ⟨e, -, -, failed⟩ := proceed_of_none payload (Option.map_eq_none_iff.mp closed)
    exact .inr ⟨payload, t, rfl, congrArg Prod.snd failed⟩

/-- So it takes no visit. -/
theorem visits_of_no_outset (closed : o.outset? s = none) : (o.carryOut s).2.visits = s.visits := by
  obtain ⟨h, prepared⟩ := Scene.prepare_eq s o.input
  rcases carryOut_of_no_outset closed with ⟨e, refused⟩ | ⟨payload, t, accepted, ended⟩
  · rw [refused] at prepared
    replace prepared : (o.carryOut s).2 = _ := prepared
    rw [prepared]
  · rw [accepted] at prepared
    replace prepared : t = _ := prepared
    rw [ended, prepared]

end WorkflowEngine.Order
