import WorkflowEngine.Proofs.Run.Record

/-!
# The log of a run

A line that is written while a node is visited goes into two logs, that of the run and that of the visit, and all
other lines go into that of the run alone.  So the log of a run is made of the lines before the walk, the logs of
its visits one after the other, and one last line.  The log of a visit begins with the line that names the node, and
it ends with one that says how the visit ended, unless that could not be kept.  The lines come in the order of their
instants as long as no step sets the clock back.
-/

namespace WorkflowEngine

namespace Visit

/-- The line with which a visit to a node begins. -/
def openingLine (n : Node) (v : Visit) : LogLine :=
  ⟨v.start, .info, "Executing node: " ++ n.displayName ++ " (" ++ n.kind.name ++ ")", .null⟩

/-- The lines with which a visit to a node may end: it completed in some time, or it failed with the message that
its record keeps. -/
inductive ClosingLine (n : Node) (v : Visit) : LogLine → Prop where
  | completed {now : Instant} (status : v.status = .completed) (finish : v.finish = some now) :
      ClosingLine n v ⟨now, .info, "Node completed: " ++ n.displayName ++ " (" ++ v.durationText ++ "ms)", .null⟩
  | failed {now : Instant} {message : NodeFailure} {e : RunError} (status : v.status = .failed)
      (finish : v.finish = some now) (error : v.error = some e) (kept : keptMessage message = .ok e.message) :
      ClosingLine n v ⟨now, .error, "Node failed: " ++ n.displayName ++ " - " ++ message.text, .null⟩

/-- The log of a visit begins with the line that names its node. -/
def IsOpened (w : Workflow) (v : Visit) : Prop :=
  ∃ n rest, w.node? v.nodeId = some n ∧ v.log = v.openingLine n :: rest

/-- The log of a visit ends with the line that says how it ended. -/
def IsClosed (w : Workflow) (v : Visit) : Prop :=
  ∃ n first last, w.node? v.nodeId = some n ∧ v.ClosingLine n last ∧ v.log = first ++ [last]

/-- The log of a visit begins as it should, and ends so unless the visit failed with what cannot be kept. -/
structure IsTold (w : Workflow) (v : Visit) : Prop where
  opened : v.IsOpened w
  closed : v.IsClosed w ∨ v.status = .failed ∧ v.error = none

/-- The log of a visit that is over ends as it should. -/
theorem IsTold.closed_of_isOver {w : Workflow} {v : Visit} (told : v.IsTold w) (done : v.IsOver) : v.IsClosed w := by
  rcases told.closed with closed | ⟨failed, unkept⟩
  · exact closed
  · rcases done.ended with ⟨completed, -⟩ | ⟨-, -, e, kept⟩
    · rw [failed] at completed
      cases completed
    · rw [unkept] at kept
      cases kept

end Visit

/-- The lines with which a run ends: it completed in some time, or it failed with the message that its record keeps. -/
inductive Run.ClosingLine (r : Run) : LogLine → Prop where
  | completed {now : Instant} {span : Float} (status : r.status = .completed) (finish : r.finish = some now)
      (duration : r.duration = some span) :
      ClosingLine r ⟨now, .info, "Workflow completed in " ++ wholeMilliseconds span ++ "ms", .null⟩
  | failed {now : Instant} {message : Data} {e : RunError} (status : r.status = .failed) (finish : r.finish = some now)
      (error : r.error = some e) (kept : keptMessage message = .ok e.message) :
      ClosingLine r ⟨now, .error, "Workflow failed: " ++ message.text, .null⟩

/-- The lines come in the order of their instants, which lie between two given ones. -/
structure Paced (first last : Instant) (lines : List LogLine) : Prop where
  ordered : lines.Pairwise fun l m => l.time.micros ≤ m.time.micros
  after : ∀ l ∈ lines, first.micros ≤ l.time.micros
  before : ∀ l ∈ lines, l.time.micros ≤ last.micros

namespace Paced

variable {first middle last : Instant} {lines more : List LogLine}

theorem nil : Paced first last [] :=
  ⟨.nil, nofun, nofun⟩

/-- Lines of one instant are paced between any two around it. -/
theorem of_same {now : Instant} (same : ∀ l ∈ lines, l.time = now) (after : first.micros ≤ now.micros)
    (before : now.micros ≤ last.micros) : Paced first last lines where
  ordered := List.pairwise_of_forall_mem_list fun l listed m listed' =>
    Int.le_of_eq (congrArg Instant.micros ((same l listed).trans (same m listed').symm))
  after l listed := same l listed ▸ after
  before l listed := same l listed ▸ before

/-- Lines between two instants and lines from the second on are paced together. -/
theorem append (paced : Paced first middle lines) (rest : Paced middle last more)
    (rising : first.micros ≤ middle.micros) (rising' : middle.micros ≤ last.micros) :
    Paced first last (lines ++ more) where
  ordered := List.pairwise_append.mpr ⟨paced.ordered, rest.ordered, fun l listed m listed' =>
    Int.le_trans (paced.before l listed) (rest.after m listed')⟩
  after l listed := by
    rcases List.mem_append.mp listed with earlier | later
    · exact paced.after l earlier
    · exact Int.le_trans rising (rest.after l later)
  before l listed := by
    rcases List.mem_append.mp listed with earlier | later
    · exact Int.le_trans (paced.before l earlier) rising'
    · exact rest.before l later

end Paced

namespace Act

variable {α : Type} {setting : Setting} {n : Node} {input : Value}

/-- Work writes its lines into both logs, all of them at the instant at which it begins. -/
def Writes (a : Act α) : Prop :=
  ∀ stage, ∃ more, (a.run stage).2.lines = more ++ stage.lines ∧
    (a.run stage).2.scene.log = more ++ stage.scene.log ∧ ∀ l ∈ more, l.time = stage.scene.now

/-- Work writes its lines so while the clock stands still. -/
def WritesAtOnce (a : Act α) : Prop :=
  a.Writes ∧ ∀ stage, (a.run stage).2.scene.clock = stage.scene.clock

/-- What comes after work at which the clock stands still writes at the same instant. -/
theorem Writes.bind {β : Type} {a : Act α} {k : α → Act β} (first : a.WritesAtOnce) (rest : ∀ v, (k v).Writes) :
    (a >>= k).Writes := by
  intro stage
  obtain ⟨more, lines, log, times⟩ := first.1 stage
  have still := first.2 stage
  rw [run_bind]
  rcases ran : a.run stage with ⟨outcome, middle⟩
  rw [ran] at lines log still
  cases outcome with
  | error e => exact ⟨more, lines, log, times⟩
  | ok v =>
      obtain ⟨more', lines', log', times'⟩ := rest v middle
      refine ⟨more' ++ more, ?_, ?_, fun l listed => ?_⟩
      · rw [lines', lines, List.append_assoc]
      · rw [log', log, List.append_assoc]
      · rcases List.mem_append.mp listed with later | earlier
        · exact (times' l later).trans (congrArg Clock.now still)
        · exact times l earlier

theorem writesAtOnce_discipline : Discipline @WritesAtOnce where
  pure _ := ⟨fun _ => ⟨[], rfl, rfl, nofun⟩, fun _ => rfl⟩
  say _ := ⟨fun _ => ⟨[], rfl, rfl, nofun⟩, fun _ => rfl⟩
  scene := ⟨fun _ => ⟨[], rfl, rfl, nofun⟩, fun _ => rfl⟩
  note _ _ _ := ⟨fun _ => ⟨[_], rfl, rfl, by simp [Scene.line]⟩, fun _ => rfl⟩
  change f keeps := by
    refine ⟨fun stage => ⟨[], rfl, ?_, nofun⟩, fun stage => ?_⟩
    · change (f stage.scene).log = stage.scene.log
      rw [keeps]
    · change (f stage.scene).clock = stage.scene.clock
      rw [keeps]
  bind first second := by
    refine ⟨Writes.bind first fun v => (second v).1, fun stage => ?_⟩
    have before := first.2 stage
    rw [run_bind]
    rcases ran : run _ stage with ⟨outcome, middle⟩
    rw [ran] at before
    cases outcome with
    | error e => exact before
    | ok v => exact ((second v).2 middle).trans before

/-- The tasks of all kinds of nodes write their lines at the instant at which they begin: a node that waits says so
before it does. -/
theorem writes_perform (setting : Setting) (n : Node) (input : Value) : (perform setting n input).Writes := by
  by_cases waits : ∃ c, n.task = .delay c
  · obtain ⟨c, task⟩ := waits
    rw [perform, task]
    exact fun _ => ⟨[_], rfl, rfl, by simp [Scene.line]⟩
  · refine (writesAtOnce_discipline.perform ?_ (fun c task => absurd ⟨c, task⟩ waits) input).1
    intro name input parameters wait d e d' refused
    exact ⟨fun _ => ⟨[], rfl, rfl, List.forall_mem_nil _⟩, fun _ => rfl⟩

/-- A visit begins with the line that names its node, and writes its lines into both logs at once. -/
theorem writes_complete {task : Node → Value → Act Product} {n : Node} {input : Value} (writes : (task n input).Writes)
    (s : Scene) : let stage := ((complete task n input).run ⟨s, []⟩).2
    ∃ more, stage.lines = more ++ [s.line .info ("Executing node: " ++ n.displayName ++ " (" ++ n.kind.name ++ ")") .null] ∧
      stage.scene.log = stage.lines ++ s.log ∧ ∀ l ∈ stage.lines, l.time = s.now := by
  intro stage
  let first := s.line .info ("Executing node: " ++ n.displayName ++ " (" ++ n.kind.name ++ ")") .null
  have left : stage = ((task n input).run ⟨s.write first, [first]⟩).2 := run_complete_stage task n input ⟨s, []⟩
  obtain ⟨more, lines, log, times⟩ := writes ⟨s.write first, [first]⟩
  rw [← left] at lines log
  refine ⟨more, lines, ?_, fun l listed => ?_⟩
  · rw [lines, List.append_assoc]
    exact log
  · rw [lines] at listed
    rcases List.mem_append.mp listed with later | earlier
    · exact times l later
    · rw [List.mem_singleton.mp earlier]
      rfl

end Act

namespace Scene

variable {w : Workflow} {task : Node → Value → Act Product} {n : Node} {input : Value} {s t : Scene}
  {p : Passage RunFailure Value}

/-- The record of a visit is kept with the lines of the visit and, unless the visit failed with what cannot be kept,
a closing one, which goes into the log of the run as well. -/
structure KeepsLog (n : Node) (begun : Visit) (stage : Stage) (t : Scene) (v : Visit) (closing : List LogLine) : Prop where
  visits : t.visits = v :: stage.scene.visits
  log : t.log = closing.reverse ++ stage.scene.log
  clock : t.clock = stage.scene.clock
  nodeId : v.nodeId = begun.nodeId
  start : v.start = begun.start
  lines : v.log = stage.lines.reverse ++ closing
  times : ∀ l ∈ closing, l.time = stage.scene.now
  closes : (∃ last, closing = [last] ∧ v.ClosingLine n last) ∨ v.status = .failed ∧ v.error = none

theorem completeVisit_kept (n : Node) (begun : Visit) (output : Data) (stage : Stage) :
    ∃ v closing, KeepsLog n begun stage (completeVisit n begun output stage) v closing := by
  exact ⟨_, [_], rfl, rfl, rfl, rfl, rfl, List.reverse_cons, List.forall_mem_singleton.mpr rfl,
    .inl ⟨_, rfl, .completed rfl rfl⟩⟩

theorem failVisit_kept (w : Workflow) (n : Node) (begun : Visit) (message : NodeFailure) (stage : Stage)
    (fresh : begun.error = none) : ∃ v closing, KeepsLog n begun stage (failVisit w n begun message stage).2 v closing := by
  unfold failVisit
  dsimp only
  split
  · exact ⟨_, [], rfl, rfl, rfl, rfl, rfl, (List.append_nil _).symm, nofun, .inr ⟨rfl, fresh⟩⟩
  · rename_i kept told
    have times : ∀ l ∈ [stage.scene.line .error ("Node failed: " ++ n.displayName ++ " - " ++ message.text) .null],
        l.time = stage.scene.now := List.forall_mem_singleton.mpr rfl
    split
    · exact ⟨_, [_], rfl, rfl, rfl, rfl, rfl, List.reverse_cons, times, .inl ⟨_, rfl, .failed rfl rfl rfl told⟩⟩
    · exact ⟨_, [_], rfl, rfl, rfl, rfl, rfl, List.reverse_cons, times, .inl ⟨_, rfl, .failed rfl rfl rfl told⟩⟩

/-- A record that is kept with the lines of its visit tells of the visit, and its log goes into the log of the run. -/
theorem KeepsLog.visit_logs {outcome : Except NodeFailure (Product × Data)} {given : Data} {stage : Stage} {v : Visit}
    {closing : List LogLine} (kept : KeepsLog n (Visit.begin n given s.now) stage t v closing)
    (steady : (task n input).Steady) (writes : (task n input).Writes) (found : w.node? n.id = some n)
    (done : (Act.complete task n input).run ⟨s, []⟩ = (outcome, stage)) :
    t.visits = v :: s.visits ∧ t.log = v.log.reverse ++ s.log ∧ v.IsTold w ∧
      (s.now.micros ≤ t.now.micros → Paced s.now t.now v.log) := by
  obtain ⟨more, lines, log, times⟩ := Act.writes_complete writes s
  rw [done] at lines log times
  have known : w.node? v.nodeId = some n := kept.nodeId ▸ found
  have opened : v.IsOpened w := by
    refine ⟨n, more.reverse ++ closing, known, ?_⟩
    rw [kept.lines, lines, Visit.openingLine, kept.start]
    simp [line, Visit.begin]
  have now : t.now = stage.scene.now := congrArg Clock.now kept.clock
  refine ⟨?_, ?_, ⟨opened, ?_⟩, fun rising => ?_⟩
  · rw [kept.visits, complete_visits steady done]
  · rw [kept.log, kept.lines, log]
    simp
  · rcases kept.closes with ⟨last, only, closes⟩ | unkept
    · exact .inl ⟨n, stage.lines.reverse, last, known, closes, by rw [kept.lines, only]⟩
    · exact .inr unkept
  · rw [now] at rising ⊢
    rw [kept.lines]
    exact (Paced.of_same (fun l listed => times l (List.mem_reverse.mp listed)) (Int.le_refl _) (Int.le_refl _)).append
      (.of_same kept.times rising (Int.le_refl _)) (Int.le_refl _) rising

/-- A visit leaves nothing, or a record the log of which goes into the log of the run. -/
theorem visit_logs (steady : (task n input).Steady) (writes : (task n input).Writes) (found : w.node? n.id = some n)
    (visited : visit w task n input s = (p, t)) :
    t = s ∨ ∃ v : Visit, t.visits = v :: s.visits ∧ t.log = v.log.reverse ++ s.log ∧ v.IsTold w ∧
      (s.now.micros ≤ t.now.micros → Paced s.now t.now v.log) := by
  cases visited_of_visit visited with
  | unreadable faulty => exact .inl rfl
  | completed read done =>
      obtain ⟨v, closing, kept⟩ := completeVisit_kept n (Visit.begin n _ s.now) _ _
      exact .inr ⟨v, kept.visit_logs steady writes found done⟩
  | failed read done =>
      obtain ⟨v, closing, kept⟩ := failVisit_kept w n (Visit.begin n _ s.now) _ _ rfl
      exact .inr ⟨v, kept.visit_logs steady writes found done⟩

end Scene

namespace Order

variable {o : Order} {s t : Scene} {first : List LogLine} {start : Instant}

/-- The log is made of some lines and the logs of the visits, which are as they should be. -/
structure Logged (w : Workflow) (first : List LogLine) (s : Scene) : Prop where
  log : s.log.reverse = first ++ s.visits.reverse.flatMap Visit.log
  told : ∀ v ∈ s.visits, v.IsTold w

/-- The log goes on with that of one visit more. -/
theorem Logged.visit {w : Workflow} {v : Visit} (logged : Logged w first s) (visits : t.visits = v :: s.visits)
    (log : t.log = v.log.reverse ++ s.log) (told : v.IsTold w) : Logged w first t := by
  refine ⟨?_, visits ▸ List.forall_mem_cons.mpr ⟨told, logged.told⟩⟩
  rw [log, visits, List.reverse_append, List.reverse_reverse, logged.log, List.reverse_cons, List.flatMap_append]
  simp

/-- A step does not set the clock back. -/
def Rises (o : Order) (parameters : List (String × Value)) (step : NodeStep Scene Value) : Prop :=
  step.before.now.micros ≤ ((o.guide (o.task parameters)).visit step.node step.input step.before).2.now.micros

instance (o : Order) (parameters : List (String × Value)) (step : NodeStep Scene Value) :
    Decidable (o.Rises parameters step) :=
  inferInstanceAs (Decidable (step.before.now.micros ≤ _))

/-- The log up to now is that of the visits, and it is paced if no step set the clock back. -/
def Recorded (o : Order) (parameters : List (String × Value)) (first : List LogLine) (start : Instant)
    (s : Scene × List (NodeStep Scene Value)) : Prop :=
  Logged o.workflow first s.1 ∧ ((∀ step ∈ s.2, o.Rises parameters step) →
    start.micros ≤ s.1.now.micros ∧ Paced start s.1.now s.1.log.reverse)

/-- The turns of a walk keep the log that of its visits. -/
theorem recorded_invariant (parameters : List (String × Value)) (first : List LogLine) (start : Instant) :
    (o.guide (o.task parameters)).recording.Invariant (fun _ => o.Recorded parameters first start)
      (o.Recorded parameters first start) := by
  refine Guide.invariant_of_keeps (fun n input s found before => ?_) (fun output ids s before => ?_)
  · obtain ⟨logged, paced⟩ := before
    rcases visited : Scene.visit o.workflow (o.task parameters) n input s.1 with ⟨p, t⟩
    have taken : ((o.guide (o.task parameters)).recording.visit n input s).2 = (t, ⟨n, input, s.1⟩ :: s.2) :=
      congrArg (fun r => (r, _)) (congrArg Prod.snd visited)
    have rises (forward : ∀ step ∈ (⟨n, input, s.1⟩ :: s.2 : List (NodeStep Scene Value)), o.Rises parameters step) :
        s.1.now.micros ≤ t.now.micros := by
      have last := forward _ List.mem_cons_self
      change s.1.now.micros ≤ (Scene.visit o.workflow (o.task parameters) n input s.1).2.now.micros at last
      rwa [visited] at last
    rw [taken]
    rcases Scene.visit_logs (Act.steady_perform _ n input) (Act.writes_perform _ n input) found visited with
      rfl | ⟨v, visits, log, told, timed⟩
    · exact ⟨logged, fun forward => paced fun step listed => forward step (List.mem_cons_of_mem _ listed)⟩
    · refine ⟨logged.visit visits log told, fun forward => ?_⟩
      obtain ⟨later, before⟩ := paced fun step listed => forward step (List.mem_cons_of_mem _ listed)
      have rising := rises forward
      refine ⟨Int.le_trans later rising, ?_⟩
      rw [log, List.reverse_append, List.reverse_reverse]
      exact before.append (timed rising) later rising
  · obtain ⟨h, same⟩ := Scene.spread_eq output ids s.1
    have passed : ((o.guide (o.task parameters)).recording.spread output ids s).2 = ({ s.1 with heap := h }, s.2) :=
      congrArg (fun t => (t, s.2)) same
    rw [passed]
    exact ⟨⟨before.1.log, before.1.told⟩, before.2⟩

/-- The lines of a run before its walk; a run that refuses its input writes none of them. -/
def preamble (o : Order) (s : Scene) : List LogLine :=
  match s.prepare o.input with
  | (.error _, _) => []
  | (.ok _, _) => o.announcements s

/-- No step of a run sets the clock back. -/
def RunsForward (o : Order) (s : Scene) : Prop :=
  ∀ b, o.outset? s = some b → ∀ step ∈ o.steps (o.task b.parameters) b.payload b.scene, o.Rises b.parameters step

/-- Before a walk the clock stands still. -/
theorem preamble_time : ∀ l ∈ o.preamble s, l.time = s.now := by
  intro l listed
  unfold preamble announcements at listed
  split at listed
  · cases listed
  · rcases List.mem_cons.mp listed with rfl | listed
    · rfl
    · split at listed
      · cases listed
      · rcases List.mem_append.mp listed with listed | listed
        · obtain ⟨w, -, rfl⟩ := List.mem_map.mp listed
          rfl
        · split at listed
          · cases listed
          · rw [List.mem_singleton.mp listed]
            rfl

/-- A run that does not come to its walk changes the heap, and leaves the lines before it. -/
theorem carryOut_eq_of_no_outset (log : s.log = []) (closed : o.outset? s = none) :
    ∃ h, (o.carryOut s).2 = { s with heap := h, log := (o.preamble s).reverse } := by
  obtain ⟨h, prepared⟩ := Scene.prepare_eq s o.input
  refine ⟨h, ?_⟩
  rcases carryOut_of_no_outset closed with ⟨e, refused⟩ | ⟨payload, t, accepted, ended⟩
  · rw [refused] at prepared
    replace prepared : (o.carryOut s).2 = _ := prepared
    rw [prepared, preamble, refused, log]
    rfl
  · rw [accepted] at prepared
    replace prepared : t = _ := prepared
    rw [ended, preamble, accepted, prepared, log]
    simp
    rfl

/-- So does a run that does, before its walk. -/
theorem scene_of_outset {b : Outset} (log : s.log = []) (begun : o.outset? s = some b) :
    ∃ h, b.scene = { s with heap := h, log := (o.preamble s).reverse } := by
  obtain ⟨h, prepared⟩ := Scene.prepare_eq s o.input
  obtain ⟨t, log', accepted, opened, loaded⟩ := outset?_eq_some begun
  rw [accepted] at prepared
  replace prepared : t = _ := prepared
  obtain ⟨h', loading⟩ := Scene.loadParameters_eq [] { t with log := log' } o.workflow.nodes
  rw [loaded] at loading
  replace loading : b.scene = _ := loading
  have announced := congrArg Scene.log (opening?_eq opened)
  replace announced : log' = (o.preamble s).reverse := by
    rw [preamble, accepted]
    rw [prepared, log] at announced
    exact announced.trans (List.append_nil _)
  exact ⟨h', by rw [loading, prepared, announced]⟩

/-- Before the walk the log is made of the lines before it. -/
theorem recorded_preamble (visits : s.visits = []) (h : Heap) :
    let t : Scene := { s with heap := h, log := (o.preamble s).reverse }
    Logged o.workflow (o.preamble s) t ∧ s.now.micros ≤ t.now.micros ∧ Paced s.now t.now t.log.reverse := by
  intro t
  refine ⟨⟨?_, ?_⟩, Int.le_refl _, ?_⟩
  · simp [t, visits]
  · simp [t, visits]
  · rw [List.reverse_reverse]
    exact .of_same (fun l listed => preamble_time l listed) (Int.le_refl _) (Int.le_refl _)

/-- A run leaves a log that is made of the lines before its walk and of those of its visits, and that is paced unless
a step sets the clock back. -/
theorem carryOut_recorded (visits : s.visits = []) (log : s.log = []) :
    Logged o.workflow (o.preamble s) (o.carryOut s).2 ∧ (o.RunsForward s →
      s.now.micros ≤ (o.carryOut s).2.now.micros ∧ Paced s.now (o.carryOut s).2.now (o.carryOut s).2.log.reverse) := by
  cases begun : o.outset? s with
  | none =>
      obtain ⟨h, same⟩ := carryOut_eq_of_no_outset log begun
      rw [same]
      exact ⟨(recorded_preamble visits h).1, fun _ => (recorded_preamble visits h).2⟩
  | some b =>
      obtain ⟨h', same⟩ := scene_of_outset log begun
      have before (h : Heap) : let t : Scene := { b.scene with heap := h }
          Logged o.workflow (o.preamble s) t ∧ s.now.micros ≤ t.now.micros ∧ Paced s.now t.now t.log.reverse := by
        rw [same]
        exact recorded_preamble visits h
      have final := walkWith_invariant b.payload b.scene (recorded_invariant b.parameters (o.preamble s) s.now)
        (fun _ h _ => ⟨(before h).1, fun _ => (before h).2⟩) fun _ h _ => ⟨(before h).1, fun _ => (before h).2⟩
      rw [carryOut_of_outset begun]
      refine ⟨final.1, fun forward => final.2 fun step listed => ?_⟩
      exact forward b begun step (List.mem_reverse.mp listed)

/-- What a visit stops a run with can be kept. -/
theorem keptMessage_of_visit {w : Workflow} {task : Node → Value → Act Product} {n : Node} {input : Value} {e : RunFailure}
    (stopped : Scene.visit w task n input s = (.stopped e, t)) : ∃ kept, keptMessage e.message = .ok kept := by
  generalize passage : Passage.stopped e = p at stopped
  cases Scene.visited_of_visit stopped with
  | unreadable faulty =>
      cases passage
      exact ⟨_, Act.keptMessage_str _⟩
  | completed read done => cases passage
  | failed read done =>
      unfold Scene.failVisit at passage
      dsimp only at passage
      split at passage
      · cases passage
        exact ⟨_, Act.keptMessage_str _⟩
      · rename_i kept told
        split at passage
        · cases passage
          exact ⟨kept, told⟩
        · cases passage

/-- So can what is said where an output cannot be passed on. -/
theorem keptMessage_of_spread {v : Value} {ids : List String} {e : RunFailure}
    (refused : Scene.spread v ids s = (.error e, t)) : ∃ kept, keptMessage e.message = .ok kept := by
  unfold Scene.spread at refused
  split at refused
  · cases refused
  · split at refused
    · cases refused
    · cases refused
      exact ⟨_, Act.keptMessage_str _⟩

/-- The message that a run fails with can be kept. -/
theorem keptMessage_of_carryOut {e : RunFailure} (failed : o.carryOut s = (.error e, t)) :
    ∃ kept, keptMessage e.message = .ok kept := by
  have said (words : String) (same : e.message = .str words) : ∃ kept, keptMessage e.message = .ok kept :=
    ⟨words, same ▸ Act.keptMessage_str words⟩
  cases begun : o.outset? s with
  | none =>
      unfold carryOut at failed
      unfold outset? at begun
      split at failed
      · rename_i e' u refused
        cases failed
        obtain ⟨words, rfl⟩ := prepare_refuses refused
        exact said _ rfl
      · rename_i payload u accepted
        rw [accepted] at begun
        obtain ⟨e', words, same, ended⟩ := proceed_of_none payload (Option.map_eq_none_iff.mp begun)
        rw [failed] at ended
        cases ended
        exact said words same
  | some b =>
      rw [carryOut_eq_of_outset begun] at failed
      obtain ⟨outcome, -⟩ := Prod.mk.inj failed
      unfold Order.outcome at outcome
      split at outcome
      · cases outcome
      · cases outcome
        exact said _ rfl
      · cases outcome
        exact said _ rfl
      · rename_i e' ended
        cases outcome
        unfold walkWith at ended
        split at ended
        · cases ended
          exact said _ rfl
        · exact Guide.stopped_of_walk (P := fun e => ∃ kept, keptMessage e.message = .ok kept)
            (fun _ _ _ _ _ => keptMessage_of_visit) (fun _ _ _ _ _ => keptMessage_of_spread) (Prod.ext ended rfl)

theorem settle_start (pending : Run) (outcome : Except RunFailure Unit) (s : Scene) :
    (settle pending outcome s).1.start = pending.start := by
  cases outcome <;> rfl

/-- A run is concluded with one line more, which says how it ended. -/
theorem settle_log (pending : Run) (outcome : Except RunFailure Unit) (s : Scene)
    (told : ∀ e, outcome = .error e → ∃ kept, keptMessage e.message = .ok kept) :
    ∃ last, (settle pending outcome s).2.log = last :: s.log ∧ (settle pending outcome s).1.ClosingLine last ∧
      last.time = s.now := by
  cases outcome with
  | ok done => exact ⟨_, rfl, .completed rfl rfl rfl, rfl⟩
  | error e =>
      obtain ⟨kept, same⟩ := told e rfl
      refine ⟨_, rfl, .failed rfl rfl rfl ?_, rfl⟩
      dsimp only
      rw [same]

/-- The log of a run that began with nothing is made of the lines before its walk, the logs of the visits in order,
and the line that says how it ended. -/
theorem conclude_log (o : Order) (pending : Run) (visits : s.visits = []) (log : s.log = []) :
    ∃ last, (o.conclude pending s).2.log.reverse =
        o.preamble s ++ (o.conclude pending s).1.visits.flatMap Visit.log ++ [last] ∧
      (o.conclude pending s).1.ClosingLine last ∧ (∀ v ∈ (o.conclude pending s).1.visits, v.IsTold o.workflow) ∧
      (o.RunsForward s → Paced s.now last.time (o.conclude pending s).2.log.reverse) := by
  obtain ⟨logged, paced⟩ := carryOut_recorded (o := o) visits log
  unfold conclude
  rcases ended : o.carryOut s with ⟨outcome, t⟩
  rw [ended] at logged paced
  obtain ⟨last, lines, closes, time⟩ := settle_log pending outcome t fun e failed =>
    keptMessage_of_carryOut (failed ▸ ended)
  refine ⟨last, ?_, closes, fun v listed => ?_, fun forward => ?_⟩
  · rw [lines, settle_visits, List.reverse_cons, logged.log]
  · rw [settle_visits] at listed
    exact logged.told v (List.mem_reverse.mp listed)
  · obtain ⟨later, before⟩ := paced forward
    rw [lines, List.reverse_cons, time]
    exact before.append (.of_same (List.forall_mem_singleton.mpr time) (Int.le_refl _) (Int.le_refl _)) later
      (Int.le_refl _)

end Order

namespace Engine

/-- The log that an engine keeps of a run under an id that is not taken is made of the lines before the walk, the logs
of the visits in the order of the record, and one last line.  The log of each visit begins with the line that names the
node and, where handlers refuse in words, ends with the one that says how the visit ended.  If no step sets the clock
back, the lines are in the order of their instants, between the start of the run and its last line. -/
theorem execute_log (e : Engine) (w : Workflow) (input : Data) (triggeredBy : String)
    (fresh : (e.store.purge e.clock.reading).2.find? e.nextId = none)
    (forward : (e.order w input).RunsForward (Scene.start e.clock e.transport)) :
    ∃ (entry : Entry Float Run LogLine) (last : LogLine),
      (e.execute w input triggeredBy).2.store.find? e.nextId = some entry ∧
      entry.log.reverse = (e.order w input).preamble (Scene.start e.clock e.transport) ++
        entry.record.visits.flatMap Visit.log ++ [last] ∧
      entry.record.ClosingLine last ∧ (∀ v ∈ entry.record.visits, v.IsTold w) ∧
      (e.registry.RefusesInWords → ∀ v ∈ entry.record.visits, v.IsClosed w) ∧
      Paced entry.record.start last.time entry.log.reverse := by
  obtain ⟨deadline, stored⟩ := execute_stores w input triggeredBy fresh
  obtain ⟨last, log, closes, told, paced⟩ := (e.order w input).conclude_log
    (Run.pending e.nextId w.id w.version triggeredBy e.clock.now) (s := Scene.start e.clock e.transport) rfl rfl
  refine ⟨_, last, stored, log, closes, told, fun words v listed => (told v listed).closed_of_isOver ?_, ?_⟩
  · rw [Order.conclude_visits] at listed
    exact Order.carryOut_over (o := e.order w input) words (List.forall_mem_nil _) v (List.mem_reverse.mp listed)
  · rw [Order.conclude, Order.settle_start]
    exact paced forward

/-- A trigger, a node that waits for a second and a half, and one that divides by zero. -/
def waiting : Workflow where
  id := "waiting"
  version := 1
  name := "waiting"
  nodes := [⟨"start", "", .trigger, none⟩, ⟨"wait", "", .delay ⟨1.5, .seconds⟩, none⟩, ⟨"divide", "", .transform ⟨.map, "1 / 0", none⟩, none⟩]
  edges := [⟨"1", "start", "wait", none, none⟩, ⟨"2", "wait", "divide", none, none⟩]
  errorHandling := .stop

/-- The log of a run that waits and then fails is made of those of its visits as well. -/
theorem execute_log_waiting :
    let e := fresh .empty
    (e.store.purge e.clock.reading).2.find? e.nextId = none ∧
      (e.order waiting .null).RunsForward (Scene.start e.clock e.transport) ∧
      ∃ (entry : Entry Float Run LogLine) (last : LogLine),
        (e.execute waiting .null "").2.store.find? e.nextId = some entry ∧
        entry.log.reverse = (e.order waiting .null).preamble (Scene.start e.clock e.transport) ++
          entry.record.visits.flatMap Visit.log ++ [last] ∧
        entry.record.ClosingLine last ∧ (∀ v ∈ entry.record.visits, v.IsTold waiting) ∧
        (e.registry.RefusesInWords → ∀ v ∈ entry.record.visits, v.IsClosed waiting) ∧
        Paced entry.record.start last.time entry.log.reverse := by
  intro e
  have forward : (e.order waiting .null).RunsForward (Scene.start e.clock e.transport) := by
    have checked : ((e.order waiting .null).outset? (Scene.start e.clock e.transport)).all (fun b =>
        ((e.order waiting .null).steps ((e.order waiting .null).task b.parameters) b.payload b.scene).all fun step =>
          decide ((e.order waiting .null).Rises b.parameters step)) = true := by
      decide +kernel
    intro b begun step listed
    rw [begun] at checked
    exact of_decide_eq_true (List.all_eq_true.mp checked step listed)
  exact ⟨rfl, forward, e.execute_log waiting .null "" rfl forward⟩

/-- The log of a visit that failed with a refusal that is no text breaks off without a line that says so. -/
theorem execute_unkept_breaks_off :
    (match ((fresh (Sample.registryOf ["dispatch_error"])).execute
        (pair (.action ⟨"dispatch_error", [("message", .int 5)], none⟩)) .null "").1 with
      | .error _ => []
      | .ok record => record.visits.map fun v => (v.status, v.log.map LogLine.message)) =
        [(.completed, ["Executing node: first (trigger)", "Node completed: first (0ms)"]),
          (.failed, ["Executing node: second (action)", "Executing action: dispatch_error"])] := by
  decide +kernel

end Engine

end WorkflowEngine
