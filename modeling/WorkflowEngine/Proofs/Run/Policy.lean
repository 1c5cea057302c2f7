import WorkflowEngine.Proofs.Run.Record

/-!
# Stopping at failures and going on

A definition says whether its runs stop at a failing node or go on.  This has no bearing on a run until a node
fails: up to there both runs take the same turns in the same scenes.  The run that stops ends right behind the
first visit that fails, and the other one goes on from the same scene.
-/

namespace WorkflowEngine

/-- The visits up to the first one that failed, with that one. -/
def upToFailure : List Visit → List Visit
  | [] => []
  | v :: rest => if v.status = .failed then [v] else v :: upToFailure rest

theorem upToFailure_cons_failed {v : Visit} (failed : v.status = .failed) (rest : List Visit) :
    upToFailure (v :: rest) = [v] :=
  if_pos failed

theorem upToFailure_cons {v : Visit} (fine : v.status ≠ .failed) (rest : List Visit) :
    upToFailure (v :: rest) = v :: upToFailure rest :=
  if_neg fine

/-- Where the first visit that failed is known, nothing behind it counts. -/
theorem upToFailure_append {before after : List Visit} {v : Visit} (fine : ∀ u ∈ before, u.status ≠ .failed)
    (failed : v.status = .failed) : upToFailure (before ++ v :: after) = before ++ [v] := by
  induction before with
  | nil => exact upToFailure_cons_failed failed after
  | cons u before ih =>
      obtain ⟨first, others⟩ := List.forall_mem_cons.mp fine
      rw [List.cons_append, upToFailure_cons first, ih others, List.cons_append]

namespace Workflow

/-- The definition with a way to handle failures. -/
def under (w : Workflow) (policy : ErrorHandling) : Workflow :=
  { w with errorHandling := policy }

end Workflow

namespace Scene

variable {w : Workflow} {task : Node → Value → Act Product} {n : Node} {input : Value} {s : Scene}

/-- What a visit comes to where runs stop at failures, and what it comes to where they go on.  Only a node that
fails makes a difference, and none in what is left behind. -/
inductive Parting (s : Scene) : Passage RunFailure Value × Scene → Passage RunFailure Value × Scene → Prop where
  | unreadable {e : RunFailure} : Parting s (.stopped e, s) (.stopped e, s)
  | completed {value : Value} {chosen : Option (List String)} {v : Visit} {t : Scene}
      (left : t.visits = v :: s.visits) (fine : v.status ≠ .failed) :
      Parting s (.onward value chosen, t) (.onward value chosen, t)
  | unkept {e : RunFailure} {v : Visit} {t : Scene} (left : t.visits = v :: s.visits) (failed : v.status = .failed) :
      Parting s (.stopped e, t) (.stopped e, t)
  | failed {e : RunFailure} {v : Visit} {t : Scene} (left : t.visits = v :: s.visits) (failed : v.status = .failed) :
      Parting s (.stopped e, t) (.ended, t)

/-- A node that fails ends the run or its own path, with the same record. -/
theorem parting_failVisit (w : Workflow) (n : Node) (given : Data) (now : Instant) (message : NodeFailure)
    {stage : Stage} (same : stage.scene.visits = s.visits) :
    Parting s (failVisit (w.under .stop) n (Visit.begin n given now) message stage)
      (failVisit (w.under .continue) n (Visit.begin n given now) message stage) := by
  unfold failVisit
  cases keptMessage message with
  | error said => exact .unkept (congrArg (List.cons _) same) rfl
  | ok kept => exact .failed (congrArg (List.cons _) same) rfl

theorem parting_visit (w : Workflow) (steady : (task n input).Steady) (s : Scene) :
    Parting s (visit (w.under .stop) task n input s) (visit (w.under .continue) task n input s) := by
  unfold visit
  cases s.heap.snapshot input with
  | error f => exact .unreadable
  | ok given =>
      dsimp only
      rcases ran : (Act.complete task n input).run ⟨s, []⟩ with ⟨outcome, stage⟩
      have same := complete_visits steady ran
      cases outcome with
      | error message => exact parting_failVisit w n given s.now message same
      | ok done =>
          obtain ⟨⟨value, chosen⟩, output⟩ := done
          exact .completed (t := completeVisit n (Visit.begin n given s.now) output stage)
            (congrArg (List.cons _) same) nofun

end Scene

/-- Of two walks that set out behind the same visits, how the one that stops at failures relates to the one that goes
on: its new visits are those of the other one up to the first that failed, and without a failure it is the same
walk. -/
structure CutOff (before : List Visit) (stops goes : Ending RunFailure × Scene) : Prop where
  visits : ∃ new, goes.2.visits.reverse = before.reverse ++ new ∧
    stops.2.visits.reverse = before.reverse ++ upToFailure new ∧
    ((∀ v ∈ new, v.status ≠ .failed) → stops = goes) ∧
    ((∃ v ∈ new, v.status = .failed) → ∃ e, stops.1 = .stopped e)

namespace CutOff

variable {before : List Visit} {v : Visit} {stops goes ended : Ending RunFailure × Scene}

/-- Without further visits both walks end alike. -/
theorem refl (same : ended.2.visits = before) : CutOff before ended ended :=
  ⟨[], by rw [same, List.append_nil], by rw [same, upToFailure, List.append_nil], fun _ => rfl,
    fun ⟨_, listed, _⟩ => absurd listed List.not_mem_nil⟩

/-- Behind a visit that did not fail the walks go on together. -/
theorem cons (fine : v.status ≠ .failed) (rest : CutOff (v :: before) stops goes) : CutOff before stops goes := by
  obtain ⟨new, onward, cut, same, fails⟩ := rest
  rw [List.reverse_cons, List.append_assoc] at onward cut
  refine ⟨v :: new, onward, ?_, fun all => same (List.forall_mem_cons.mp all).2, ?_⟩
  · rw [upToFailure_cons fine]
    exact cut
  · rintro ⟨u, listed, failed⟩
    rcases List.mem_cons.mp listed with rfl | later
    · exact absurd failed fine
    · exact fails ⟨u, later, failed⟩

/-- At a visit that failed the one walk ends, whatever the other one still does. -/
theorem failed {e : RunFailure} {t : Scene} (left : t.visits = v :: before) (failed : v.status = .failed)
    (onward : t.visits.reverse <+: goes.2.visits.reverse) : CutOff before (.stopped e, t) goes := by
  obtain ⟨new, onward⟩ := onward
  rw [left, List.reverse_cons, List.append_assoc] at onward
  refine ⟨v :: new, onward.symm, ?_, fun all => absurd failed (List.forall_mem_cons.mp all).1, fun _ => ⟨e, rfl⟩⟩
  rw [upToFailure_cons_failed failed, left, List.reverse_cons]

end CutOff

namespace Order

variable {o : Order}

/-- The run of the same definition with a way to handle failures. -/
def under (o : Order) (policy : ErrorHandling) : Order :=
  { o with workflow := o.workflow.under policy }

/-- What nodes do does not depend on how failures are handled. -/
theorem task_under (o : Order) (policy : ErrorHandling) (parameters : List (String × Value)) :
    (o.under policy).task parameters = o.task parameters := by
  funext n input
  unfold task Act.perform
  cases n.task <;> rfl

theorem outset?_under (o : Order) (policy : ErrorHandling) (s : Scene) : (o.under policy).outset? s = o.outset? s :=
  rfl

variable {task : Node → Value → Act Product}

/-- What a visit comes to where runs stop is known from what it comes to where they go on. -/
theorem parting_of_visit (steady : ∀ n input, (task n input).Steady) {n : Node} {input : Value} {s : Scene}
    {r : Passage RunFailure Value × Scene} (visited : ((o.under .continue).guide task).visit n input s = r) :
    ∃ stopping, ((o.under .stop).guide task).visit n input s = stopping ∧ Scene.Parting s stopping r :=
  ⟨_, rfl, visited ▸ Scene.parting_visit o.workflow (steady n input) s⟩

/-- The walk that stops at failures is cut off where the one that goes on comes to the first failure. -/
theorem cutOff_walk (o : Order) (steady : ∀ n input, (task n input).Steady) (limit : Nat)
    (pending : List (String × Value)) (s : Scene) :
    CutOff s.visits (((o.under .stop).guide task).walk limit pending s)
      (((o.under .continue).guide task).walk limit pending s) := by
  have passed {output : Value} {ids : List String} {t u : Scene} {r : Except RunFailure (List (String × Value))}
      (given : Scene.spread output ids t = (r, u)) : u.visits = t.visits :=
    (congrArg (fun r => r.2.visits) given).symm.trans (Scene.spread_visits output ids t)
  induction limit, pending, s using Guide.walk.induct ((o.under .continue).guide task) with
  | case1 limit s =>
      rw [Guide.walk_nil, Guide.walk_nil]
      exact .refl rfl
  | case2 limit s id input rest absent =>
      rw [Guide.walk_missing absent, Guide.walk_missing (g := (o.under .stop).guide task) absent]
      exact .refl rfl
  | case3 s id input rest n found =>
      rw [Guide.walk_exceeded found, Guide.walk_exceeded (g := (o.under .stop).guide task) found]
      exact .refl rfl
  | case4 s id input rest n found limit t visited ih =>
      obtain ⟨_, stopping, parting⟩ := parting_of_visit steady visited
      rw [Guide.walk_ended found visited]
      cases parting with
      | failed left failed =>
          rw [Guide.walk_stopped (g := (o.under .stop).guide task) found stopping]
          exact .failed left failed ((o.under .continue).prefix_walk steady limit rest t)
  | case5 s id input rest n found limit e t visited =>
      obtain ⟨_, stopping, parting⟩ := parting_of_visit steady visited
      rw [Guide.walk_stopped found visited]
      cases parting with
      | unreadable =>
          rw [Guide.walk_stopped (g := (o.under .stop).guide task) found stopping]
          exact .refl rfl
      | unkept left failed =>
          rw [Guide.walk_stopped (g := (o.under .stop).guide task) found stopping]
          exact .failed left failed (List.prefix_refl _)
  | case6 s id input rest n found limit output chosen t visited e u given =>
      obtain ⟨_, stopping, parting⟩ := parting_of_visit steady visited
      rw [Guide.walk_onward_error found visited given]
      cases parting with
      | completed left fine =>
          rw [Guide.walk_onward_error (g := (o.under .stop).guide task) found stopping given]
          exact .cons fine (.refl ((passed given).trans left))
  | case7 s id input rest n found limit output chosen t visited inputs u given ih =>
      obtain ⟨_, stopping, parting⟩ := parting_of_visit steady visited
      rw [Guide.walk_onward_ok found visited given]
      cases parting with
      | completed left fine =>
          rw [Guide.walk_onward_ok (g := (o.under .stop).guide task) found stopping given]
          rw [passed given, left] at ih
          exact .cons fine ih

theorem cutOff_walkWith (o : Order) (steady : ∀ n input, (task n input).Steady) (payload : Value) (s : Scene) :
    CutOff s.visits ((o.under .stop).walkWith task payload s) ((o.under .continue).walkWith task payload s) := by
  unfold walkWith
  rw [show (o.under .stop).workflow.triggers = o.workflow.triggers from rfl,
    show (o.under .continue).workflow.triggers = o.workflow.triggers from rfl]
  rcases Scene.copies payload [] s.heap (o.workflow.triggers.map Node.id) with ⟨outcome, h⟩
  cases outcome with
  | error f => exact .refl rfl
  | ok pending => exact o.cutOff_walk steady _ pending { s with heap := h }

/-- How failures are handled has no bearing on a run until a node fails.  A run that goes on and in which no node
fails is the same as the run that stops at failures: it has the same record and the same log.  Otherwise the run that
stops takes the same visits up to the first one that fails, and has failed. -/
theorem conclude_stop (o : Order) (pending : Run) (clock : Clock) (transport : Http.Transport) :
    let goes := (o.under .continue).conclude pending (Scene.start clock transport)
    let stops := (o.under .stop).conclude pending (Scene.start clock transport)
    ((∀ v ∈ goes.1.visits, v.status ≠ .failed) → stops = goes) ∧
      ∀ before v after, goes.1.visits = before ++ v :: after → (∀ u ∈ before, u.status ≠ .failed) →
        v.status = .failed → stops.1.visits = before ++ [v] ∧ stops.1.status = .failed := by
  intro goes stops
  have listed : goes.1.visits = ((o.under .continue).carryOut (Scene.start clock transport)).2.visits.reverse :=
    conclude_visits _ _ _
  have cutAt : stops.1.visits = ((o.under .stop).carryOut (Scene.start clock transport)).2.visits.reverse :=
    conclude_visits _ _ _
  cases begun : o.outset? (Scene.start clock transport) with
  | none =>
      have same (policy : ErrorHandling) : (o.under policy).carryOut (Scene.start clock transport) = o.carryOut _ :=
        carryOut_of_closed rfl rfl rfl begun
      have none : goes.1.visits = [] := by
        rw [listed, same, visits_of_no_outset begun]
        rfl
      refine ⟨fun _ => conclude_congr ((same .stop).trans (same .continue).symm) pending, fun before v after split => ?_⟩
      rw [none] at split
      exact absurd split.symm (List.append_ne_nil_of_right_ne_nil _ (List.cons_ne_nil _ _))
  | some b =>
      have set (policy : ErrorHandling) := carryOut_eq_of_outset ((outset?_under o policy _).trans begun)
      simp only [task_under] at set
      have steady : ∀ n input, (o.task b.parameters n input).Steady := Act.steady_perform _
      obtain ⟨new, onward, cut, same, fails⟩ := (o.cutOff_walkWith steady b.payload b.scene).visits
      rw [visits_of_outset begun] at onward cut
      rw [set, onward] at listed
      rw [set, cut] at cutAt
      change goes.1.visits = new at listed
      change stops.1.visits = upToFailure new at cutAt
      refine ⟨fun fine => ?_, fun before v after split fine failed => ⟨?_, ?_⟩⟩
      · refine conclude_congr ?_ pending
        rw [set, set, same (listed ▸ fine)]
        rfl
      · rw [cutAt, ← listed, split, upToFailure_append fine failed]
      · obtain ⟨e, stopped⟩ := fails ⟨v, by rw [← listed, split]; simp, failed⟩
        have ended := set .stop
        rw [stopped] at ended
        exact congrArg (fun r => r.1.status) (conclude_of_carryOut ended pending)

/-- A division by zero, and an end beside it. -/
def stumbling : Order where
  workflow :=
    { id := "stumbling", version := 1, name := "stumbling", errorHandling := .continue
      nodes :=
        [⟨"start", "", .trigger, none⟩, ⟨"divide", "", .transform ⟨.map, "1 / 0", none⟩, none⟩, ⟨"beside", "", .ending, none⟩]
      edges := [⟨"1", "start", "divide", none, none⟩, ⟨"2", "start", "beside", none, none⟩] }
  input := .null
  isTrusted := false
  registry := .empty
  limit := 5
  requestLimit := 0

/-- The run that goes on behind the division comes to one node more than the run that stops there. -/
theorem conclude_stop_stumbling :
    let pending := Run.pending "run" "stumbling" 1 "system" Clock.start.now
    let goes := (stumbling.under .continue).conclude pending (Scene.start .start ⟨[], []⟩)
    let stops := (stumbling.under .stop).conclude pending (Scene.start .start ⟨[], []⟩)
    ∃ start divide beside, goes.1.visits = [start, divide, beside] ∧ divide.status = .failed ∧
      beside.status = .completed ∧ stops.1.visits = [start, divide] ∧ stops.1.status = .failed := by
  intro pending
  dsimp only
  have statuses : ((stumbling.under .continue).conclude pending (Scene.start .start ⟨[], []⟩)).1.visits.map Visit.status =
      [.completed, .failed, .completed] := by decide +kernel
  obtain ⟨start, rest, split, first, others⟩ := List.map_eq_cons_iff.mp statuses
  obtain ⟨divide, last, rfl, second, others⟩ := List.map_eq_cons_iff.mp others
  obtain ⟨beside, rfl, third⟩ := List.map_eq_singleton_iff.mp others
  have fine : ∀ u ∈ [start], u.status ≠ .failed := List.forall_mem_singleton.mpr (first ▸ nofun)
  obtain ⟨visits, status⟩ :=
    (conclude_stop stumbling pending .start ⟨[], []⟩).2 [start] divide [beside] split fine second
  exact ⟨start, divide, beside, split, second, third, visits, status⟩

end Order

end WorkflowEngine
