import WorkflowEngine.Proofs.Run.Limit
import WorkflowEngine.Proofs.Walk.Termination

/-!
# Who is to blame for a failed run

A run of a valid definition either ends by itself or at a node that fails.  If it stops at failures it can end at a
node, which is then the last that is visited and the only one that failed, and the error of the run tells of it.  In
all other cases no node is to blame: the run is completed, or its input was refused, or it came to more nodes than its
limit allows.
-/

namespace WorkflowEngine

namespace Run

/-- The run has failed at its last visit, which is the only one that failed, and its error says what that of the visit
says. -/
structure HasFailedAt (r : Run) (v : Visit) : Prop where
  failed : r.status = .failed
  last : ∃ before, r.visits = before ++ [v] ∧ ∀ u ∈ before, u.status ≠ .failed
  visit : v.status = .failed
  error : ∃ message now later, v.error = some ⟨.node, message, now, some v.nodeId⟩ ∧
    r.error = some ⟨.run, message, later, some v.nodeId⟩

end Run

namespace Order

/-- No node is to blame for how the run ended: it is completed without an error, or it has failed at no node, since its
input was refused before the first visit or since there were more nodes to visit than its limit allows. -/
inductive EndsByItself (o : Order) (s : Scene) (r : Run) : Prop where
  | completed (status : r.status = .completed) (error : r.error = none)
  | refused {words : String} (refused : (s.prepare o.input).1 = .error (.say ("Invalid workflow input: " ++ words)))
      (visits : r.visits = []) (failed : r.status = .failed)
      (error : ∃ now, r.error = some ⟨.run, "Invalid workflow input: " ++ words, now, none⟩)
  | exceeded (exceeded : r.HasExceeded o.limit) (all : r.visits.length = o.limit.toNat)

variable {o : Order} {parameters : List (String × Value)} {pending : List (String × Value)} {s t : Scene}

/-- How a walk ends, with the visits that it has taken: by itself, or at a node that failed last. -/
inductive Verdict (o : Order) (before : List Visit) (limit : Nat) (r : Ending RunFailure × Scene) : Prop where
  | unblamed {new : List Visit} (visits : r.2.visits.reverse = before.reverse ++ new)
      (fine : o.workflow.errorHandling = .stop → ∀ v ∈ new, v.status ≠ .failed) (on : ∀ e, r.1 ≠ .stopped e)
      (cut : r.1 = .exceeded → new.length = limit)
  | blamed {new : List Visit} {v : Visit} {e : RunFailure} (policy : o.workflow.errorHandling = .stop)
      (visits : r.2.visits.reverse = before.reverse ++ (new ++ [v])) (fine : ∀ u ∈ new, u.status ≠ .failed)
      (ended : r.1 = .stopped e) (blamed : v.IsBlamedBy e)

/-- The verdict on a walk without visits. -/
theorem Verdict.refl {limit : Nat} {r : Ending RunFailure × Scene} (on : ∀ e, r.1 ≠ .stopped e)
    (cut : r.1 = .exceeded → limit = 0) : o.Verdict r.2.visits limit r := by
  have none : r.2.visits.reverse = r.2.visits.reverse ++ [] := (List.append_nil _).symm
  exact .unblamed none (fun _ _ listed => absurd listed List.not_mem_nil) on fun exceeded => (cut exceeded).symm

/-- A visit that did not end the walk leaves the verdict to what comes after it. -/
theorem Verdict.cons {before : List Visit} {v : Visit} {limit : Nat} {r : Ending RunFailure × Scene}
    (rest : o.Verdict (v :: before) limit r) (fine : o.workflow.errorHandling = .stop → v.status ≠ .failed) :
    o.Verdict before (limit + 1) r := by
  cases rest with
  | unblamed visits others on cut =>
      rw [List.reverse_cons, List.append_assoc] at visits
      exact .unblamed visits (fun policy => List.forall_mem_cons.mpr ⟨fine policy, others policy⟩) on
        fun exceeded => congrArg Nat.succ (cut exceeded)
  | blamed policy visits others ended blamed =>
      rw [List.reverse_cons, List.append_assoc] at visits
      exact .blamed policy visits (List.forall_mem_cons.mpr ⟨fine policy, others⟩) ended blamed

/-- The verdict on a walk that takes one visit at each turn, where nodes fail in words. -/
theorem Unfolds.verdict {limit : Nat} {r : Ending RunFailure × Scene} (unfolds : o.Unfolds parameters limit pending s r)
    (words : o.registry.RefusesInWords) : o.Verdict s.visits limit r := by
  induction unfolds with
  | exhausted => exact .refl (r := (.exhausted, _)) nofun nofun
  | missing absent => exact .refl (r := (.missing _, _)) nofun nofun
  | exceeded found => exact .refl (r := (.exceeded, _)) nofun fun _ => rfl
  | completed found visited given left named status names later ih =>
      rw [left] at ih
      exact ih.cons fun _ failed => nomatch status.symm.trans failed
  | passed found visited left policy failed later ih =>
      rw [left] at ih
      exact ih.cons fun stops => nomatch policy.symm.trans stops
  | @stopped _ _ _ _ s t _ v _ found visited left failed why =>
      obtain ⟨policy, blamed⟩ := why (Act.inWords_perform words _ _)
      have last : t.visits.reverse = s.visits.reverse ++ ([] ++ [v]) := by
        rw [left, List.reverse_cons, List.nil_append]
      exact .blamed policy last (fun _ listed => absurd listed List.not_mem_nil) rfl blamed

/-- A run whose input is refused has failed without a visit, at no node, and so it has not exceeded its limit. -/
theorem conclude_refused {e : RunFailure} (refused : s.prepare o.input = (.error e, t)) (fresh : s.visits = [])
    (pending : Run) :
    let r := (o.conclude pending s).1
    r.visits = [] ∧ r.status = .failed ∧ (∀ limit, ¬ r.HasExceeded limit) ∧
      ∃ words now, e = .say ("Invalid workflow input: " ++ words) ∧
        r.error = some ⟨.run, "Invalid workflow input: " ++ words, now, none⟩ := by
  intro r
  obtain ⟨words, rfl⟩ := prepare_refuses refused
  have ended : o.carryOut s = (.error (.say ("Invalid workflow input: " ++ words)), t) := by
    rw [carryOut, refused]
  have record : r = (settle pending (.error (.say ("Invalid workflow input: " ++ words))) t).1 :=
    congrArg Prod.fst (conclude_of_carryOut ended pending)
  have none : t.visits = [] := by
    obtain ⟨h, kept⟩ := Scene.prepare_eq s o.input
    rw [refused] at kept
    replace kept : t = _ := kept
    rw [kept]
    exact fresh
  have error : r.error = some ⟨.run, "Invalid workflow input: " ++ words, t.now, Option.none⟩ := record ▸ rfl
  refine ⟨?_, record ▸ rfl, fun limit exceeded => ?_, words, t.now, rfl, error⟩
  · rw [record, settle_visits, none]
    rfl
  · obtain ⟨now, other⟩ := exceeded.error
    have same := congrArg RunError.message (Option.some.inj (error.symm.trans other))
    have first := congrArg (fun text => text.toList.head?) same
    simp at first

/-- A run that ends with the failure of its last visit has failed at it. -/
theorem hasFailedAt_of_carryOut {e : RunFailure} {v : Visit} {before : List Visit} (ended : o.carryOut s = (.error e, t))
    (visits : t.visits.reverse = before ++ [v]) (fine : ∀ u ∈ before, u.status ≠ .failed) (blamed : v.IsBlamedBy e)
    (pending : Run) : (o.conclude pending s).1.HasFailedAt v := by
  obtain ⟨failed, code, nodeId, kept, now, said, told⟩ := blamed
  rw [conclude_of_carryOut ended]
  refine ⟨rfl, ⟨before, (settle_visits ..).trans visits, fine⟩, failed, kept, now, t.now, told, ?_⟩
  simp only [settle, code, nodeId, said]

/-- The walk of a run of a valid definition sets out as soon as the input is taken over. -/
theorem outset?_of_prepared {report : Report} (checked : o.workflow.validate = .ok report) (valid : report.valid = true)
    {payload : Value} (prepared : s.prepare o.input = (.ok payload, t)) : ∃ b, o.outset? s = some b := by
  obtain ⟨found, reported, good⟩ := report_of_valid checked valid
  have triggered : o.workflow.triggers.isEmpty = false := by
    simpa using (Workflow.sound_of_valid checked valid).triggered
  unfold outset? opening?
  rw [prepared, reported]
  simp [good, triggered]

/-- A run of a valid definition that handlers refuse in words ends by itself or at a node.  It ends at a node only if it
stops at failures: the node is then the last and the only one that failed, and the error of the run has its id and its
message.  If it ends by itself it is completed without an error, unless its input was refused or its limit exceeded,
and then the error names no node. -/
theorem conclude_blames (o : Order) {report : Report} (checked : o.workflow.validate = .ok report)
    (valid : report.valid = true) (locals : o.registry.IsLocal) (words : o.registry.RefusesInWords)
    (id workflowId : String) (version : Int) (by_ : String) (begun : Instant) (clock : Clock) (transport : Http.Transport) :
    let start := Scene.start clock transport
    let r := (o.conclude (Run.pending id workflowId version by_ begun) start).1
    (o.EndsByItself start r ∧ (o.workflow.errorHandling = .stop → ∀ v ∈ r.visits, v.status ≠ .failed)) ∨
      o.workflow.errorHandling = .stop ∧ ∃ v, r.HasFailedAt v := by
  intro start r
  rcases prepared : start.prepare o.input with ⟨outcome, u⟩
  cases outcome with
  | error e =>
      obtain ⟨none, failed, -, words, now, rfl, error⟩ :=
        conclude_refused prepared rfl (Run.pending id workflowId version by_ begun)
      refine .inl ⟨.refused (congrArg Prod.fst prepared) none failed ⟨now, error⟩, fun _ v member => ?_⟩
      exact absurd ((show r.visits = [] from none) ▸ member) List.not_mem_nil
  | ok payload =>
      obtain ⟨b, set⟩ := outset?_of_prepared checked valid prepared
      obtain ⟨given, s, -, fresh, unfolds⟩ := unfolds_walkWith locals set
      have known (lost : String) : (o.walkWith (o.task b.parameters) b.payload b.scene).1 ≠ .missing lost :=
        walkWith_ne_missing (Workflow.sound_of_valid checked valid) (Act.perform_routes _) lost
      have ended := carryOut_eq_of_outset set
      have verdict := unfolds.verdict words
      rw [fresh] at verdict
      rcases walked : o.walkWith (o.task b.parameters) b.payload b.scene with ⟨ending, t⟩
      rw [walked] at ended verdict
      have record : r = (settle (Run.pending id workflowId version by_ begun) (o.outcome ending) t).1 :=
        congrArg Prod.fst (conclude_of_carryOut ended _)
      cases verdict with
      | unblamed visits fine on cut =>
          have listed : r.visits = _ := (record ▸ settle_visits ..).trans visits
          rw [listed]
          refine .inl ⟨?_, fine⟩
          cases ending with
          | exhausted => exact .completed (record ▸ rfl) (record ▸ rfl)
          | missing lost => exact absurd (congrArg Prod.fst walked) (known lost)
          | exceeded => exact .exceeded (hasExceeded_of_carryOut ended _) (listed ▸ cut rfl)
          | stopped e => exact absurd rfl (on e)
      | @blamed new v e policy visits fine stopped blamed =>
          obtain rfl : ending = .stopped e := stopped
          exact .inr ⟨policy, v, hasFailedAt_of_carryOut ended visits fine blamed _⟩

/-- The run that divides by zero fails at the division if it stops there. -/
theorem conclude_blames_stumbling :
    let o := stumbling.under .stop
    o.workflow.validate = .ok (.of [] []) ∧ o.registry.IsLocal ∧ o.registry.RefusesInWords ∧
      ∃ v, v.nodeId = "divide" ∧
        (o.conclude (Run.pending "run" "stumbling" 1 "system" Clock.start.now) (Scene.start .start ⟨[], []⟩)).1.HasFailedAt v := by
  intro o
  have checked : o.workflow.validate = .ok (.of [] []) := by cbv
  have locals : o.registry.IsLocal := fun _ listed => absurd listed List.not_mem_nil
  have words : o.registry.RefusesInWords := fun _ listed => absurd listed List.not_mem_nil
  have ids : (o.conclude (Run.pending "run" "stumbling" 1 "system" Clock.start.now)
      (Scene.start .start ⟨[], []⟩)).1.visits.map (fun v => (v.nodeId, v.status)) =
        [("start", .completed), ("divide", .failed)] := by decide +kernel
  obtain ⟨start, rest, split, first, others⟩ := List.map_eq_cons_iff.mp ids
  obtain ⟨divide, rfl, second⟩ := List.map_eq_singleton_iff.mp others
  refine ⟨checked, locals, words, ?_⟩
  rcases conclude_blames o checked rfl locals words "run" "stumbling" 1 "system" Clock.start.now .start ⟨[], []⟩ with
    ⟨-, fine⟩ | ⟨-, v, failedAt⟩
  · refine absurd (congrArg Prod.snd second) (fine rfl divide ?_)
    rw [split]
    simp
  · refine ⟨v, ?_, failedAt⟩
    obtain ⟨before, visits, -⟩ := failedAt.last
    have last : [start] ++ [divide] = before ++ [v] := split.symm.trans visits
    obtain rfl : divide = v := List.singleton_inj.mp (List.append_inj_right' last rfl)
    exact congrArg Prod.fst second

/-- A run that goes on at failures is not always completed: one whose input cannot be copied has failed without a
visit, and so without having come to its limit. -/
theorem conclude_locked_stumbling :
    let o := { stumbling.under .continue with input := .dict [(.str "lock", .lock)] }
    let r := (o.conclude (Run.pending "run" "stumbling" 1 "system" Clock.start.now) (Scene.start .start ⟨[], []⟩)).1
    o.workflow.validate = .ok (.of [] []) ∧ o.workflow.errorHandling = .continue ∧ r.status = .failed ∧ r.visits = [] ∧
      ¬ r.HasExceeded o.limit := by
  intro o r
  have checked : o.workflow.validate = .ok (.of [] []) := by cbv
  rcases prepared : (Scene.start .start ⟨[], []⟩).prepare o.input with ⟨outcome, t⟩
  cases outcome with
  | ok payload => cases prepared
  | error e =>
      obtain ⟨none, failed, within, -⟩ :=
        conclude_refused prepared rfl (Run.pending "run" "stumbling" 1 "system" Clock.start.now)
      exact ⟨checked, rfl, failed, none, within _⟩

end Order

end WorkflowEngine
