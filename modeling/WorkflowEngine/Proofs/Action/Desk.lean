import WorkflowEngine.Action.Registry
import WorkflowEngine.Proofs.Run.Task

/-!
# Handlers step by step

Most of what a handler does on the heap only reads it: the evaluation comes to an outcome and leaves the heap as it is.
A dispatch whose parameters stand under names is the work of the handler with them, and an interruption of the work is
what the dispatch fails with.
-/

namespace WorkflowEngine

variable {α β : Type}

/-- A dictionary that does not count as true has no entries. -/
theorem Heap.entries_of_not_isTrue {h : Heap} {a : Address} (empty : h.isTrue (.dict a) = false) : h.entries a = [] := by
  have counted : (h.size a != 0) = false := empty
  unfold Heap.size at counted
  unfold Heap.entries
  split
  · rename_i entries there
    rw [there] at counted
    simpa using counted
  · rfl

namespace Eval

variable {h : Heap} {e : Eval α} {k : α → Eval β} {v : α} {f : Fault}

/-- On a heap an evaluation comes to an outcome, and leaves the heap as it is. -/
def Gives (h : Heap) (e : Eval α) (outcome : Except Fault α) : Prop :=
  ∀ steps, e.exec ⟨h, steps⟩ = (outcome, ⟨h, steps⟩)

theorem gives_pure (h : Heap) (v : α) : Gives h (pure v) (.ok v) :=
  fun _ => rfl

theorem gives_fail (h : Heap) (f : Fault) : Gives h (fail f : Eval α) (.error f) :=
  fun _ => rfl

theorem gives_lift (h : Heap) (outcome : Except Fault α) : Gives h (lift outcome) outcome := by
  cases outcome <;> exact fun _ => rfl

/-- An evaluation goes on where its first part has come to a value. -/
theorem Gives.bind {outcome : Except Fault β} (first : Gives h e (.ok v)) (rest : Gives h (k v) outcome) :
    Gives h (e >>= k) outcome := by
  intro steps
  rw [exec_bind, first steps]
  exact rest steps

/-- An evaluation ends where its first part has come to a fault. -/
theorem Gives.stop (first : Gives h e (.error f)) : Gives h (e >>= k) (.error f) := by
  intro steps
  rw [exec_bind, first steps]

/-- An outcome and what follows it. -/
theorem Gives.seq {outcome : Except Fault α} {rest : α → Except Fault β} (first : Gives h e outcome)
    (each : ∀ v, Gives h (k v) (rest v)) : Gives h (e >>= k) (outcome >>= rest) := by
  cases outcome with
  | error f => exact first.stop
  | ok v => exact first.bind (each v)

theorem gives_view (h : Heap) (v : Value) : Gives h (view v) (.ok (h.view v)) :=
  fun _ => rfl

theorem gives_isTrue (h : Heap) (v : Value) : Gives h (isTrue v) (.ok (h.isTrue v)) :=
  fun _ => rfl

theorem gives_equals (h : Heap) (a b : Value) : Gives h (equals a b) (.ok (h.equals a b)) :=
  fun _ => rfl

theorem gives_text (h : Heap) (v : Value) : Gives h (text v) (h.view v).text? :=
  (gives_view h v).bind (gives_lift h _)

theorem gives_source (h : Heap) (v : Value) : Gives h (source v) (h.view v).source? :=
  (gives_view h v).bind (gives_lift h _)

/-- Reading something for each of some values. -/
theorem gives_mapM {g : α → Eval β} {given : α → β} (each : ∀ a, Gives h (g a) (.ok (given a))) (items : List α) :
    Gives h (items.mapM g) (.ok (items.map given)) := by
  induction items with
  | nil => exact gives_pure h []
  | cons a rest ih =>
      rw [List.mapM_cons]
      exact (each a).bind (ih.bind (gives_pure h _))

end Eval

namespace Work

variable {d : Desk} {e : Eval α} {k : α → Work β} {v : α} {f : Fault}

theorem run_onHeap_bind {h : Heap} (ran : e.run d.heap = (.ok v, h)) :
    (onHeap e >>= k).run d = (k v).run { d with heap := h } := by
  rw [run_bind, run_onHeap, ran]

theorem run_onHeap_stop {h : Heap} (ran : e.run d.heap = (.error f, h)) :
    (onHeap e >>= k).run d = (.error (.fault f), { d with heap := h }) := by
  rw [run_bind, run_onHeap, ran]

theorem run_of_gives {h : Heap} {outcome : Except Fault α} (gives : Eval.Gives h e outcome) :
    e.run h = (outcome, h) := by
  rw [Eval.run, gives 0]

/-- Where the heap is only read, the desk stays as it is. -/
theorem run_reading {outcome : Except Fault α} (gives : Eval.Gives d.heap e outcome) :
    (onHeap e).run d = (outcome.mapError .fault, d) := by
  rw [run_onHeap, run_of_gives gives]
  cases outcome <;> rfl

theorem run_reading_bind (gives : Eval.Gives d.heap e (.ok v)) : (onHeap e >>= k).run d = (k v).run d :=
  run_onHeap_bind (run_of_gives gives)

theorem run_reading_stop (gives : Eval.Gives d.heap e (.error f)) :
    (onHeap e >>= k).run d = (.error (.fault f), d) :=
  run_onHeap_stop (run_of_gives gives)

theorem run_noting_bind (level : Level) (source message : String) (k : Unit → Work β) (d : Desk) :
    (note level source message >>= k).run d = (k ()).run { d with journal := ⟨level, source, message⟩ :: d.journal } :=
  rfl

/-- A fresh dictionary comes behind the containers that are there. -/
theorem run_newDict (entries : List (Value × Value)) (d : Desk) :
    (onHeap (Eval.newDict entries)).run d =
      (.ok (.dict d.heap.cells.size), { d with heap := (d.heap.alloc (.dict entries)).2 }) :=
  rfl

end Work

namespace Registry

open Eval

variable {r : Registry} {name : String} {handler : Handler} {input : Value} {p : Address} {named : Named}
  {wait : Option Number} {d : Desk}

/-- The dictionary holds values under names that are told apart. -/
structure Holds (h : Heap) (p : Address) (named : Named) : Prop where
  entries : h.entries p = named.map fun e => (.str e.1, e.2)
  distinct : (named.map Prod.fst).Nodup

/-- Entries with distinct names are added one behind the other. -/
theorem setEntries_named (h : Heap) (done named : Named) (distinct : ((done ++ named).map Prod.fst).Nodup) :
    h.setEntries (done.map fun e => (.str e.1, e.2)) (named.map fun e => (.str e.1, e.2)) =
      (done ++ named).map fun e => (.str e.1, e.2) := by
  induction named generalizing done with
  | nil =>
      rw [List.append_nil]
      rfl
  | cons e rest ih =>
      have apart : e.1 ∉ done.map Prod.fst := by
        rw [List.map_append, List.map_cons] at distinct
        exact fun listed => (List.nodup_append.mp distinct).2.2 _ listed _ List.mem_cons_self rfl
      have missing : (done.map fun e => (Value.str e.1, e.2)).any (fun entry => h.sameKey entry.1 (.str e.1)) = false := by
        rw [List.any_map, List.any_eq_false]
        intro other listed same
        have equal : other.1 = e.1 := by simpa [Heap.sameKey] using same
        exact apart (equal ▸ List.mem_map_of_mem listed)
      have step : h.setEntry (done.map fun e => (.str e.1, e.2)) (.str e.1) e.2 =
          (done ++ [e]).map fun e => (.str e.1, e.2) := by
        rw [Heap.setEntry, missing, List.map_append]
        rfl
      have rest_added := ih (done ++ [e]) (by rw [List.append_assoc]; exact distinct)
      rw [List.append_assoc] at rest_added
      rw [← step] at rest_added
      exact rest_added

theorem namedOf_named (done named : Named) :
    namedOf done (named.map fun e => (.str e.1, e.2)) = .ok (done.reverse ++ named) := by
  induction named generalizing done with
  | nil => rw [List.append_nil]; rfl
  | cons e rest ih =>
      change namedOf (e :: done) _ = _
      rw [ih, List.reverse_cons, List.append_assoc]
      rfl

theorem gives_parameterEntries {h : Heap} (holds : Holds h p named) :
    Gives h (parameterEntries (.dict p)) (.ok (named.map fun e => (.str e.1, e.2))) := by
  refine (gives_isTrue h (.dict p)).bind ?_
  cases filled : h.isTrue (.dict p) with
  | true =>
      have added := setEntries_named h [] named holds.distinct
      intro steps
      change (Except.ok (h.setEntries [] (h.entries p)), _) = _
      rw [holds.entries]
      exact congrArg (fun entries => (Except.ok entries, _)) added
  | false =>
      have empty : named = [] := by simpa [Heap.entries_of_not_isTrue filled] using holds.entries
      subst empty
      exact gives_pure h []

/-- A dispatch is the work of the handler with the named parameters, unless there is no time for it. -/
theorem dispatch_eq (found : r.get name = .ok handler) (holds : Holds d.heap p named) (waits : isOver wait = false)
    (fits : handler.complaint? named = none) :
    r.dispatch name input (.dict p) wait d =
      (((handler.work input named).run d).1.mapError (failureOf name wait), ((handler.work input named).run d).2) := by
  unfold dispatch
  rw [found]
  dsimp only
  rw [Work.run_reading (gives_parameterEntries holds)]
  have attended : attend handler input (named.map fun e => (.str e.1, e.2)) wait = handler.work input named := by
    unfold attend
    rw [namedOf_named]
    simp [waits, Handler.call, fits]
  dsimp only [Except.mapError]
  rw [attended]
  rcases (handler.work input named).run d with ⟨outcome, d⟩
  cases outcome <;> rfl

end Registry

end WorkflowEngine
