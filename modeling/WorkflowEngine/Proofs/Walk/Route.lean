import WorkflowEngine.Engine.Run

/-!
# Where outputs go

A node sends its output along all of its edges, or it chooses among the nodes that they lead to.  The
tasks of all kinds of nodes keep to this, so a walk never leaves the edges.
-/

namespace WorkflowEngine

namespace Act

variable {α β : Type} {P : α → Prop} {Q : β → Prop}

/-- What the work comes to has a property, if it comes to something. -/
def Yields (a : Act α) (P : α → Prop) : Prop :=
  ∀ stage v stage', a.run stage = (.ok v, stage') → P v

theorem yields_pure {v : α} (holds : P v) : Yields (pure v) P := by
  intro stage v' stage' done
  cases done
  exact holds

/-- The last part of the work decides what it comes to. -/
theorem yields_bind {a : Act α} {f : α → Act β} (first : Yields a P) (second : ∀ v, P v → Yields (f v) Q) :
    Yields (a >>= f) Q := by
  intro stage v stage' done
  rw [run_bind] at done
  rcases ran : a.run stage with ⟨outcome, middle⟩
  rw [ran] at done
  cases outcome with
  | error e => cases done
  | ok u => exact second u (first stage u middle ran) middle v stage' done

/-- Whatever comes before, the last part of the work decides what it comes to. -/
theorem yields_after {a : Act α} {f : α → Act β} (second : ∀ v, Yields (f v) Q) : Yields (a >>= f) Q :=
  yields_bind (P := fun _ => True) (fun _ _ _ _ => trivial) fun v _ => second v

end Act

namespace Workflow

/-- A choice keeps to the edges of a node if it leaves out some of the nodes that they lead to, or none. -/
def Offers (w : Workflow) (n : Node) (chosen : Option (List String)) : Prop :=
  (chosen.getD (w.successors n.id)).Sublist (w.successors n.id)

/-- The tasks send outputs only along the edges. -/
def Routes (w : Workflow) (task : Node → Value → Act Product) : Prop :=
  ∀ n input, (task n input).Yields fun product => w.Offers n product.2

theorem offers_none (w : Workflow) (n : Node) : w.Offers n none :=
  List.Sublist.refl _

theorem offers_nil (w : Workflow) (n : Node) : w.Offers n (some []) :=
  List.nil_sublist _

theorem offers_target {w : Workflow} {n : Node} {e : Edge} (leaves : e ∈ w.outgoing n.id) :
    w.Offers n (some [e.target]) :=
  List.singleton_sublist.mpr (List.mem_map_of_mem leaves)

end Workflow

namespace Act

/-- A condition chooses the end of one of its edges, or nothing. -/
theorem choose_offers (setting : Setting) (n : Node) (c : ConditionConfig) (input : Value) :
    Yields (choose setting n c input) fun product => setting.workflow.Offers n product.2 := by
  unfold choose
  refine yields_after fun _ => yields_after fun s => yields_after fun ⟨holds, results⟩ => yields_after fun _ => ?_
  split
  · rename_i e found
    exact yields_pure (Workflow.offers_target (List.mem_of_find?_eq_some found))
  · exact yields_after fun _ => yields_pure (Workflow.offers_nil _ n)

/-- The tasks of all kinds of nodes send outputs only along the edges. -/
theorem perform_routes (setting : Setting) : setting.workflow.Routes (perform setting) := by
  intro n input
  unfold perform
  split
  · exact yields_pure (Workflow.offers_none _ n)
  · exact yields_after fun _ => yields_pure (Workflow.offers_none _ n)
  · exact choose_offers setting n _ input
  · exact yields_after fun _ => yields_pure (Workflow.offers_none _ n)
  · exact yields_after fun _ => yields_pure (Workflow.offers_none _ n)
  · exact yields_after fun _ => yields_pure (Workflow.offers_none _ n)
  · exact yields_after fun _ => yields_pure (Workflow.offers_nil _ n)

end Act

namespace Scene

variable {w : Workflow} {task : Node → Value → Act Product} {n : Node} {input output v : Value}
  {chosen : Option (List String)} {s t : Scene} {ids : List String} {inputs : List (String × Value)}

/-- A visit passes its output on to what the task of the node chooses. -/
theorem visit_yields {P : Option (List String) → Prop} (yields : (task n input).Yields fun product => P product.2)
    (visited : visit w task n input s = (.onward output chosen, t)) : P chosen := by
  have completes : (Act.complete task n input).Yields fun done => P done.1.2 := by
    unfold Act.complete
    refine Act.yields_after fun _ => Act.yields_bind yields fun product holds => ?_
    exact Act.yields_after fun _ => Act.yields_after fun _ => Act.yields_pure holds
  unfold visit at visited
  split at visited
  · cases visited
  · split at visited
    · rename_i done
      cases visited
      exact completes _ _ _ done
    · unfold failVisit at visited
      dsimp only at visited
      split at visited
      · cases visited
      · split at visited <;> cases visited

/-- So it keeps to the edges if the task does. -/
theorem visit_offers (routes : w.Routes task) (visited : visit w task n input s = (.onward output chosen, t)) :
    w.Offers n chosen :=
  visit_yields (routes n input) visited

theorem copies_behind_ids {done : List (String × Value)} {h h' : Heap}
    (given : copies v done h ids = (.ok inputs, h')) : inputs.map Prod.fst = done.reverse.map Prod.fst ++ ids := by
  induction ids generalizing done h with
  | nil =>
      cases given
      exact (List.append_nil _).symm
  | cons id ids ih =>
      unfold copies at given
      split at given
      · cases given
      · rw [ih given]
        simp

/-- The copies of a value go to the given nodes, in order. -/
theorem copies_ids {h h' : Heap} (given : copies v [] h ids = (.ok inputs, h')) : inputs.map Prod.fst = ids :=
  copies_behind_ids given

/-- Every node that an output goes to gets one input. -/
theorem spread_ids (given : spread v ids s = (.ok inputs, t)) : inputs.map Prod.fst = ids := by
  unfold spread at given
  split at given
  · cases given
    rfl
  · split at given
    · rename_i copied
      cases given
      exact copies_ids copied
    · cases given

end Scene

end WorkflowEngine
