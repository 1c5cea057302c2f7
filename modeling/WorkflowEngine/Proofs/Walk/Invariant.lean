import WorkflowEngine.Proofs.Walk.DepthFirst

/-!
# Invariants of walks

An invariant relates what is pending to the state of the walk.  If every turn of the walk keeps it, then it
holds before every step that is taken, and what follows from it wherever the walk may end holds at the end.
-/

namespace WorkflowEngine

namespace Guide

variable {σ ε α : Type} {g : Guide σ ε α} {J : List (String × α) → σ → Prop} {K : σ → Prop}

/-- The turns of a walk keep `J`, and `K` holds where the walk may end. -/
structure Invariant (g : Guide σ ε α) (J : List (String × α) → σ → Prop) (K : σ → Prop) : Prop where
  left : ∀ {pending s}, J pending s → K s
  ended : ∀ {id input rest s n t}, J ((id, input) :: rest) s → g.workflow.node? id = some n →
    g.visit n input s = (.ended, t) → J rest t
  stopped : ∀ {id input rest s n e t}, J ((id, input) :: rest) s → g.workflow.node? id = some n →
    g.visit n input s = (.stopped e, t) → K t
  refused : ∀ {id input rest s n output chosen t e u}, J ((id, input) :: rest) s → g.workflow.node? id = some n →
    g.visit n input s = (.onward output chosen, t) → g.spread output (g.targets n chosen) t = (.error e, u) → K u
  onward : ∀ {id input rest s n output chosen t inputs u}, J ((id, input) :: rest) s →
    g.workflow.node? id = some n → g.visit n input s = (.onward output chosen, t) →
    g.spread output (g.targets n chosen) t = (.ok inputs, u) → J (inputs ++ rest) u

namespace Invariant

/-- What follows from an invariant holds where the walk ends. -/
theorem walk (keeps : g.Invariant J K) {limit : Nat} {pending : List (String × α)} {s : σ} (holds : J pending s) :
    K (g.walk limit pending s).2 := by
  induction limit, pending, s using walk.induct g with
  | case1 limit s =>
      rw [walk_nil]
      exact keeps.left holds
  | case2 limit s id input rest absent =>
      rw [walk_missing absent]
      exact keeps.left holds
  | case3 s id input rest n found =>
      rw [walk_exceeded found]
      exact keeps.left holds
  | case4 s id input rest n found limit t visited ih =>
      rw [walk_ended found visited]
      exact ih (keeps.ended holds found visited)
  | case5 s id input rest n found limit e t visited =>
      rw [walk_stopped found visited]
      exact keeps.stopped holds found visited
  | case6 s id input rest n found limit output chosen t visited e u given =>
      rw [walk_onward_error found visited given]
      exact keeps.refused holds found visited given
  | case7 s id input rest n found limit output chosen t visited inputs u given ih =>
      rw [walk_onward_ok found visited given]
      exact ih (keeps.onward holds found visited given)

end Invariant

/-- What holds of whatever a visit or the passing on of an output ends the walk with holds of what the walk is stopped
by. -/
theorem stopped_of_walk {P : ε → Prop} (visit : ∀ n input s e t, g.visit n input s = (.stopped e, t) → P e)
    (spread : ∀ output ids s e t, g.spread output ids s = (.error e, t) → P e) {limit : Nat}
    {pending : List (String × α)} {s t : σ} {e : ε} (ended : g.walk limit pending s = (.stopped e, t)) : P e := by
  induction limit, pending, s using walk.induct g with
  | case1 limit s =>
      rw [walk_nil] at ended
      cases ended
  | case2 limit s id input rest absent =>
      rw [walk_missing absent] at ended
      cases ended
  | case3 s id input rest n found =>
      rw [walk_exceeded found] at ended
      cases ended
  | case4 s id input rest n found limit u visited ih =>
      rw [walk_ended found visited] at ended
      exact ih ended
  | case5 s id input rest n found limit e' u visited =>
      rw [walk_stopped found visited] at ended
      cases ended
      exact visit n input s e t visited
  | case6 s id input rest n found limit output chosen u visited e' v given =>
      rw [walk_onward_error found visited given] at ended
      cases ended
      exact spread output _ u e t given
  | case7 s id input rest n found limit output chosen u visited inputs v given ih =>
      rw [walk_onward_ok found visited given] at ended
      exact ih ended

/-- A property of the state that visits keep, and that passing outputs on keeps, is an invariant. -/
theorem invariant_of_keeps {I : σ → Prop}
    (visit : ∀ n input s, g.workflow.node? n.id = some n → I s → I (g.visit n input s).2)
    (spread : ∀ output ids s, I s → I (g.spread output ids s).2) : g.Invariant (fun _ => I) I := by
  have visits {id input s n p t} (holds : I s) (found : g.workflow.node? id = some n)
      (visited : g.visit n input s = (p, t)) : I t := by
    obtain ⟨-, rfl⟩ := Workflow.mem_of_node? found
    have kept := visit n input s found holds
    rwa [visited] at kept
  have spreads {output ids s r t} (holds : I s) (given : g.spread output ids s = (r, t)) : I t := by
    have kept := spread output ids s holds
    rwa [given] at kept
  exact {
    left := id
    ended := visits
    stopped := visits
    refused := fun holds found visited given => spreads (visits holds found visited) given
    onward := fun holds found visited given => spreads (visits holds found visited) given }

section Recording

variable {n : Node} {input : α} {output : α} {ids : List String} {p : Passage ε α} {a b : σ × List (NodeStep σ α)}
  {r : Except ε (List (String × α))}

/-- A guide that keeps its steps visits as the guide does. -/
theorem of_recording_visit (visited : g.recording.visit n input a = (p, b)) :
    g.visit n input a.1 = (p, b.1) ∧ b.2 = ⟨n, input, a.1⟩ :: a.2 := by
  cases visited
  exact ⟨rfl, rfl⟩

theorem of_recording_spread (given : g.recording.spread output ids a = (r, b)) :
    g.spread output ids a.1 = (r, b.1) ∧ b.2 = a.2 := by
  cases given
  exact ⟨rfl, rfl⟩

/-- What follows from an invariant holds before every step that was taken. -/
theorem Invariant.recording (keeps : g.Invariant J K) {P : σ → Prop} (shows : ∀ pending s, J pending s → P s) :
    g.recording.Invariant (fun pending s => J pending s.1 ∧ ∀ step ∈ s.2, P step.before)
      (fun s => K s.1 ∧ ∀ step ∈ s.2, P step.before) where
  left := fun ⟨holds, before⟩ => ⟨keeps.left holds, before⟩
  ended := fun ⟨holds, before⟩ found visited => by
    obtain ⟨ran, taken⟩ := of_recording_visit visited
    exact ⟨keeps.ended holds found ran, taken ▸ List.forall_mem_cons.mpr ⟨shows _ _ holds, before⟩⟩
  stopped := fun ⟨holds, before⟩ found visited => by
    obtain ⟨ran, taken⟩ := of_recording_visit visited
    exact ⟨keeps.stopped holds found ran, taken ▸ List.forall_mem_cons.mpr ⟨shows _ _ holds, before⟩⟩
  refused := fun ⟨holds, before⟩ found visited given => by
    obtain ⟨ran, taken⟩ := of_recording_visit visited
    obtain ⟨spread, still⟩ := of_recording_spread given
    refine ⟨keeps.refused holds found ran spread, ?_⟩
    rw [still, taken]
    exact List.forall_mem_cons.mpr ⟨shows _ _ holds, before⟩
  onward := fun ⟨holds, before⟩ found visited given => by
    obtain ⟨ran, taken⟩ := of_recording_visit visited
    obtain ⟨spread, still⟩ := of_recording_spread given
    refine ⟨keeps.onward holds found ran spread, ?_⟩
    rw [still, taken]
    exact List.forall_mem_cons.mpr ⟨shows _ _ holds, before⟩

/-- Where visits and the passing on of outputs only lead upwards, the end of a walk lies above every step. -/
theorem rises_invariant {R : σ → σ → Prop} (trans : ∀ {s t u}, R s t → R t u → R s u)
    (visit : ∀ n input s, R s (g.visit n input s).2) (spread : ∀ output ids s, R s (g.spread output ids s).2) :
    g.recording.Invariant (fun _ s => ∀ step ∈ s.2, R step.before s.1) (fun s => ∀ step ∈ s.2, R step.before s.1) := by
  refine invariant_of_keeps (fun n input s _ below => ?_) (fun output ids s below => ?_)
  · have later : R s.1 (g.visit n input s.1).2 := visit n input s.1
    exact List.forall_mem_cons.mpr ⟨later, fun step listed => trans (below step listed) later⟩
  · exact fun step listed => trans (below step listed) (spread output ids s.1)

end Recording

/-- An invariant over the steps taken so far, the latest first, speaks about the steps of the walk and about
the state that it ends in. -/
theorem Invariant.steps {J : List (String × α) → σ × List (NodeStep σ α) → Prop}
    {K : σ × List (NodeStep σ α) → Prop} (keeps : g.recording.Invariant J K) {limit : Nat}
    {pending : List (String × α)} {s : σ} (holds : J pending (s, [])) :
    K ((g.walk limit pending s).2, (g.steps limit pending s).reverse) := by
  have final : K (g.recording.walk limit pending (s, [])).2 := keeps.walk holds
  obtain ⟨taken, kept⟩ := walk_recording g limit pending s []
  have listed : (g.steps limit pending s).reverse = taken := by
    rw [Guide.steps, kept, List.reverse_reverse]
  rw [kept] at final
  rw [listed]
  exact final

end Guide

namespace Order

variable {o : Order} {task : Node → Value → Act Product}
  {J : List (String × Value) → Scene × List (NodeStep Scene Value) → Prop} {K : Scene × List (NodeStep Scene Value) → Prop}

/-- An invariant that holds as soon as the triggers have their copies of the input speaks about the whole walk. -/
theorem walkWith_invariant (payload : Value) (s : Scene) (keeps : (o.guide task).recording.Invariant J K)
    (begins : ∀ pending h, Scene.copies payload [] s.heap (o.workflow.triggers.map Node.id) = (.ok pending, h) →
      J pending ({ s with heap := h }, []))
    (fails : ∀ f h, Scene.copies payload [] s.heap (o.workflow.triggers.map Node.id) = (.error f, h) →
      K ({ s with heap := h }, [])) :
    K ((o.walkWith task payload s).2, (o.steps task payload s).reverse) := by
  unfold walkWith steps
  rcases copied : Scene.copies payload [] s.heap (o.workflow.triggers.map Node.id) with ⟨outcome, h⟩
  cases outcome with
  | error f => exact fails f h copied
  | ok pending => exact keeps.steps (begins pending h copied)

end Order

end WorkflowEngine
