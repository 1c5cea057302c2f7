import Mathlib
import WorkflowEngine.Proofs.Frame.Expression
import WorkflowEngine.Proofs.Frame.Machine
import WorkflowEngine.Value.View

/-!
# What becomes of the input and the variables

An expression is given its input and the variables as they are, not as copies.  It leaves them as they are,
whether it yields a value or faults, unless it gives a function that asks for keys a method that changes one
of them in place.
-/

/-!
## Values on kept heaps

A value whose containers are kept shows the same data, however deep one looks.
-/

namespace WorkflowEngine

/-- The containers that a value names stand below an address. -/
def Value.Inside (n : Nat) : Value → Prop
  | .list a => a < n
  | .tuple a => a < n
  | .set a => a < n
  | .dict a => a < n
  | .slice lower upper step => lower.Inside n ∧ upper.Inside n ∧ step.Inside n
  | _ => True

namespace Heap

/-- Every container that is named on the heap stands on it. -/
structure Closed (h : Heap) : Prop where
  items : ∀ a, ∀ v ∈ h.items a, v.Inside h.cells.size
  entries : ∀ a, ∀ e ∈ h.entries a, e.1.Inside h.cells.size ∧ e.2.Inside h.cells.size

variable {n : Nat} {h h' : Heap} {a : Address}

theorem Keeps.items (kept : Keeps n h h') (below : a < n) : h'.items a = h.items a := by
  unfold Heap.items
  rw [kept.same a below]

theorem Keeps.entries (kept : Keeps n h h') (below : a < n) : h'.entries a = h.entries a := by
  unfold Heap.entries
  rw [kept.same a below]

/-- A kept value shows the same data at every depth. -/
theorem Keeps.viewIn (kept : Keeps h.cells.size h h') (closed : h.Closed) (depth : Nat) (path : List Address)
    {v : Value} (inside : v.Inside h.cells.size) : h'.viewIn depth path v = h.viewIn depth path v := by
  induction depth generalizing path v with
  | zero => rfl
  | succ depth ih =>
      have parts (a : Address) : ((h.items a).map fun v => h'.viewIn depth (a :: path) v) =
          (h.items a).map fun v => h.viewIn depth (a :: path) v :=
        List.map_congr_left fun v listed => ih (a :: path) (closed.items a v listed)
      induction v with
      | list a => simp only [Heap.viewIn, Value.outline, kept.items inside, parts]
      | tuple a => simp only [Heap.viewIn, Value.outline, kept.items inside, parts]
      | set a => simp only [Heap.viewIn, Value.outline, kept.items inside, parts]
      | dict a =>
          have pairs : ((h.entries a).map fun e => (h'.viewIn depth (a :: path) e.1, h'.viewIn depth (a :: path) e.2)) =
              (h.entries a).map fun e => (h.viewIn depth (a :: path) e.1, h.viewIn depth (a :: path) e.2) := by
            refine List.map_congr_left fun e listed => ?_
            rw [ih (a :: path) (closed.entries a e listed).1, ih (a :: path) (closed.entries a e listed).2]
          simp only [Heap.viewIn, Value.outline, kept.entries inside, pairs]
      | slice lower upper step ihLower ihUpper ihStep =>
          have parts := congr (congr (congrArg Data.slice (ihLower inside.1)) (ihUpper inside.2.1)) (ihStep inside.2.2)
          exact parts
      | _ => rfl

end Heap

end WorkflowEngine

/-! ## Expressions -/

namespace WorkflowEngine.Expression

open Eval

variable {n : Nat}

/-- The functions that expressions may call change nothing by themselves. -/
theorem standardFunctions_harmless (name : String) (function : Value)
    (found : standardFunctions.lookup name = some function) (v : Value) : function.changed? v = none := by
  obtain ⟨before, after, listed, -⟩ := List.lookup_eq_some_iff.mp found
  have member : (name, function) ∈ standardFunctions := by
    rw [listed]
    exact List.mem_append_right _ List.mem_cons_self
  have harmless : ∀ entry ∈ standardFunctions, entry.2.changed? v = none := by
    simp [standardFunctions, Value.changed?]
  exact harmless _ member

theorem guards_statement {s : Setting} {guarded : Fault → Aggregate.Apply} (safe : s.GuardedBy n guarded)
    (statement : Statement) :
    Guards n (evaluateStatement s statement) fun f => evaluateStatement (s.applying (guarded f)) statement := by
  cases statement with
  | value tree => exact guards_tree safe .empty tree
  | importing => exact guards_of_keeps (keeps_fail _)
  | refused construct => exact guards_of_keeps (keeps_fail _)

/-- The evaluation of a text is in need of no guard but that of the keys. -/
theorem guards_evaluateWith {apply : Aggregate.Apply} {guarded : Fault → Aggregate.Apply}
    (guards : Aggregate.Guarded n apply guarded) (expression : String) (input vars : Value) :
    Guards n (evaluateWith apply standardFunctions expression input vars) fun f =>
      evaluateWith (guarded f) standardFunctions expression input vars := by
  unfold evaluateWith
  refine guards_after (keeps_isTrue vars) fun given => ?_
  split
  all_goals
    refine guards_after ?_ fun vars => ?_
    · first
      | exact keeps_pure vars
      | exact keeps_newDict []
    · dsimp only
      split
      · exact guards_of_keeps (keeps_fail _)
      · split
        · exact guards_of_keeps (keeps_fail _)
        · exact guards_of_keeps (keeps_fail _)
        · exact guards_after keeps_heap fun h => guards_statement ⟨guards, standardFunctions_harmless⟩ _

/-- An evaluation in which a key would change a container that is there before comes to a fault. -/
def evaluateGuarded (h : Heap) (f : Fault) (expression : String) (input vars : Value) : Except Fault Value × Heap :=
  Eval.run (evaluateWith (Value.applyGuarded h.cells.size f) standardFunctions expression input vars) h

/-- In the course of an evaluation a key is applied that changes a container that is there before: with a guard
that turns such keys away, the evaluation comes to the fault of the guard, whichever this is. -/
def Disturbs (h : Heap) (expression : String) (input vars : Value) : Prop :=
  ∀ f, (evaluateGuarded h f expression input vars).1 = .error f

/-- An evaluation leaves every container that is there before as it is, the input and the variables among them,
unless it applies a key that changes one of them.  Such a key is one of the methods of lists, dictionaries and
sets that change their value; where there is none, the guard against them makes no difference. -/
theorem evaluate_disturbs_or_keeps (expression : String) (input vars : Value) (h : Heap) :
    let ran := Eval.run (evaluate standardFunctions expression input vars) h
    Disturbs h expression input vars ∨
      (∀ f, evaluateGuarded h f expression input vars = ran) ∧
      (∀ a < h.cells.size, ran.2.cell? a = h.cell? a) ∧
      (h.Closed → ∀ v : Value, v.Inside h.cells.size → ∀ depth,
        ran.2.viewIn depth [] v = h.viewIn depth [] v) := by
  intro ran
  have guards := guards_evaluateWith (Value.guarded_applyKey h.cells.size) expression input vars
  rcases guards ⟨h, 0⟩ (Nat.le_refl _) with refused | ⟨same, kept⟩
  · exact .inl refused
  · refine .inr ⟨fun f => ?_, kept.same, fun closed v inside depth => kept.viewIn closed depth [] inside⟩
    have equal := same f
    unfold evaluateGuarded
    simp only [Eval.run, equal]
    rfl

set_option maxRecDepth 20000 in
/-- An input that is a list grows by the item, where its own method is the key. -/
theorem appending_key_disturbs :
    let h : Heap := ⟨#[.list [.int 1], .dict []], 0⟩
    let ran := Eval.run (evaluate standardFunctions "[max([2],key=input.append),input]" (.list 0) (.dict 1)) h
    h.view (.list 0) = .list [.int 1] ∧ ran.2.view (.list 0) = .list [.int 1, .int 2] := by
  constructor
  · rfl
  · cbv

set_option maxRecDepth 20000 in
/-- A method that only asks is a key that the guard lets pass. -/
example : (evaluateGuarded ⟨#[.list [.int 1], .dict []], 0⟩ .exhausted "max([2],key=input.count)" (.list 0)
    (.dict 1)).1 = .ok (.int 2) := by
  cbv

end WorkflowEngine.Expression
