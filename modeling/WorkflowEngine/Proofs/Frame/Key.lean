import WorkflowEngine.Call.Routine
import WorkflowEngine.Proofs.Frame.Method

/-!
# Keys

A key is called by a function that expressions may call, so it is where a method is called that expressions
may not call by themselves.  A guard turns away the keys that change a container below an address.  Where it
turns none away it makes no difference, and those containers are kept.
-/

namespace WorkflowEngine

open Eval

variable {n : Nat} {α β : Type}

namespace Eval

/-- A guarded evaluation comes to its fault, whichever it is given, or else the guard makes no difference and the
containers below an address are kept. -/
def Guards (n : Nat) (e : Eval α) (guarded : Fault → Eval α) : Prop :=
  ∀ m : Machine, n ≤ m.heap.cells.size →
    (∀ f, ((guarded f).exec m).1 = .error f) ∨
      ((∀ f, (guarded f).exec m = e.exec m) ∧ m.heap.Keeps n (e.exec m).2.heap)

/-- An evaluation without a guard that keeps the containers needs none. -/
theorem guards_of_keeps {e : Eval α} (keeps : Keeps n e) : Guards n e fun _ => e :=
  fun m room => .inr ⟨fun _ => rfl, keeps m room⟩

/-- An evaluation that needs no guard keeps the containers. -/
theorem keeps_of_guards {e : Eval α} (guards : Guards n e fun _ => e) : Keeps n e := by
  intro m room
  rcases guards m room with refused | ⟨-, kept⟩
  · have first : (e.exec m).1 = .error .exhausted := refused _
    have second : (e.exec m).1 = .error (.missingKey .null) := refused _
    rw [first] at second
    cases second
  · exact kept

/-- The guard of a sequence is the guard of its parts. -/
theorem guards_bind {e : Eval α} {guarded : Fault → Eval α} {k : α → Eval β} {guardedRest : Fault → α → Eval β}
    (first : Guards n e guarded) (second : ∀ v, Guards n (k v) fun f => guardedRest f v) :
    Guards n (e >>= k) fun f => guarded f >>= guardedRest f := by
  intro m room
  simp only [exec_bind]
  rcases first m room with refused | ⟨same, kept⟩
  · left
    intro f
    have fault := refused f
    rcases ran : (guarded f).exec m with ⟨outcome, m'⟩
    rw [ran] at fault
    cases fault
    rfl
  · simp only [same]
    rcases ran : e.exec m with ⟨outcome, m'⟩
    rw [ran] at kept
    cases outcome with
    | error fault => exact .inr ⟨fun _ => rfl, kept⟩
    | ok v =>
        rcases second v m' kept.room with refused | ⟨same, keptRest⟩
        · exact .inl refused
        · exact .inr ⟨same, kept.trans keptRest⟩

/-- A first part that keeps the containers needs no guard. -/
theorem guards_after {e : Eval α} {k : α → Eval β} {guardedRest : Fault → α → Eval β} (first : Keeps n e)
    (second : ∀ v, Guards n (k v) fun f => guardedRest f v) :
    Guards n (e >>= k) fun f => e >>= guardedRest f :=
  guards_bind (guards_of_keeps first) second

end Eval

namespace Aggregate

variable {apply : Apply} {guarded : Fault → Apply}

/-- An application of keys is guarded, whatever the key and the item. -/
def Guarded (n : Nat) (apply : Apply) (guarded : Fault → Apply) : Prop :=
  ∀ key item, Guards n (apply key item) fun f => guarded f key item

theorem guards_keyOf (guards : Guarded n apply guarded) (key : Option Value) (item : Value) :
    Guards n (keyOf apply key item) fun f => keyOf (guarded f) key item := by
  cases key with
  | none => exact guards_of_keeps (keeps_pure item)
  | some key =>
      cases key with
      | null => exact guards_of_keeps (keeps_pure item)
      | _ => exact guards _ item

/-- The search for the best item asks a key of every item. -/
theorem guards_bestFrom (guards : Guarded n apply guarded) (key : Option Value) (c : Comparison) (fuel : Nat)
    (best : Option (Value × Value)) (cursor : Cursor) :
    Guards n (bestFrom apply key c fuel best cursor) fun f => bestFrom (guarded f) key c fuel best cursor := by
  induction fuel generalizing best cursor with
  | zero => exact guards_of_keeps (keeps_pure best)
  | succ fuel ih =>
      refine guards_after (Cursor.keeps_next cursor) fun found => ?_
      rcases found with _ | ⟨item, cursor⟩
      · exact guards_of_keeps (keeps_pure best)
      · refine guards_bind (guards_keyOf guards key item) fun k => ?_
        rcases best with _ | ⟨other, k'⟩
        · exact ih _ _
        · refine guards_after (Value.keeps_compare k k' c) fun better => ?_
          cases better with
          | true => exact ih _ _
          | false => exact ih _ _

theorem keeps_cursorFor (key : Option Value) (v : Value) : Keeps n (cursorFor key v) := by
  unfold cursorFor
  split
  · exact Cursor.keeps_start v
  · exact Cursor.keeps_start v
  · exact keeps_bind (keeps_iterate v) fun values => keeps_pure _

theorem guards_best (guards : Guarded n apply guarded) (routine : String) (c : Comparison) (a : Arguments) :
    Guards n (best apply routine c a) fun f => best (guarded f) routine c a := by
  unfold best
  dsimp only
  split
  · exact guards_of_keeps (keeps_fail _)
  · refine guards_after (Arguments.keeps_bind _ _ _ _) fun given => ?_
    split
    · rename_i key fallback
      split
      · exact guards_of_keeps (keeps_fail _)
      · split
        all_goals
          refine guards_after ?_ fun cursor => ?_
          · first
            | exact keeps_cursorFor key _
            | exact keeps_pure _
          · refine guards_bind (guards_bestFrom guards key c walkLimit none cursor) fun found => ?_
            apply guards_of_keeps
            split
            · exact keeps_pure _
            · split
              · exact keeps_pure _
              · exact keeps_fail _
    · exact guards_of_keeps (keeps_pure _)

/-- The keys of items are asked for in their order. -/
theorem guards_keysOf (guards : Guarded n apply guarded) (key : Option Value) (done : List (Data × Value))
    (items : List Value) :
    Guards n (keysOf apply key done items) fun f => keysOf (guarded f) key done items := by
  induction items generalizing done with
  | nil => exact guards_of_keeps (keeps_pure _)
  | cons item rest ih =>
      refine guards_bind (guards_keyOf guards key item) fun k => ?_
      exact guards_after (keeps_view k) fun d => ih _

theorem guards_sorted (guards : Guarded n apply guarded) (a : Arguments) :
    Guards n (sorted apply a) fun f => sorted (guarded f) a := by
  unfold sorted
  split
  · rename_i v positional
    refine guards_after (keeps_iterate v) fun values => ?_
    refine guards_after (Arguments.keeps_bind _ _ _ _) fun given => ?_
    split
    · rename_i key reverse
      cases reverse with
      | none =>
          refine guards_after (keeps_pure false) fun falling => ?_
          refine guards_bind (guards_keysOf guards key [] values) fun pairs => guards_of_keeps ?_
          split <;> exact keeps_bind (keeps_lift _) fun ranked => keeps_newList _
      | some r =>
          refine guards_after (Conversion.keeps_indexOf r) fun i => guards_after (keeps_pure _) fun falling => ?_
          refine guards_bind (guards_keysOf guards key [] values) fun pairs => guards_of_keeps ?_
          split <;> exact keeps_bind (keeps_lift _) fun ranked => keeps_newList _
    · exact guards_of_keeps (keeps_newList values)
  · exact guards_of_keeps (keeps_fail _)

theorem keeps_sumFrom (total : Value) (items : List Value) : Keeps n (sumFrom total items) := by
  induction items generalizing total with
  | nil => exact keeps_pure total
  | cons item rest ih => exact keeps_bind (Value.keeps_add total item) fun _ => ih _

theorem keeps_sum (a : Arguments) : Keeps n (sum a) := by
  unfold sum
  split
  · exact keeps_fail _
  · refine keeps_bind (Arguments.keeps_bind a _ _ _) fun given => ?_
    split
    · refine keeps_bind (keeps_iterate _) fun values => ?_
      split
      · exact keeps_sumFrom _ values
      · exact keeps_fail _
      · exact keeps_fail _
      · exact keeps_sumFrom _ values
    · exact keeps_pure _

theorem keeps_round (a : Arguments) : Keeps n (round a) := by
  unfold round
  refine keeps_bind (Arguments.keeps_bind a _ _ _) fun given => ?_
  split
  · dsimp only
    split
    · split
      · exact keeps_bind (keeps_lift _) fun i => keeps_pure _
      · refine keeps_bind (Conversion.keeps_indexOf _) fun places => ?_
        exact keeps_bind (keeps_lift _) keeps_float
    · split
      · exact keeps_bind (keeps_lift _) fun i => keeps_pure _
      · exact keeps_bind (Conversion.keeps_indexOf _) fun places => keeps_pure _
    · split
      · split
        · exact keeps_pure _
        · exact keeps_bind (Conversion.keeps_indexOf _) fun places => keeps_pure _
      · exact keeps_fail _
  · exact keeps_fail _

end Aggregate

theorem Routine.keeps_plain (v : Value) : Keeps n (plain v) := by
  unfold plain
  exact keeps_bind (keeps_view v) fun d => keeps_lift _

/-- Only the routines that ask for keys are in need of a guard. -/
theorem Routine.guards_call {apply : Aggregate.Apply} {guarded : Fault → Aggregate.Apply}
    (guards : Aggregate.Guarded n apply guarded) (r : Routine) (a : Arguments) :
    Guards n (r.call apply a) fun f => r.call (guarded f) a := by
  cases r with
  | minimum => exact Aggregate.guards_best guards "min" .less a
  | maximum => exact Aggregate.guards_best guards "max" .greater a
  | sorting => exact Aggregate.guards_sorted guards a
  | rounding => exact guards_of_keeps (Aggregate.keeps_round a)
  | total => exact guards_of_keeps (Aggregate.keeps_sum a)
  | length =>
      refine guards_of_keeps (keeps_bind (Arguments.keeps_single a _) fun v => ?_)
      exact keeps_bind (keeps_length v) fun size => keeps_pure _
  | absolute => exact guards_of_keeps (keeps_bind (Arguments.keeps_single a _) Value.keeps_absolute)
  | doubling =>
      exact guards_of_keeps (keeps_bind (Arguments.keeps_bindOne a _ _) fun v => Value.keeps_multiply v _)
  | _ =>
      refine guards_of_keeps (keeps_bind (Arguments.keeps_bindOne a _ _) fun v => ?_)
      exact keeps_bind (keeps_plain v) fun text => keeps_pure _

namespace Value

/-- The container that a key changes in place when it is applied to an item. -/
def changed? (key item : Value) : Option Address :=
  match key with
  | .method owner name => if (Method.changingBound owner.kindOf).contains name then owner.address? else none
  | .descriptor kind name =>
    if item.kindOf == kind && (Method.changingUnbound kind).contains name then item.address? else none
  | _ => none

/-- Calling a value keeps the containers, as long as it is no method that changes one of them. -/
theorem guards_callWith {apply : Aggregate.Apply} {guarded : Fault → Aggregate.Apply}
    (guards : Aggregate.Guarded n apply guarded) (callee : Value) (a : Arguments)
    (above : ∀ v, a.positional = [v] → ∀ t, callee.changed? v = some t → n ≤ t) :
    Guards n (callee.callWith apply a) fun f => callee.callWith (guarded f) a := by
  cases callee with
  | routine r => exact Routine.guards_call guards r a
  | type k => exact guards_of_keeps (Conversion.keeps_make a k)
  | method owner name =>
      apply guards_of_keeps
      simp only [callWith]
      split
      · rename_i v given
        refine Method.keeps_callBound fun t stands changing => above v given t ?_
        simp [changed?, changing, stands]
      · exact keeps_fail _
  | descriptor kind name =>
      apply guards_of_keeps
      simp only [callWith]
      split
      · exact keeps_fail _
      · split
        · rename_i v given
          refine Method.keeps_callUnbound fun t stands same changing => above v given t ?_
          simp [changed?, changing, stands, same]
        · exact keeps_fail _
  | _ => exact guards_of_keeps (keeps_fail _)

/-- A key that changes no container below an address keeps them all. -/
theorem keeps_applyKey {key item : Value} (above : ∀ t, key.changed? item = some t → n ≤ t) :
    Keeps n (applyKey key item) := by
  have nothing : Aggregate.Guarded n applyNothing fun _ => applyNothing :=
    fun _ item => guards_of_keeps (keeps_pure item)
  refine keeps_of_guards (guards_callWith nothing key (.one item) ?_)
  intro v given t changes
  cases given
  exact above t changes

/-- Applies a key, and comes to a fault in place of changing a container below an address. -/
def applyGuarded (n : Nat) (f : Fault) (key item : Value) : Eval Value :=
  if (key.changed? item).any (· < n) then fail f else applyKey key item

/-- The guard turns away what changes a container below the address, and nothing else. -/
theorem guarded_applyKey (n : Nat) : Aggregate.Guarded n applyKey (applyGuarded n) := by
  intro key item
  unfold applyGuarded
  cases below : (key.changed? item).any (· < n) with
  | true => exact fun m _ => .inl fun f => rfl
  | false =>
      refine guards_of_keeps (keeps_applyKey fun t changes => ?_)
      rw [changes] at below
      simpa using below

end Value

end WorkflowEngine
