import WorkflowEngine.Expression.Evaluation
import WorkflowEngine.Proofs.Frame.Key

/-!
# What expressions leave as they are

An expression changes a container that was there before it only where it hands a method that changes its
value to a function that asks for keys.
-/

namespace WorkflowEngine.Expression

open Eval

variable {n : Nat}

section Limits

variable (a b v : Value) (bound : Int)

theorem keeps_limitedAdd : Keeps n (limitedAdd a b) := by
  unfold limitedAdd
  split
  · refine keeps_bind (keeps_length a) fun first => keeps_bind (keeps_length b) fun second => ?_
    exact keeps_when (keeps_fail _) fun _ => Value.keeps_add a b
  · exact Value.keeps_add a b

theorem keeps_isTooLong (count : Value) (length : Nat) : Keeps n (isTooLong count length) := by
  unfold isTooLong
  exact keeps_bind (Value.keeps_multiply count _) fun total => Value.keeps_compare total _ _

theorem keeps_limitedMultiply : Keeps n (limitedMultiply a b) := by
  have second : Keeps n (do
      if isSized b then
        if ← isTooLong a (← length b) then fail (.refused "Sorry, I will not evaluate something that long.")
      Value.multiply a b) := by
    dsimp only
    split
    · refine keeps_bind (keeps_length b) fun size => keeps_bind (keeps_isTooLong a size) fun long => ?_
      exact keeps_when (keeps_fail _) fun _ => Value.keeps_multiply a b
    · exact Value.keeps_multiply a b
  unfold limitedMultiply
  dsimp only
  split
  · refine keeps_bind (keeps_length a) fun size => keeps_bind (keeps_isTooLong b size) fun long => ?_
    exact keeps_when (keeps_fail _) fun _ => second
  · exact second

theorem keeps_isBeyond : Keeps n (isBeyond v bound) := by
  unfold isBeyond
  exact keeps_bind (Value.keeps_absolute v) fun size => Value.keeps_compare size _ _

theorem keeps_refuseOperands (operator : String) : Keeps n (refuseOperands operator a b) := by
  unfold refuseOperands
  exact keeps_bind (keeps_text a) fun first => keeps_bind (keeps_text b) fun second => keeps_fail _

theorem keeps_limitedPower : Keeps n (limitedPower a b) := by
  unfold limitedPower
  refine keeps_bind (keeps_isBeyond a _) fun beyond => keeps_when (keeps_refuseOperands a b _) fun _ => ?_
  refine keeps_bind (keeps_isBeyond b _) fun beyond => keeps_when (keeps_refuseOperands a b _) fun _ => ?_
  exact Value.keeps_power a b

theorem keeps_limitedShift (operator : String) {shift : Value → Value → Eval Value}
    (keeps : ∀ a b, Keeps n (shift a b)) : Keeps n (limitedShift operator shift a b) := by
  unfold limitedShift
  refine keeps_bind (keeps_isBeyond b _) fun beyond => keeps_when (keeps_refuseOperands a b _) fun _ => ?_
  refine keeps_bind (keeps_isBeyond a _) fun beyond => keeps_when (keeps_refuseOperands a b _) fun _ => ?_
  exact keeps a b

end Limits

section Operators

variable (a b v : Value)

theorem keeps_applyUnary (operator : UnaryOperator) : Keeps n (applyUnary operator v) := by
  cases operator with
  | minus => exact v.keeps_negate
  | plus => exact v.keeps_keepSign
  | complement => exact v.keeps_invert
  | negation => exact keeps_bind (keeps_isTrue v) fun holds => keeps_pure _

theorem keeps_applyBinary (operator : BinaryOperator) : Keeps n (applyBinary operator a b) := by
  cases operator with
  | add => exact keeps_limitedAdd a b
  | subtract => exact Value.keeps_subtract a b
  | multiply => exact keeps_limitedMultiply a b
  | divide => exact Value.keeps_divide a b
  | floorDivide => exact Value.keeps_floorDivide a b
  | modulo => exact Value.keeps_modulo a b
  | power => exact keeps_limitedPower a b
  | shiftLeft => exact keeps_limitedShift a b _ Value.keeps_shiftLeft
  | shiftRight => exact keeps_limitedShift a b _ Value.keeps_shiftRight
  | bitOr => exact Value.keeps_bitOr a b
  | bitXor => exact Value.keeps_bitXor a b
  | bitAnd => exact Value.keeps_bitAnd a b
  | matrix => exact keeps_pure _

theorem keeps_applyLink (link : Link) : Keeps n (applyLink link a b) := by
  cases link with
  | equal => exact keeps_equals a b
  | notEqual => exact keeps_bind (keeps_equals a b) fun same => keeps_pure _
  | less => exact Value.keeps_compare a b _
  | lessEqual => exact Value.keeps_compare a b _
  | greater => exact Value.keeps_compare a b _
  | greaterEqual => exact Value.keeps_compare a b _
  | isIn => exact Value.keeps_contains b a
  | isNotIn => exact keeps_bind (Value.keeps_contains b a) fun found => keeps_pure _
  | isSame => exact keeps_bind keeps_heap fun h => keeps_pure _
  | isNotSame => exact keeps_bind keeps_heap fun h => keeps_pure _

theorem keeps_fieldValue (layout : String) : Keeps n (fieldValue v layout) := by
  unfold fieldValue
  split
  · refine keeps_bind (keeps_view v) fun d => keeps_bind (keeps_lift _) fun text => ?_
    exact keeps_fail _
  · exact keeps_fail _
  · exact keeps_fail _
  · exact keeps_bind (keeps_view v) fun d => keeps_bind (keeps_lift _) fun text => keeps_pure _

end Operators

theorem keeps_nameValue (s : Setting) (b : Bindings) (name : String) : Keeps n (nameValue s b name) := by
  unfold nameValue
  split
  · exact keeps_pure _
  · split
    · exact keeps_pure _
    · split
      · exact keeps_pure _
      · exact keeps_fail _

theorem keeps_constantValue (c : Constant) : Keeps n (constantValue c) := by
  cases c with
  | float x => exact keeps_float x
  | str t =>
      simp only [constantValue]
      split
      · exact keeps_fail _
      · exact keeps_pure _
  | bytes bs =>
      simp only [constantValue]
      split
      · exact keeps_fail _
      · exact keeps_pure _
  | _ => exact keeps_pure _

theorem keeps_entryOf (v : Value) (name : String) : Keeps n (entryOf? v name) := by
  unfold entryOf?
  split
  · exact keeps_bind keeps_heap fun h => keeps_pure _
  · exact keeps_pure _

theorem keeps_attributeValue (s : Setting) (v : Value) (name : String) : Keeps n (attributeValue s v name) := by
  unfold attributeValue
  split
  · exact keeps_pure _
  · refine keeps_bind (keeps_entryOf v name) fun entry => ?_
    split
    · exact keeps_pure _
    · exact keeps_fail _

theorem keeps_bindTarget (fuel : Nat) (b : Bindings) (target : Target) (v : Value) :
    Keeps n (bindTarget fuel b target v) := by
  induction fuel generalizing b target v with
  | zero => exact keeps_pure b
  | succ fuel ih =>
      unfold bindTarget
      split
      · exact keeps_pure _
      · exact keeps_bind (keeps_iterate v) fun values => keeps_foldlM (fun b pair => ih b _ _) _ b
      · exact keeps_fail _

theorem keeps_countItem : Keeps n countItem := by
  intro m room
  have same : (countItem.exec m).2.heap = m.heap := by
    unfold countItem
    simp only [exec_bind, exec_get, exec_set]
    split <;> rfl
  exact ⟨same.symm ▸ room, fun a _ => by rw [same]⟩

theorem keeps_refuseSpread (f : Value) (positional named : Nat) : Keeps n (refuseSpread f positional named) := by
  unfold refuseSpread
  dsimp only
  split
  · split
    · exact keeps_fail _
    · split <;> exact keeps_fail _
  · exact keeps_fail _

/-- Going through items is guarded if what is done with each of them is. -/
theorem guards_eachItem (target : Target) {body : Bindings → Yield → Eval (Bindings × Yield)}
    {guardedBody : Fault → Bindings → Yield → Eval (Bindings × Yield)}
    (guards : ∀ b y, Guards n (body b y) fun f => guardedBody f b y) (fuel : Nat) (b : Bindings) (y : Yield)
    (cursor : Cursor) :
    Guards n (eachItem target body fuel b y cursor) fun f => eachItem target (guardedBody f) fuel b y cursor := by
  induction fuel generalizing b y cursor with
  | zero => exact guards_of_keeps (keeps_bind keeps_countItem fun _ => keeps_pure _)
  | succ fuel ih =>
      refine guards_after (Cursor.keeps_next cursor) fun found => ?_
      rcases found with _ | ⟨v, cursor⟩
      · exact guards_of_keeps (keeps_pure _)
      · refine guards_after keeps_countItem fun _ => ?_
        refine guards_after (keeps_bindTarget targetDepth b target v) fun b => ?_
        exact guards_bind (guards b y) fun next => ih next.1 next.2 cursor

/-- The setting with another way to apply keys. -/
def Setting.applying (s : Setting) (apply : Aggregate.Apply) : Setting :=
  { s with apply := apply }

section Trees

variable {s : Setting} {guarded : Fault → Aggregate.Apply}

/-- The application of keys is guarded, and no function of the list is itself a method that changes something. -/
structure Setting.GuardedBy (n : Nat) (s : Setting) (guarded : Fault → Aggregate.Apply) : Prop where
  keys : Aggregate.Guarded n s.apply guarded
  harmless : ∀ name function, s.functions.lookup name = some function → ∀ v, function.changed? v = none

theorem guards_callFunction (guards : Aggregate.Guarded n s.apply guarded) {function : Value}
    (harmless : ∀ v, function.changed? v = none) (positional : List Value) (named : List (Option String × Value)) :
    Guards n (callFunction s.apply function positional named) fun f =>
      callFunction (guarded f) function positional named := by
  unfold callFunction
  dsimp only
  split
  · exact guards_of_keeps (keeps_refuseSpread _ _ _)
  · refine Value.guards_callWith guards function _ fun v _ t changes => ?_
    rw [harmless v] at changes
    cases changes

mutual

/-- The evaluation of a tree is in need of no guard but that of the keys. -/
theorem guards_tree (safe : s.GuardedBy n guarded) (b : Bindings) (tree : Tree) :
    Guards n (evaluateTree s b tree) fun f => evaluateTree (s.applying (guarded f)) b tree := by
  match tree with
  | .absent =>
      simp only [evaluateTree]
      exact guards_of_keeps (keeps_pure _)
  | .constant c =>
      simp only [evaluateTree]
      exact guards_of_keeps (keeps_constantValue c)
  | .name text =>
      simp only [evaluateTree]
      exact guards_of_keeps (keeps_nameValue s b text)
  | .unary operator operand =>
      simp only [evaluateTree]
      exact guards_bind (guards_tree safe b operand) fun v => guards_of_keeps (keeps_applyUnary v operator)
  | .binary operator left right =>
      simp only [evaluateTree]
      split
      · exact guards_of_keeps (keeps_fail _)
      · refine guards_bind (guards_tree safe b left) fun a => guards_bind (guards_tree safe b right) fun c => ?_
        exact guards_of_keeps (keeps_applyBinary a c operator)
  | .conjunction operands =>
      simp only [evaluateTree]
      exact guards_until safe b false (.bool false) operands
  | .disjunction operands =>
      simp only [evaluateTree]
      exact guards_until safe b true (.bool false) operands
  | .comparison first links operands =>
      simp only [evaluateTree]
      exact guards_bind (guards_tree safe b first) fun a => guards_links safe b a (.bool true) links operands
  | .choice test positive negative =>
      simp only [evaluateTree]
      refine guards_bind (guards_tree safe b test) fun v => guards_after (keeps_isTrue v) fun holds => ?_
      split
      · exact guards_tree safe b positive
      · exact guards_tree safe b negative
  | .call callee arguments names named =>
      cases callee with
      | name text =>
          simp only [evaluateTree, Setting.applying]
          cases found : s.functions.lookup text with
          | none => exact guards_of_keeps (keeps_fail _)
          | some function =>
              refine guards_bind (guards_trees safe b [] arguments) fun positional => ?_
              refine guards_bind (guards_trees safe b [] named) fun values => ?_
              exact guards_callFunction safe.keys (safe.harmless text function found) positional (names.zip values)
      | _ =>
          simp only [evaluateTree]
          exact guards_of_keeps (keeps_fail _)
  | .subscript container index =>
      simp only [evaluateTree]
      refine guards_bind (guards_tree safe b container) fun c => guards_bind (guards_tree safe b index) fun i => ?_
      exact guards_of_keeps (Value.keeps_select c i)
  | .attribute owner name =>
      simp only [evaluateTree]
      cases forbidden? name with
      | some f => exact guards_of_keeps (keeps_fail f)
      | none => exact guards_bind (guards_tree safe b owner) fun v => guards_of_keeps (keeps_attributeValue s v name)
  | .slice lower upper step =>
      simp only [evaluateTree]
      refine guards_bind (guards_tree safe b lower) fun l => guards_bind (guards_tree safe b upper) fun u => ?_
      exact guards_bind (guards_tree safe b step) fun t => guards_of_keeps (keeps_pure _)
  | .template parts =>
      simp only [evaluateTree]
      exact guards_bind (guards_parts safe b [] parts) fun texts => guards_of_keeps (keeps_pure _)
  | .placeholder value layout =>
      cases layout with
      | absent =>
          simp only [evaluateTree]
          exact guards_tree safe b value
      | _ =>
          -- The layout is not unfolded here, since it is a tree like any other.
          unfold evaluateTree
          dsimp only
          refine guards_bind (guards_tree safe b _) fun spec => ?_
          split
          · exact guards_bind (guards_tree safe b value) fun v => guards_of_keeps (keeps_fieldValue v _)
          · exact guards_of_keeps (keeps_pure _)
  | .dict entries =>
      simp only [evaluateTree]
      exact guards_bind (guards_entries safe b [] entries) fun entries => guards_of_keeps (keeps_newDict entries)
  | .tuple items =>
      simp only [evaluateTree]
      exact guards_bind (guards_trees safe b [] items) fun values => guards_of_keeps (keeps_newTuple values)
  | .list items =>
      simp only [evaluateTree]
      exact guards_bind (guards_spread safe b [] items) fun values => guards_of_keeps (keeps_newList values)
  | .set items =>
      simp only [evaluateTree]
      exact guards_bind (guards_members safe b [] items) fun values => guards_of_keeps (keeps_newSet _)
  | .listOf item clauses =>
      simp only [evaluateTree]
      refine guards_bind (guards_clauses safe ?_ b.enter (.items []) clauses) fun made => ?_
      · intro b y
        refine guards_bind (guards_tree safe b item) fun v => guards_of_keeps ?_
        cases y with
        | items done => exact keeps_pure _
        | entries done => exact keeps_pure _
      · apply guards_of_keeps
        rcases made with ⟨b, y⟩
        cases y with
        | items done => exact keeps_newList _
        | entries done => exact keeps_newList _
  | .dictOf key value clauses =>
      simp only [evaluateTree]
      refine guards_bind (guards_clauses safe ?_ b.enter (.entries []) clauses) fun made => ?_
      · intro b y
        refine guards_bind (guards_tree safe b value) fun v => guards_bind (guards_tree safe b key) fun k => ?_
        refine guards_after (keeps_requireKey k) fun _ => guards_of_keeps ?_
        cases y with
        | items done => exact keeps_pure _
        | entries done => exact keeps_bind keeps_heap fun h => keeps_pure _
      · apply guards_of_keeps
        rcases made with ⟨b, y⟩
        cases y with
        | items done => exact keeps_newDict _
        | entries done => exact keeps_newDict _
  | .starred operand =>
      simp only [evaluateTree]
      exact guards_of_keeps (keeps_fail _)
  | .refused construct =>
      simp only [evaluateTree]
      exact guards_of_keeps (keeps_fail _)

/-- Trees are evaluated one after the other. -/
theorem guards_trees (safe : s.GuardedBy n guarded) (b : Bindings) (done : List Value) (trees : List Tree) :
    Guards n (evaluateTrees s b done trees) fun f => evaluateTrees (s.applying (guarded f)) b done trees := by
  cases trees with
  | nil =>
      simp only [evaluateTrees]
      exact guards_of_keeps (keeps_pure _)
  | cons tree rest =>
      simp only [evaluateTrees]
      exact guards_bind (guards_tree safe b tree) fun v => guards_trees safe b (v :: done) rest

theorem guards_until (safe : s.GuardedBy n guarded) (b : Bindings) (deciding : Bool) (last : Value)
    (trees : List Tree) :
    Guards n (evaluateUntil s b deciding last trees) fun f =>
      evaluateUntil (s.applying (guarded f)) b deciding last trees := by
  cases trees with
  | nil =>
      simp only [evaluateUntil]
      exact guards_of_keeps (keeps_pure _)
  | cons tree rest =>
      simp only [evaluateUntil]
      refine guards_bind (guards_tree safe b tree) fun v => guards_after (keeps_isTrue v) fun holds => ?_
      split
      · exact guards_of_keeps (keeps_pure v)
      · exact guards_until safe b deciding v rest

theorem guards_links (safe : s.GuardedBy n guarded) (b : Bindings) (left last : Value) (links : List Link)
    (trees : List Tree) :
    Guards n (evaluateLinks s b left last links trees) fun f =>
      evaluateLinks (s.applying (guarded f)) b left last links trees := by
  cases trees with
  | nil =>
      simp only [evaluateLinks]
      exact guards_of_keeps (keeps_pure _)
  | cons tree rest =>
      cases links with
      | nil =>
          simp only [evaluateLinks]
          exact guards_of_keeps (keeps_pure _)
      | cons link links =>
          simp only [evaluateLinks]
          refine guards_bind (guards_tree safe b tree) fun right => ?_
          refine guards_after (keeps_applyLink left right link) fun holds => ?_
          split
          · exact guards_links safe b right (.bool true) links rest
          · exact guards_of_keeps (keeps_pure _)

theorem guards_parts (safe : s.GuardedBy n guarded) (b : Bindings) (done : List String) (trees : List Tree) :
    Guards n (evaluateParts s b done trees) fun f => evaluateParts (s.applying (guarded f)) b done trees := by
  cases trees with
  | nil =>
      simp only [evaluateParts]
      exact guards_of_keeps (keeps_pure _)
  | cons tree rest =>
      simp only [evaluateParts]
      refine guards_bind (guards_tree safe b tree) fun v => guards_after (keeps_text v) fun t => ?_
      split
      · exact guards_after (keeps_fail _) fun _ => guards_parts safe b (t :: done) rest
      · exact guards_after (keeps_pure ()) fun _ => guards_parts safe b (t :: done) rest

theorem guards_entries (safe : s.GuardedBy n guarded) (b : Bindings) (done : List (Value × Value))
    (entries : List Entry) :
    Guards n (evaluateEntries s b done entries) fun f =>
      evaluateEntries (s.applying (guarded f)) b done entries := by
  cases entries with
  | nil =>
      simp only [evaluateEntries]
      exact guards_of_keeps (keeps_pure _)
  | cons entry rest =>
      cases entry with
      | spread value =>
          simp only [evaluateEntries]
          refine guards_bind (guards_tree safe b value) fun v => ?_
          exact guards_after (Conversion.keeps_extend v done) fun done => guards_entries safe b done rest
      | pair key value =>
          simp only [evaluateEntries]
          refine guards_bind (guards_tree safe b value) fun v => guards_bind (guards_tree safe b key) fun k => ?_
          refine guards_after (keeps_requireKey k) fun _ => guards_after keeps_heap fun h => ?_
          exact guards_entries safe b _ rest

theorem guards_spread (safe : s.GuardedBy n guarded) (b : Bindings) (done : List Value) (trees : List Tree) :
    Guards n (evaluateSpread s b done trees) fun f => evaluateSpread (s.applying (guarded f)) b done trees := by
  cases trees with
  | nil =>
      simp only [evaluateSpread]
      exact guards_of_keeps (keeps_pure _)
  | cons tree rest =>
      cases tree with
      | starred operand =>
          simp only [evaluateSpread]
          refine guards_bind (guards_tree safe b operand) fun v => guards_after (keeps_iterate v) fun values => ?_
          exact guards_spread safe b _ rest
      | _ =>
          simp only [evaluateSpread]
          exact guards_bind (guards_tree safe b _) fun v => guards_spread safe b (v :: done) rest

theorem guards_members (safe : s.GuardedBy n guarded) (b : Bindings) (done : List Value) (trees : List Tree) :
    Guards n (evaluateMembers s b done trees) fun f => evaluateMembers (s.applying (guarded f)) b done trees := by
  cases trees with
  | nil =>
      simp only [evaluateMembers]
      exact guards_of_keeps (keeps_pure _)
  | cons tree rest =>
      simp only [evaluateMembers]
      refine guards_bind (guards_tree safe b tree) fun v => guards_after (keeps_requireKey v) fun _ => ?_
      exact guards_after keeps_heap fun h => guards_members safe b _ rest

theorem guards_tests (safe : s.GuardedBy n guarded) (b : Bindings) (trees : List Tree) :
    Guards n (evaluateTests s b trees) fun f => evaluateTests (s.applying (guarded f)) b trees := by
  cases trees with
  | nil =>
      simp only [evaluateTests]
      exact guards_of_keeps (keeps_pure _)
  | cons tree rest =>
      simp only [evaluateTests]
      refine guards_bind (guards_tree safe b tree) fun v => guards_after (keeps_isTrue v) fun holds => ?_
      split
      · exact guards_tests safe b rest
      · exact guards_of_keeps (keeps_pure _)

/-- Clauses are gone through one inside the other, with a guarded step inside all of them. -/
theorem guards_clauses (safe : s.GuardedBy n guarded) {step : Bindings → Yield → Eval (Bindings × Yield)}
    {guardedStep : Fault → Bindings → Yield → Eval (Bindings × Yield)}
    (guardsStep : ∀ b y, Guards n (step b y) fun f => guardedStep f b y) (b : Bindings) (y : Yield)
    (clauses : List Clause) :
    Guards n (evaluateClauses s step b y clauses) fun f =>
      evaluateClauses (s.applying (guarded f)) (guardedStep f) b y clauses := by
  cases clauses with
  | nil =>
      simp only [evaluateClauses]
      exact guardsStep b y
  | cons clause rest =>
      obtain ⟨target, source, tests⟩ := clause
      simp only [evaluateClauses]
      refine guards_bind (guards_tree safe b source) fun v => guards_after (Cursor.keeps_start v) fun cursor => ?_
      generalize itemLimit + 1 = fuel
      refine guards_eachItem target (fun b y => ?_) fuel b y cursor
      refine guards_bind (guards_tests safe b tests) fun holds => ?_
      split
      · exact guards_clauses safe guardsStep b y rest
      · exact guards_of_keeps (keeps_pure _)

end

end Trees

end WorkflowEngine.Expression
