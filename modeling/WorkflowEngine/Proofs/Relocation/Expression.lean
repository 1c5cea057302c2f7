import WorkflowEngine.Expression.Evaluation
import WorkflowEngine.Proofs.Relocation.Method

/-!
# Expressions over moved values

An expression over moved values comes to the moved value of the expression, or to a fault that looks alike.  Names,
texts and functions stay as they are; only the values that stand for names are moved.
-/

namespace WorkflowEngine.Expression

open Eval
open Relocation (Fixes)

variable {r : Relocation}

section Limits

variable (a b : Value)

theorem isSized_move : isSized (r.move a) = isSized a := by
  cases a <;> rfl

theorem follows_limitedAdd : Follows r (limitedAdd a b) (limitedAdd (r.move a) (r.move b)) := by
  unfold limitedAdd
  rw [isSized_move, isSized_move]
  split
  · refine follows_bind_fixed (follows_length a) fun first => follows_bind_fixed (follows_length b) fun second => ?_
    exact follows_when (follows_fail _) fun _ => Value.follows_add a b
  · exact Value.follows_add a b

theorem follows_isTooLong (length : Nat) : Follows r (isTooLong a length) (isTooLong (r.move a) length) :=
  follows_bind (Value.follows_multiply a (.int length)) fun total => Value.follows_compare total (.int lengthLimit) _

theorem follows_limitedMultiply : Follows r (limitedMultiply a b) (limitedMultiply (r.move a) (r.move b)) := by
  have second : Follows r
      (do
        if isSized b then
          if ← isTooLong a (← length b) then fail (.refused "Sorry, I will not evaluate something that long.")
        Value.multiply a b)
      (do
        if isSized (r.move b) then
          if ← isTooLong (r.move a) (← length (r.move b)) then
            fail (.refused "Sorry, I will not evaluate something that long.")
        Value.multiply (r.move a) (r.move b)) := by
    rw [isSized_move]
    dsimp only
    split
    · refine follows_bind_fixed (follows_length b) fun size => follows_bind_fixed (follows_isTooLong a size) fun long => ?_
      exact follows_when (follows_fail _) fun _ => Value.follows_multiply a b
    · exact Value.follows_multiply a b
  unfold limitedMultiply
  dsimp only
  rw [isSized_move a]
  split
  · refine follows_bind_fixed (follows_length a) fun size => follows_bind_fixed (follows_isTooLong b size) fun long => ?_
    exact follows_when (follows_fail _) fun _ => second
  · exact second

theorem follows_isBeyond (bound : Int) : Follows r (isBeyond a bound) (isBeyond (r.move a) bound) :=
  follows_bind (Value.follows_absolute a) fun size => Value.follows_compare size (.int bound) _

theorem follows_refuseOperands (operator : String) :
    Follows r (refuseOperands operator a b) (refuseOperands operator (r.move a) (r.move b)) :=
  follows_bind_fixed (follows_text a) fun _ => follows_bind_fixed (follows_text b) fun _ => follows_fail _

theorem follows_limitedPower : Follows r (limitedPower a b) (limitedPower (r.move a) (r.move b)) := by
  refine follows_bind_fixed (follows_isBeyond a _) fun first => follows_when (follows_refuseOperands a b _) fun _ => ?_
  refine follows_bind_fixed (follows_isBeyond b _) fun second => follows_when (follows_refuseOperands a b _) fun _ => ?_
  exact Value.follows_power a b

theorem follows_limitedShift (operator : String) {shift : Value → Value → Eval Value}
    (follows : ∀ a b, Follows r (shift a b) (shift (r.move a) (r.move b))) :
    Follows r (limitedShift operator shift a b) (limitedShift operator shift (r.move a) (r.move b)) := by
  refine follows_bind_fixed (follows_isBeyond b _) fun first => follows_when (follows_refuseOperands a b _) fun _ => ?_
  refine follows_bind_fixed (follows_isBeyond a _) fun second => follows_when (follows_refuseOperands a b _) fun _ => ?_
  exact follows a b

end Limits

section Operators

variable (a b v : Value)

theorem follows_applyUnary (operator : UnaryOperator) :
    Follows r (applyUnary operator v) (applyUnary operator (r.move v)) := by
  cases operator with
  | minus => exact Value.follows_negate v
  | plus => exact Value.follows_keepSign v
  | complement => exact Value.follows_invert v
  | negation => exact follows_bind_fixed (follows_isTrue v) fun _ => follows_pure rfl

theorem follows_applyBinary (operator : BinaryOperator) :
    Follows r (applyBinary operator a b) (applyBinary operator (r.move a) (r.move b)) := by
  cases operator with
  | add => exact follows_limitedAdd a b
  | subtract => exact Value.follows_subtract a b
  | multiply => exact follows_limitedMultiply a b
  | divide => exact Value.follows_divide a b
  | floorDivide => exact Value.follows_floorDivide a b
  | modulo => exact Value.follows_modulo a b
  | power => exact follows_limitedPower a b
  | shiftLeft => exact follows_limitedShift a b _ Value.follows_shiftLeft
  | shiftRight => exact follows_limitedShift a b _ Value.follows_shiftRight
  | bitOr => exact Value.follows_bitOr a b
  | bitXor => exact Value.follows_bitXor a b
  | bitAnd => exact Value.follows_bitAnd a b
  | matrix => exact follows_pure rfl

theorem follows_applyLink (link : Link) : Follows r (applyLink link a b) (applyLink link (r.move a) (r.move b)) := by
  cases link with
  | equal => exact follows_equals a b
  | notEqual => exact follows_bind_fixed (follows_equals a b) fun _ => follows_pure rfl
  | less => exact Value.follows_compare a b _
  | lessEqual => exact Value.follows_compare a b _
  | greater => exact Value.follows_compare a b _
  | greaterEqual => exact Value.follows_compare a b _
  | isIn => exact Value.follows_contains b a
  | isNotIn => exact follows_bind_fixed (Value.follows_contains b a) fun _ => follows_pure rfl
  | isSame => exact follows_heap fun _ _ moves => follows_pure (moves.isSame a b)
  | isNotSame => exact follows_heap fun _ _ moves => follows_pure (congrArg not (moves.isSame a b))

theorem follows_fieldValue (layout : String) : Follows r (fieldValue v layout) (fieldValue (r.move v) layout) := by
  unfold fieldValue
  have laidOut (spec : String) (d : Data) :
      Follows r (lift (d.layout spec)) (lift ((r.move d).layout spec)) := by
    rw [Data.layout_move]
    exact follows_lift_fixed _
  split
  · refine follows_bind (follows_view v) fun d => follows_bind_fixed (laidOut _ d) fun _ => ?_
    exact follows_fail _
  · exact follows_fail _
  · exact follows_fail _
  · exact follows_bind (follows_view v) fun d => follows_bind_fixed (laidOut _ d) fun _ => follows_pure rfl

end Operators

instance : Movable Bindings where
  moved r b := ⟨r.move b.own, r.move b.outer⟩

instance : Movable Setting where
  moved r s := ⟨r.move s.values, r.move s.functions, s.apply, s.source⟩

instance : Movable Yield where
  moved r
    | .items reversed => .items (r.move reversed)
    | .entries entries => .entries (r.move entries)

instance : Movable Target := .fixed Target
instance : Fixes Target := ⟨fun _ _ => rfl⟩

namespace Bindings

variable (b : Bindings) (name : String) (v : Value)

theorem enter_move : (r.move b).enter = r.move b.enter :=
  congrArg (Bindings.mk []) (r.move_append b.own b.outer).symm

theorem setName_move (entries : List (String × Value)) :
    setName name (r.move v) (r.move entries) = r.move (setName name v entries) := by
  induction entries with
  | nil => rfl
  | cons entry rest ih =>
      have others : r.move (entry :: setName name v rest) = r.move entry :: setName name (r.move v) (r.move rest) :=
        congrArg (r.move entry :: ·) ih.symm
      rw [r.move_cons, setName, setName, r.move_ite, others]
      rfl

theorem bind_move : (r.move b).bind name (r.move v) = r.move (b.bind name v) :=
  congrArg (Bindings.mk · (r.move b.outer)) (setName_move name v b.own)

theorem find?_move : (r.move b).find? name = r.move (b.find? name) := by
  have own : (r.move b).own = r.move b.own := rfl
  have outer : (r.move b).outer = r.move b.outer := rfl
  rw [find?, find?, own, outer, Relocation.lookup_move, Relocation.lookup_move]
  cases b.own.lookup name <;> rfl

end Bindings

section Names

variable (s : Setting) (b : Bindings) (v : Value) (name : String)

theorem follows_nameValue : Follows r (nameValue s b name) (nameValue (r.move s) (r.move b) name) := by
  obtain ⟨values, functions, apply, source⟩ := s
  change Follows r _ (nameValue ⟨r.move values, r.move functions, apply, source⟩ (r.move b) name)
  unfold nameValue
  rw [Bindings.find?_move]
  cases b.find? name with
  | some v => exact follows_pure rfl
  | none =>
      dsimp only
      rw [Relocation.lookup_move]
      cases values.lookup name with
      | some v => exact follows_pure rfl
      | none =>
          dsimp only
          rw [Relocation.lookup_move]
          cases functions.lookup name with
          | some v => exact follows_pure rfl
          | none => exact follows_fail _

theorem follows_constantValue (c : Constant) : Follows r (constantValue c) (constantValue c) := by
  cases c with
  | float x => exact follows_float x
  | str t =>
      simp only [constantValue]
      split
      · exact follows_fail _
      · exact follows_pure rfl
  | bytes bs =>
      simp only [constantValue]
      split
      · exact follows_fail _
      · exact follows_pure rfl
  | _ => exact follows_pure rfl

theorem follows_entryOf : Follows r (entryOf? v name) (entryOf? (r.move v) name) := by
  cases v with
  | dict a =>
      refine follows_heap fun h h' moves => follows_pure ?_
      rw [moves.entries]
      exact moves.lookup (h.entries a) (.str name)
  | _ => exact follows_pure rfl

theorem follows_attributeValue : Follows r (attributeValue s v name) (attributeValue (r.move s) (r.move v) name) := by
  unfold attributeValue
  rw [Value.attribute?_move]
  cases v.attribute? name with
  | some found => exact follows_pure rfl
  | none =>
      refine follows_bind (follows_entryOf v name) fun entry => ?_
      cases entry with
      | some found => exact follows_pure rfl
      | none => exact follows_fail _

end Names

theorem zip_move {α : Type} [Movable α] [Fixes α] (xs : List α) (values : List Value) :
    xs.zip (r.move values) = r.move (xs.zip values) := by
  induction xs generalizing values with
  | nil => rfl
  | cons x rest ih => cases values with
    | nil => rfl
    | cons v others =>
        have first : (x, r.move v) = r.move (x, v) := congrArg (·, r.move v) (r.move_fixed x).symm
        exact congr (congrArg List.cons first) (ih others)

theorem follows_bindTarget (fuel : Nat) (b : Bindings) (target : Target) (v : Value) :
    Follows r (bindTarget fuel b target v) (bindTarget fuel (r.move b) target (r.move v)) := by
  induction fuel generalizing b target v with
  | zero => exact follows_pure rfl
  | succ fuel ih =>
      cases target with
      | name text => exact follows_pure (Bindings.bind_move b text v)
      | items targets =>
          unfold bindTarget
          refine follows_bind (follows_iterate v) fun values => ?_
          rw [zip_move]
          exact follows_foldlM (fun b pair => ih b pair.1 pair.2) b _
      | refused construct => exact follows_fail _

theorem follows_countItem : Follows r countItem countItem := by
  intro m m' moves
  have counted : Machine.Moves r { m with steps := m.steps + 1 } { m' with steps := m.steps + 1 } :=
    ⟨moves.heap, rfl⟩
  unfold countItem
  simp only [exec_bind, exec_get, exec_set, moves.steps]
  split
  · exact follows_fail _ counted
  · exact follows_pure rfl counted

/-- What a comprehension does with an item and the same with a moved item. -/
def StepsAlike (r : Relocation) (step step' : Bindings → Yield → Eval (Bindings × Yield)) : Prop :=
  ∀ b y, Follows r (step b y) (step' (r.move b) (r.move y))

theorem follows_eachItem (target : Target) {body body' : Bindings → Yield → Eval (Bindings × Yield)}
    (alike : StepsAlike r body body') (fuel : Nat) (b : Bindings) (y : Yield) (cursor : Cursor) :
    Follows r (eachItem target body fuel b y cursor) (eachItem target body' fuel (r.move b) (r.move y) (r.move cursor)) := by
  induction fuel generalizing b y cursor with
  | zero => exact follows_bind_fixed follows_countItem fun _ => follows_pure rfl
  | succ fuel ih =>
      refine follows_bind (Cursor.follows_next cursor) fun found => ?_
      rcases found with _ | ⟨v, cursor⟩
      · exact follows_pure rfl
      · refine follows_bind_fixed follows_countItem fun _ => ?_
        refine follows_bind (follows_bindTarget targetDepth b target v) fun b => ?_
        exact follows_bind (alike b y) fun made => ih made.1 made.2 cursor

section Calls

theorem lastNamed_move (named : List (String × Value)) : lastNamed (r.move named) = r.move (lastNamed named) := by
  have fold (done : List (String × Value)) :
      (r.move named).foldl (fun done entry => Bindings.setName entry.1 entry.2 done) (r.move done) =
        r.move (named.foldl (fun done entry => Bindings.setName entry.1 entry.2 done) done) := by
    induction named generalizing done with
    | nil => rfl
    | cons entry rest ih =>
        rw [r.move_cons, List.foldl_cons, List.foldl_cons, r.fst_move, r.snd_move, Bindings.setName_move]
        exact ih _
  exact fold []

theorem follows_refuseSpread (f : Value) (positional named : Nat) :
    Follows r (refuseSpread f positional named) (refuseSpread (r.move f) positional named) := by
  have same : refuseSpread (r.move f) positional named = refuseSpread f positional named := by
    cases f <;> rfl
  rw [same]
  unfold refuseSpread
  dsimp only
  split
  · split
    · exact follows_fail _
    · split <;> exact follows_fail _
  · exact follows_fail _

theorem follows_callFunction {apply : Aggregate.Apply} (follows : apply.Follows r) (f : Value) (positional : List Value)
    (named : List (Option String × Value)) :
    Follows r (callFunction apply f positional named) (callFunction apply (r.move f) (r.move positional) (r.move named)) := by
  have spread : (r.move named).any (fun entry => entry.1.isNone) = named.any fun entry => entry.1.isNone :=
    Relocation.any_move (p := fun entry : Option String × Value => entry.1.isNone)
      (fun entry => congrArg Option.isNone (r.move_fixed entry.1)) named
  have names : (r.move named).filterMap (fun entry => entry.1.map fun name => (name, entry.2)) =
      r.move (named.filterMap fun entry => entry.1.map fun name => (name, entry.2)) := by
    rw [r.move_list, r.move_list, List.filterMap_map, List.map_filterMap]
    refine congrArg (List.filterMap · named) (funext fun entry => ?_)
    rcases entry with ⟨_ | name, v⟩ <;> rfl
  unfold callFunction
  dsimp only
  rw [spread, names, lastNamed_move, r.length_move, r.length_move]
  split
  · exact follows_refuseSpread f _ _
  · exact Value.follows_callWith ⟨positional, _⟩ follows f

end Calls

section Trees

variable {s : Setting}

mutual

/-- A tree over moved values comes to the moved value. -/
theorem follows_tree (follows : s.apply.Follows r) (b : Bindings) (tree : Tree) :
    Follows r (evaluateTree s b tree) (evaluateTree (r.move s) (r.move b) tree) := by
  match tree with
  | .absent =>
      simp only [evaluateTree]
      exact follows_pure rfl
  | .constant c =>
      simp only [evaluateTree]
      exact follows_constantValue c
  | .name text =>
      simp only [evaluateTree]
      exact follows_nameValue s b text
  | .unary operator operand =>
      simp only [evaluateTree]
      exact follows_bind (follows_tree follows b operand) fun v => follows_applyUnary v operator
  | .binary operator left right =>
      simp only [evaluateTree]
      split
      · exact follows_fail _
      · refine follows_bind (follows_tree follows b left) fun a => follows_bind (follows_tree follows b right) fun c => ?_
        exact follows_applyBinary a c operator
  | .conjunction operands =>
      simp only [evaluateTree]
      exact follows_until follows b false (.bool false) operands
  | .disjunction operands =>
      simp only [evaluateTree]
      exact follows_until follows b true (.bool false) operands
  | .comparison first links operands =>
      simp only [evaluateTree]
      exact follows_bind (follows_tree follows b first) fun a => follows_links follows b a (.bool true) links operands
  | .choice test positive negative =>
      simp only [evaluateTree]
      refine follows_bind (follows_tree follows b test) fun v => follows_bind_fixed (follows_isTrue v) fun holds => ?_
      split
      · exact follows_tree follows b positive
      · exact follows_tree follows b negative
  | .call callee arguments names named =>
      cases callee with
      | name text =>
          simp only [evaluateTree]
          have functions : (r.move s).functions = r.move s.functions := rfl
          rw [functions, Relocation.lookup_move]
          cases s.functions.lookup text with
          | none => exact follows_fail _
          | some function =>
              refine follows_bind (follows_trees follows b [] arguments) fun positional => ?_
              refine follows_bind (follows_trees follows b [] named) fun values => ?_
              rw [zip_move]
              exact follows_callFunction follows function positional (names.zip values)
      | _ =>
          simp only [evaluateTree]
          exact follows_fail _
  | .subscript container index =>
      simp only [evaluateTree]
      refine follows_bind (follows_tree follows b container) fun c => follows_bind (follows_tree follows b index) fun i => ?_
      exact Value.follows_select c i
  | .attribute owner name =>
      simp only [evaluateTree]
      cases forbidden? name with
      | some f => exact follows_fail f
      | none => exact follows_bind (follows_tree follows b owner) fun v => follows_attributeValue s v name
  | .slice lower upper step =>
      simp only [evaluateTree]
      refine follows_bind (follows_tree follows b lower) fun l => follows_bind (follows_tree follows b upper) fun u => ?_
      exact follows_bind (follows_tree follows b step) fun t => follows_pure rfl
  | .template parts =>
      simp only [evaluateTree]
      exact follows_bind_fixed (follows_parts follows b [] parts) fun _ => follows_pure rfl
  | .placeholder value layout =>
      cases layout with
      | absent =>
          simp only [evaluateTree]
          exact follows_tree follows b value
      | _ =>
          -- The layout is not unfolded here, since it is a tree like any other.
          unfold evaluateTree
          dsimp only
          refine follows_bind (follows_tree follows b _) fun spec => ?_
          cases spec with
          | str spec => exact follows_bind (follows_tree follows b value) fun v => follows_fieldValue v spec
          | _ => exact follows_pure rfl
  | .dict entries =>
      simp only [evaluateTree]
      exact follows_bind (follows_entriesOf follows b [] entries) follows_newDict
  | .tuple items =>
      simp only [evaluateTree]
      exact follows_bind (follows_trees follows b [] items) follows_newTuple
  | .list items =>
      simp only [evaluateTree]
      exact follows_bind (follows_spread follows b [] items) follows_newList
  | .set items =>
      simp only [evaluateTree]
      refine follows_bind (follows_members follows b [] items) fun values => ?_
      rw [settle_move]
      exact follows_newSet _
  | .listOf item clauses =>
      simp only [evaluateTree]
      rw [Bindings.enter_move]
      refine follows_bind (follows_clauses follows ?_ b.enter (.items []) clauses) fun made => ?_
      · intro b y
        refine follows_bind (follows_tree follows b item) fun v => ?_
        cases y with
        | items done => exact follows_pure rfl
        | entries done => exact follows_pure rfl
      · rcases made with ⟨b, y⟩
        cases y with
        | items done =>
            change Follows r (newList done.reverse) (newList (r.move done).reverse)
            rw [← r.move_reverse]
            exact follows_newList _
        | entries done => exact follows_newList []
  | .dictOf key value clauses =>
      simp only [evaluateTree]
      rw [Bindings.enter_move]
      refine follows_bind (follows_clauses follows ?_ b.enter (.entries []) clauses) fun made => ?_
      · intro b y
        refine follows_bind (follows_tree follows b value) fun v => follows_bind (follows_tree follows b key) fun k => ?_
        refine follows_bind_fixed (follows_requireKey k) fun _ => ?_
        cases y with
        | items done => exact follows_pure rfl
        | entries done =>
            refine follows_heap fun h h' moves => follows_pure ?_
            rw [moves.setEntry]
            rfl
      · rcases made with ⟨b, y⟩
        cases y with
        | items done => exact follows_newDict []
        | entries done => exact follows_newDict done
  | .starred operand =>
      simp only [evaluateTree]
      exact follows_fail _
  | .refused construct =>
      simp only [evaluateTree]
      exact follows_fail _

theorem follows_trees (follows : s.apply.Follows r) (b : Bindings) (done : List Value) (trees : List Tree) :
    Follows r (evaluateTrees s b done trees) (evaluateTrees (r.move s) (r.move b) (r.move done) trees) := by
  cases trees with
  | nil =>
      simp only [evaluateTrees]
      exact follows_pure (r.move_reverse done).symm
  | cons tree rest =>
      simp only [evaluateTrees]
      exact follows_bind (follows_tree follows b tree) fun v => follows_trees follows b (v :: done) rest

theorem follows_until (follows : s.apply.Follows r) (b : Bindings) (deciding : Bool) (last : Value) (trees : List Tree) :
    Follows r (evaluateUntil s b deciding last trees) (evaluateUntil (r.move s) (r.move b) deciding (r.move last) trees) := by
  cases trees with
  | nil =>
      simp only [evaluateUntil]
      exact follows_pure rfl
  | cons tree rest =>
      simp only [evaluateUntil]
      refine follows_bind (follows_tree follows b tree) fun v => follows_bind_fixed (follows_isTrue v) fun holds => ?_
      split
      · exact follows_pure rfl
      · exact follows_until follows b deciding v rest

theorem follows_links (follows : s.apply.Follows r) (b : Bindings) (left last : Value) (links : List Link)
    (trees : List Tree) :
    Follows r (evaluateLinks s b left last links trees)
      (evaluateLinks (r.move s) (r.move b) (r.move left) (r.move last) links trees) := by
  cases trees with
  | nil =>
      simp only [evaluateLinks]
      exact follows_pure rfl
  | cons tree rest => cases links with
    | nil =>
        simp only [evaluateLinks]
        exact follows_pure rfl
    | cons link links =>
        simp only [evaluateLinks]
        refine follows_bind (follows_tree follows b tree) fun right => ?_
        refine follows_bind_fixed (follows_applyLink left right link) fun holds => ?_
        split
        · exact follows_links follows b right (.bool true) links rest
        · exact follows_pure rfl

theorem follows_parts (follows : s.apply.Follows r) (b : Bindings) (done : List String) (trees : List Tree) :
    Follows r (evaluateParts s b done trees) (evaluateParts (r.move s) (r.move b) done trees) := by
  cases trees with
  | nil =>
      simp only [evaluateParts]
      exact follows_pure (r.move_fixed done.reverse).symm
  | cons tree rest =>
      simp only [evaluateParts]
      refine follows_bind (follows_tree follows b tree) fun v => follows_bind_fixed (follows_text v) fun t => ?_
      exact follows_when (follows_fail _) fun _ => follows_parts follows b (t :: done) rest

theorem follows_entriesOf (follows : s.apply.Follows r) (b : Bindings) (done : List (Value × Value)) (entries : List Entry) :
    Follows r (evaluateEntries s b done entries) (evaluateEntries (r.move s) (r.move b) (r.move done) entries) := by
  cases entries with
  | nil =>
      simp only [evaluateEntries]
      exact follows_pure rfl
  | cons entry rest => cases entry with
    | spread value =>
        simp only [evaluateEntries]
        refine follows_bind (follows_tree follows b value) fun v => ?_
        exact follows_bind (Conversion.follows_extend v done) fun done => follows_entriesOf follows b done rest
    | pair key value =>
        simp only [evaluateEntries]
        refine follows_bind (follows_tree follows b value) fun v => follows_bind (follows_tree follows b key) fun k => ?_
        refine follows_bind_fixed (follows_requireKey k) fun _ => follows_heap fun h h' moves => ?_
        rw [moves.setEntry]
        exact follows_entriesOf follows b _ rest

theorem follows_spread (follows : s.apply.Follows r) (b : Bindings) (done : List Value) (trees : List Tree) :
    Follows r (evaluateSpread s b done trees) (evaluateSpread (r.move s) (r.move b) (r.move done) trees) := by
  cases trees with
  | nil =>
      simp only [evaluateSpread]
      exact follows_pure (r.move_reverse done).symm
  | cons tree rest => cases tree with
    | starred operand =>
        simp only [evaluateSpread]
        refine follows_bind (follows_tree follows b operand) fun v => follows_bind (follows_iterate v) fun values => ?_
        rw [← r.move_reverse, ← r.move_append]
        exact follows_spread follows b _ rest
    | _ =>
        simp only [evaluateSpread]
        exact follows_bind (follows_tree follows b _) fun v => follows_spread follows b (v :: done) rest

theorem follows_members (follows : s.apply.Follows r) (b : Bindings) (done : List Value) (trees : List Tree) :
    Follows r (evaluateMembers s b done trees) (evaluateMembers (r.move s) (r.move b) (r.move done) trees) := by
  cases trees with
  | nil =>
      simp only [evaluateMembers]
      exact follows_pure rfl
  | cons tree rest =>
      simp only [evaluateMembers]
      refine follows_bind (follows_tree follows b tree) fun v => ?_
      refine follows_bind_fixed (follows_requireKey v) fun _ => follows_heap fun h h' moves => ?_
      have longer : r.move done ++ [r.move v] = r.move (done ++ [v]) := (r.move_append done [v]).symm
      rw [moves.isMember, longer, ← r.move_ite]
      exact follows_members follows b _ rest

theorem follows_tests (follows : s.apply.Follows r) (b : Bindings) (trees : List Tree) :
    Follows r (evaluateTests s b trees) (evaluateTests (r.move s) (r.move b) trees) := by
  cases trees with
  | nil =>
      simp only [evaluateTests]
      exact follows_pure rfl
  | cons tree rest =>
      simp only [evaluateTests]
      refine follows_bind (follows_tree follows b tree) fun v => follows_bind_fixed (follows_isTrue v) fun holds => ?_
      split
      · exact follows_tests follows b rest
      · exact follows_pure rfl

/-- Clauses are gone through one inside the other, with steps that follow each other inside all of them. -/
theorem follows_clauses (follows : s.apply.Follows r) {step step' : Bindings → Yield → Eval (Bindings × Yield)}
    (alike : StepsAlike r step step') (b : Bindings) (y : Yield) (clauses : List Clause) :
    Follows r (evaluateClauses s step b y clauses) (evaluateClauses (r.move s) step' (r.move b) (r.move y) clauses) := by
  cases clauses with
  | nil =>
      simp only [evaluateClauses]
      exact alike b y
  | cons clause rest =>
      obtain ⟨target, source, tests⟩ := clause
      simp only [evaluateClauses]
      refine follows_bind (follows_tree follows b source) fun v => follows_bind (Cursor.follows_start v) fun cursor => ?_
      generalize itemLimit + 1 = fuel
      refine follows_eachItem target (fun b y => ?_) fuel b y cursor
      refine follows_bind_fixed (follows_tests follows b tests) fun holds => ?_
      split
      · exact follows_clauses follows alike b y rest
      · exact follows_pure rfl

end

end Trees

theorem follows_statement {s : Setting} (follows : s.apply.Follows r) (statement : Statement) :
    Follows r (evaluateStatement s statement) (evaluateStatement (r.move s) statement) := by
  cases statement with
  | value tree => exact follows_tree follows .empty tree
  | importing => exact follows_fail _
  | refused construct => exact follows_fail _

theorem textEntries_move {h h' : Heap} (moves : h.Moves r h') (v : Value) :
    textEntries h' (r.move v) = r.move (textEntries h v) := by
  cases v with
  | dict a =>
      change List.filterMap _ (h'.entries (r.address a)) = r.move (List.filterMap _ (h.entries a))
      rw [moves.entries, r.move_list, r.move_list, List.filterMap_map, List.map_filterMap]
      refine congrArg (List.filterMap · (h.entries a)) (funext fun entry => ?_)
      rcases entry with ⟨key, v⟩
      cases key <;> rfl
  | _ => rfl

theorem namedValues_move {h h' : Heap} (moves : h.Moves r h') (input vars : Value) :
    namedValues h' (r.move input) (r.move vars) = r.move (namedValues h input vars) := by
  unfold namedValues
  rw [textEntries_move moves, textEntries_move moves]
  simp only [r.move_cons, r.move_append]
  rfl

/-- What is read of an expression is evaluated over the values that have names. -/
theorem follows_evaluateText (text : List Char) (input vars : Value) :
    Follows r
      (do
        match unreadable? text with
        | some f => fail f
        | none =>
          match readProgram text with
          | none => fail malformed
          | some none => fail (.refused "Sorry, cannot evaluate empty string")
          | some (some statement) =>
            evaluateStatement ⟨namedValues (← heap) input vars, standardFunctions, Value.applyKey, String.ofList text⟩
              statement)
      (do
        match unreadable? text with
        | some f => fail f
        | none =>
          match readProgram text with
          | none => fail malformed
          | some none => fail (.refused "Sorry, cannot evaluate empty string")
          | some (some statement) =>
            evaluateStatement ⟨namedValues (← heap) (r.move input) (r.move vars), standardFunctions, Value.applyKey,
              String.ofList text⟩ statement) := by
  generalize unreadable? _ = unread
  generalize readProgram _ = program
  rcases unread with _ | f
  · rcases program with _ | _ | statement
    · exact follows_fail _
    · exact follows_fail _
    · refine follows_heap fun h h' moves => ?_
      rw [namedValues_move moves]
      exact follows_statement Value.follows_applyKey statement
  · exact follows_fail f

/-- An expression over a moved input and moved variables comes to the moved value of the expression. -/
theorem follows_evaluate (expression : String) (input vars : Value) :
    Follows r (evaluate standardFunctions expression input vars)
      (evaluate standardFunctions expression (r.move input) (r.move vars)) := by
  have rest := follows_evaluateText (r := r) (Text.trimChars expression.toList) input
  unfold evaluate evaluateWith
  refine follows_bind_fixed (follows_isTrue vars) fun given => ?_
  split
  · exact follows_bind (follows_pure rfl) rest
  · exact follows_bind (follows_newDict []) rest

end WorkflowEngine.Expression
