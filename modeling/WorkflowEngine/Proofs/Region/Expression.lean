import WorkflowEngine.Expression.Evaluation
import WorkflowEngine.Proofs.Frame.Expression
import WorkflowEngine.Proofs.Region.Method

/-!
# What expressions spare

An expression over free values spares the reserved containers, and its value is free.  All that it meets is
what it is given, the functions that it may call, which name no containers, and what it makes itself.
-/

namespace WorkflowEngine.Expression

open Eval

variable {reserved : Address → Prop} {h h' : Heap}

/-- A part that reads and ends in a fault is evaluated on a condition only. -/
theorem spares_unless {α : Type} [Naming α] {c : Prop} [Decidable c] {e : Eval Unit} {k : Unit → Eval α}
    (first : Reads reserved h e) (rest : ∀ v, Spares reserved h (k v)) :
    Spares reserved h (if c then e >>= k else k ()) := by
  split
  · exact spares_read first fun v _ => rest v
  · exact rest ()

section Limits

variable {a b : Value}

theorem spares_limitedAdd (left : Held reserved h a) (right : Held reserved h b) :
    Spares reserved h (limitedAdd a b) := by
  unfold limitedAdd
  split
  · refine spares_read (reads_length a) fun first _ => spares_read (reads_length b) fun second _ => ?_
    exact spares_unless (reads_fail _) fun _ => Value.spares_add left right
  · exact Value.spares_add left right

theorem spares_isTooLong {count : Value} (held : Held reserved h count) (length : Nat) :
    Spares reserved h (isTooLong count length) := by
  unfold isTooLong
  refine spares_bind (Value.spares_multiply held trivial) fun h' total _ _ => ?_
  exact (Value.reads_compare total _ _).spares

theorem spares_limitedMultiply (left : Held reserved h a) (right : Held reserved h b) :
    Spares reserved h (limitedMultiply a b) := by
  have second {h' : Heap} (grown : h.Grown reserved h') : Spares reserved h' (do
      if isSized b then
        if ← isTooLong a (← length b) then fail (.refused "Sorry, I will not evaluate something that long.")
      Value.multiply a b) := by
    have heldLeft := Held.grown left grown
    have heldRight := Held.grown right grown
    dsimp only
    split
    · refine spares_read (reads_length b) fun size _ => ?_
      refine spares_bind (spares_isTooLong heldLeft size) fun h'' long later _ => ?_
      refine spares_unless (reads_fail _) fun _ => ?_
      exact Value.spares_multiply (Held.grown heldLeft later) (Held.grown heldRight later)
    · exact Value.spares_multiply heldLeft heldRight
  unfold limitedMultiply
  dsimp only
  split
  · refine spares_read (reads_length a) fun size _ => ?_
    refine spares_bind (spares_isTooLong right size) fun h' long grown _ => ?_
    exact spares_unless (reads_fail _) fun _ => second grown
  · exact fun steps sound => second (.refl sound) steps sound

theorem spares_isBeyond (v : Value) (bound : Int) : Spares reserved h (isBeyond v bound) := by
  unfold isBeyond
  exact spares_bind (Value.spares_absolute v) fun h' size _ _ => (Value.reads_compare size _ _).spares

theorem reads_refuseOperands (operator : String) (a b : Value) : Reads reserved h (refuseOperands operator a b) := by
  unfold refuseOperands
  exact reads_bind (reads_text a) fun first _ => reads_bind (reads_text b) fun second _ => reads_fail _

theorem spares_limitedPower (a b : Value) : Spares reserved h (limitedPower a b) := by
  unfold limitedPower
  refine spares_bind (spares_isBeyond a _) fun h' beyond _ _ => spares_unless (reads_refuseOperands _ a b) fun _ => ?_
  refine spares_bind (spares_isBeyond b _) fun h' beyond _ _ => spares_unless (reads_refuseOperands _ a b) fun _ => ?_
  exact Value.spares_power a b

theorem spares_limitedShift (operator : String) {shift : Value → Value → Eval Value}
    (spares : ∀ {h : Heap} a b, Spares reserved h (shift a b)) (a b : Value) :
    Spares reserved h (limitedShift operator shift a b) := by
  unfold limitedShift
  refine spares_bind (spares_isBeyond b _) fun h' beyond _ _ => spares_unless (reads_refuseOperands _ a b) fun _ => ?_
  refine spares_bind (spares_isBeyond a _) fun h' beyond _ _ => spares_unless (reads_refuseOperands _ a b) fun _ => ?_
  exact spares a b

end Limits

section Operators

variable {a b v : Value}

theorem spares_applyUnary (operator : UnaryOperator) (v : Value) : Spares reserved h (applyUnary operator v) := by
  cases operator with
  | minus => exact v.spares_negate
  | plus => exact v.spares_keepSign
  | complement => exact v.spares_invert
  | negation => exact spares_read (reads_isTrue v) fun holds _ => spares_pure trivial

theorem spares_applyBinary (operator : BinaryOperator) (left : Held reserved h a) (right : Held reserved h b) :
    Spares reserved h (applyBinary operator a b) := by
  cases operator with
  | add => exact spares_limitedAdd left right
  | subtract => exact Value.spares_subtract left right
  | multiply => exact spares_limitedMultiply left right
  | divide => exact Value.spares_divide a b
  | floorDivide => exact Value.spares_floorDivide a b
  | modulo => exact Value.spares_modulo a b
  | power => exact spares_limitedPower a b
  | shiftLeft => exact spares_limitedShift _ Value.spares_shiftLeft a b
  | shiftRight => exact spares_limitedShift _ Value.spares_shiftRight a b
  | bitOr => exact Value.spares_bitOr left right
  | bitXor => exact Value.spares_bitXor left right
  | bitAnd => exact Value.spares_bitAnd left b
  | matrix => exact spares_pure trivial

theorem reads_applyLink (link : Link) (a : Value) (right : Held reserved h b) : Reads reserved h (applyLink link a b) := by
  cases link with
  | equal => exact reads_equals a b
  | notEqual => exact reads_bind (reads_equals a b) fun same _ => reads_pure trivial
  | less => exact Value.reads_compare a b _
  | lessEqual => exact Value.reads_compare a b _
  | greater => exact Value.reads_compare a b _
  | greaterEqual => exact Value.reads_compare a b _
  | isIn => exact Value.reads_contains right a
  | isNotIn => exact reads_bind (Value.reads_contains right a) fun found _ => reads_pure trivial
  | isSame => exact reads_heap fun _ => reads_pure trivial
  | isNotSame => exact reads_heap fun _ => reads_pure trivial

theorem reads_fieldValue (v : Value) (layout : String) : Reads reserved h (fieldValue v layout) := by
  unfold fieldValue
  split
  · refine reads_bind (reads_view v) fun d _ => reads_bind (reads_lift fun _ _ => trivial) fun text _ => ?_
    exact reads_fail _
  · exact reads_fail _
  · exact reads_fail _
  · refine reads_bind (reads_view v) fun d _ => reads_bind (reads_lift fun _ _ => trivial) fun text _ => ?_
    exact reads_pure trivial

end Operators

instance : Naming Bindings where
  All Q b := Naming.All Q b.own ∧ Naming.All Q b.outer
  mono weaker all := ⟨Naming.mono weaker all.1, Naming.mono weaker all.2⟩

instance : Naming Setting where
  All Q s := Naming.All Q s.values ∧ Naming.All Q s.functions
  mono weaker all := ⟨Naming.mono weaker all.1, Naming.mono weaker all.2⟩

instance : Naming Yield where
  All Q
    | .items reversed => Naming.All Q reversed
    | .entries entries => Naming.All Q entries
  mono {Q Q' y} weaker all := by
    cases y with
    | items reversed => exact Naming.mono weaker all
    | entries entries => exact Naming.mono weaker all

namespace Bindings

variable {b : Bindings} {v : Value}

theorem held_empty : Held reserved h empty :=
  ⟨Held.nil, Held.nil⟩

theorem held_enter (held : Held reserved h b) : Held reserved h b.enter :=
  ⟨Held.nil, Held.append held.1 held.2⟩

theorem held_setName (name : String) (held : Held reserved h v) {entries : List (String × Value)}
    (before : Held reserved h entries) : Held reserved h (setName name v entries) := by
  induction entries with
  | nil => exact Held.cons ⟨trivial, held⟩ Held.nil
  | cons entry rest ih =>
      obtain ⟨first, others⟩ := List.forall_mem_cons.mp before
      unfold setName
      split
      · exact Held.cons ⟨trivial, held⟩ others
      · exact Held.cons first (ih others)

theorem held_bind (heldBindings : Held reserved h b) (name : String) (held : Held reserved h v) :
    Held reserved h (b.bind name v) :=
  ⟨held_setName name held heldBindings.1, heldBindings.2⟩

theorem held_find {name : String} (held : Held reserved h b) (found : b.find? name = some v) : Held reserved h v := by
  unfold find? at found
  split at found
  · rename_i own
    cases found
    exact Held.named held.1 own
  · exact Held.named held.2 found

end Bindings

variable {s : Setting} {b : Bindings}

theorem reads_nameValue (heldSetting : Held reserved h s) (held : Held reserved h b) (name : String) :
    Reads reserved h (nameValue s b name) := by
  unfold nameValue
  split
  · rename_i v found
    exact reads_pure (Bindings.held_find held found)
  · split
    · rename_i v found
      exact reads_pure (Held.named heldSetting.1 found)
    · split
      · rename_i v found
        exact reads_pure (Held.named heldSetting.2 found)
      · exact reads_fail _

theorem spares_constantValue (c : Constant) : Spares reserved h (constantValue c) := by
  cases c with
  | float x => exact spares_float x
  | str t =>
      simp only [constantValue]
      split
      · exact spares_fail _
      · exact spares_pure trivial
  | bytes bs =>
      simp only [constantValue]
      split
      · exact spares_fail _
      · exact spares_pure trivial
  | _ => exact spares_pure trivial

theorem reads_entryOf {v : Value} (held : Held reserved h v) (name : String) : Reads reserved h (entryOf? v name) := by
  unfold entryOf?
  split
  · exact reads_heap fun sound => reads_pure fun found there => (sound.entries held.2).lookup there
  · exact reads_pure Held.none

theorem reads_attributeValue (s : Setting) {v : Value} (held : Held reserved h v) (name : String) :
    Reads reserved h (attributeValue s v name) := by
  unfold attributeValue
  split
  · rename_i found there
    exact reads_pure (Value.held_attribute held there)
  · refine reads_bind (reads_entryOf held name) fun entry heldEntry => ?_
    split
    · exact reads_pure (heldEntry _ rfl)
    · exact reads_fail _

instance : Naming Target := .nothing Target

theorem reads_bindTarget (fuel : Nat) (heldBindings : Held reserved h b) (target : Target) {v : Value}
    (held : Held reserved h v) : Reads reserved h (bindTarget fuel b target v) := by
  induction fuel generalizing b target v with
  | zero => exact reads_pure heldBindings
  | succ fuel ih =>
      unfold bindTarget
      split
      · exact reads_pure (Bindings.held_bind heldBindings _ held)
      · refine reads_bind (reads_iterate held) fun values heldValues => ?_
        have members (targets : List Target) : Held reserved h (targets.zip values) :=
          fun pair listed => ⟨trivial, heldValues _ (List.of_mem_zip listed).2⟩
        have step (b : Bindings) (pair : Target × Value) (heldBefore : Held reserved h b) (heldPair : Held reserved h pair) :
            Reads reserved h (bindTarget fuel b pair.1 pair.2) :=
          ih heldBefore pair.1 heldPair.2
        exact reads_foldlM step (members _) heldBindings
      · exact reads_fail _

theorem reads_countItem : Reads reserved h countItem := by
  refine reads_plain (fun _ => trivial) fun m => ?_
  unfold countItem
  simp only [exec_bind, exec_get, exec_set]
  split <;> rfl

theorem spares_refuseSpread (f : Value) (positional named : Nat) :
    Spares reserved h (refuseSpread f positional named) := by
  unfold refuseSpread
  dsimp only
  split
  · split
    · exact spares_fail _
    · split <;> exact spares_fail _
  · exact spares_fail _

/-- Going through items spares the reserved containers if what is done with each of them does, from then on. -/
theorem spares_eachItem (target : Target) {body : Bindings → Yield → Eval (Bindings × Yield)}
    (spares : ∀ h', h.Grown reserved h' → ∀ b y, Held reserved h' b → Held reserved h' y →
      Spares reserved h' (body b y)) (fuel : Nat) {y : Yield} {cursor : Cursor} (heldBindings : Held reserved h b)
    (heldYield : Held reserved h y) (held : Held reserved h cursor) :
    Spares reserved h (eachItem target body fuel b y cursor) := by
  induction fuel generalizing h b y cursor with
  | zero => exact spares_read reads_countItem fun _ _ => spares_pure ⟨heldBindings, heldYield⟩
  | succ fuel ih =>
      unfold eachItem
      refine spares_read (Cursor.reads_next held) fun found heldFound => ?_
      split
      · exact spares_pure ⟨heldBindings, heldYield⟩
      · obtain ⟨heldItem, heldCursor⟩ := heldFound _ rfl
        refine spares_read reads_countItem fun _ _ => ?_
        refine spares_read (reads_bindTarget targetDepth heldBindings target heldItem) fun b heldBefore => ?_
        have here : Spares reserved h (body b y) := fun steps sound =>
          spares h (.refl sound) b y heldBefore heldYield steps sound
        refine spares_bind here fun h' made grown heldMade => ?_
        refine ih (fun h'' later => spares h'' (grown.trans later)) heldMade.1 heldMade.2 ?_
        exact Held.grown heldCursor grown

section Trees

theorem held_lastNamed {named : List (String × Value)} (held : Held reserved h named) :
    Held reserved h (lastNamed named) := by
  have fold (before : List (String × Value)) (heldBefore : Held reserved h before) :
      Held reserved h (named.foldl (fun done entry => Bindings.setName entry.1 entry.2 done) before) := by
    induction named generalizing before with
    | nil => exact heldBefore
    | cons entry rest ih =>
        obtain ⟨first, others⟩ := List.forall_mem_cons.mp held
        exact ih others _ (Bindings.held_setName _ first.2 heldBefore)
  exact fold [] Held.nil

instance : Naming (Option String) := .nothing (Option String)

theorem spares_callFunction {apply : Aggregate.Apply} (spares : apply.Spares reserved) {function : Value}
    (heldFunction : Held reserved h function) {positional : List Value} (heldPositional : Held reserved h positional)
    {names : List (Option String)} {values : List Value} (heldValues : Held reserved h values) :
    Spares reserved h (callFunction apply function positional (names.zip values)) := by
  unfold callFunction
  dsimp only
  split
  · exact spares_refuseSpread _ _ _
  · refine Value.spares_callWith spares heldFunction ⟨heldPositional, held_lastNamed fun entry listed => ?_⟩
    obtain ⟨pair, member, named⟩ := List.mem_filterMap.mp listed
    obtain ⟨name, -, rfl⟩ := Option.map_eq_some_iff.mp named
    exact ⟨trivial, heldValues _ (List.of_mem_zip member).2⟩

mutual

/-- The evaluation of a tree spares the reserved containers. -/
theorem spares_tree (spares : s.apply.Spares reserved) {h : Heap} {b : Bindings} (heldSetting : Held reserved h s)
    (held : Held reserved h b) (tree : Tree) : Spares reserved h (evaluateTree s b tree) := by
  match tree with
  | .absent =>
      simp only [evaluateTree]
      exact spares_pure trivial
  | .constant c =>
      simp only [evaluateTree]
      exact spares_constantValue c
  | .name text =>
      simp only [evaluateTree]
      exact (reads_nameValue heldSetting held text).spares
  | .unary operator operand =>
      simp only [evaluateTree]
      exact spares_bind (spares_tree spares heldSetting held operand) fun h' v _ _ => spares_applyUnary operator v
  | .binary operator left right =>
      simp only [evaluateTree]
      split
      · exact spares_fail _
      · refine spares_bind (spares_tree spares heldSetting held left) fun h₁ a grown heldLeft => ?_
        refine spares_bind (spares_tree spares (Held.grown heldSetting grown) (Held.grown held grown) right) ?_
        exact fun h₂ c later heldRight => spares_applyBinary operator (Held.grown heldLeft later) heldRight
  | .conjunction operands =>
      simp only [evaluateTree]
      exact spares_until spares heldSetting held false (.bool false) trivial operands
  | .disjunction operands =>
      simp only [evaluateTree]
      exact spares_until spares heldSetting held true (.bool false) trivial operands
  | .comparison first links operands =>
      simp only [evaluateTree]
      refine spares_bind (spares_tree spares heldSetting held first) fun h₁ a grown heldFirst => ?_
      exact spares_links spares (Held.grown heldSetting grown) (Held.grown held grown) a (.bool true) trivial
        links operands
  | .choice test positive negative =>
      simp only [evaluateTree]
      refine spares_bind (spares_tree spares heldSetting held test) fun h₁ v grown _ => ?_
      refine spares_read (reads_isTrue v) fun holds _ => ?_
      split
      · exact spares_tree spares (Held.grown heldSetting grown) (Held.grown held grown) positive
      · exact spares_tree spares (Held.grown heldSetting grown) (Held.grown held grown) negative
  | .call callee arguments names named =>
      cases callee with
      | name text =>
          simp only [evaluateTree]
          cases found : s.functions.lookup text with
          | none => exact spares_fail _
          | some function =>
              refine spares_bind (spares_trees spares heldSetting held Held.nil arguments) ?_
              intro h₁ positional grown heldPositional
              refine spares_bind
                (spares_trees spares (Held.grown heldSetting grown) (Held.grown held grown) Held.nil named) ?_
              intro h₂ values later heldValues
              have heldFunction := Held.grown (Held.named heldSetting.2 found) (grown.trans later)
              exact spares_callFunction spares heldFunction (heldPositional.grown later) heldValues
      | _ =>
          simp only [evaluateTree]
          exact spares_fail _
  | .subscript container index =>
      simp only [evaluateTree]
      refine spares_bind (spares_tree spares heldSetting held container) fun h₁ c grown heldContainer => ?_
      refine spares_bind (spares_tree spares (Held.grown heldSetting grown) (Held.grown held grown) index) ?_
      exact fun h₂ i later _ => Value.spares_select (Held.grown heldContainer later) i
  | .attribute owner name =>
      simp only [evaluateTree]
      cases forbidden? name with
      | some f => exact spares_fail f
      | none =>
          refine spares_bind (spares_tree spares heldSetting held owner) fun h₁ v grown heldOwner => ?_
          exact (reads_attributeValue s heldOwner name).spares
  | .slice lower upper step =>
      simp only [evaluateTree]
      refine spares_bind (spares_tree spares heldSetting held lower) fun h₁ l grown heldLower => ?_
      refine spares_bind (spares_tree spares (Held.grown heldSetting grown) (Held.grown held grown) upper) ?_
      intro h₂ u later heldUpper
      have growth := grown.trans later
      refine spares_bind (spares_tree spares (Held.grown heldSetting growth) (Held.grown held growth) step) ?_
      intro h₃ t latest heldStep
      exact spares_pure ⟨Held.grown heldLower (later.trans latest), Held.grown heldUpper latest, heldStep⟩
  | .template parts =>
      simp only [evaluateTree]
      exact spares_bind (spares_parts spares heldSetting held [] parts) fun h₁ texts _ _ => spares_pure trivial
  | .placeholder value layout =>
      cases layout with
      | absent =>
          simp only [evaluateTree]
          exact spares_tree spares heldSetting held value
      | _ =>
          -- The layout is not unfolded here, since it is a tree like any other.
          unfold evaluateTree
          dsimp only
          refine spares_bind (spares_tree spares heldSetting held _) fun h₁ spec grown _ => ?_
          split
          · refine spares_bind (spares_tree spares (Held.grown heldSetting grown) (Held.grown held grown) value) ?_
            exact fun h₂ v _ _ => (reads_fieldValue v _).spares
          · exact spares_pure trivial
  | .dict entries =>
      simp only [evaluateTree]
      refine spares_bind (spares_entries spares heldSetting held Held.nil entries) fun h₁ entries _ heldEntries => ?_
      exact spares_newDict heldEntries
  | .tuple items =>
      simp only [evaluateTree]
      refine spares_bind (spares_trees spares heldSetting held Held.nil items) fun h₁ values _ heldValues => ?_
      exact spares_newTuple heldValues
  | .list items =>
      simp only [evaluateTree]
      refine spares_bind (spares_spread spares heldSetting held Held.nil items) fun h₁ values _ heldValues => ?_
      exact spares_newList heldValues
  | .set items =>
      simp only [evaluateTree]
      refine spares_bind (spares_members spares heldSetting held Held.nil items) fun h₁ values _ heldValues => ?_
      exact spares_newSet heldValues.settle
  | .listOf item clauses =>
      simp only [evaluateTree]
      refine spares_bind (spares_clauses spares heldSetting ?_ (Bindings.held_enter held) (y := .items []) Held.nil
        clauses) fun h₁ made _ heldMade => ?_
      · intro h' grown b y heldB heldY
        refine spares_bind (spares_tree spares (Held.grown heldSetting grown) heldB item) fun h'' v later heldItem => ?_
        cases y with
        | items done => exact spares_pure ⟨Held.grown heldB later, Held.cons heldItem (Held.grown heldY later)⟩
        | entries done => exact spares_pure ⟨Held.grown heldB later, Held.grown heldY later⟩
      · rcases made with ⟨b, y⟩
        cases y with
        | items done => exact spares_newList (Held.reverse heldMade.2)
        | entries done => exact spares_newList Held.nil
  | .dictOf key value clauses =>
      simp only [evaluateTree]
      refine spares_bind (spares_clauses spares heldSetting ?_ (Bindings.held_enter held) (y := .entries []) Held.nil
        clauses) fun h₁ made _ heldMade => ?_
      · intro h' grown b y heldB heldY
        refine spares_bind (spares_tree spares (Held.grown heldSetting grown) heldB value) fun h₂ v later heldV => ?_
        have growth := grown.trans later
        refine spares_bind (spares_tree spares (Held.grown heldSetting growth) (Held.grown heldB later) key) ?_
        intro h₃ k latest heldK
        refine spares_read (reads_requireKey k) fun _ _ => ?_
        have heldDone := Held.grown heldY (later.trans latest)
        have heldBound := Held.grown heldB (later.trans latest)
        cases y with
        | items done => exact spares_pure ⟨heldBound, heldDone⟩
        | entries done =>
            refine spares_heap fun _ => spares_pure ⟨heldBound, ?_⟩
            exact Held.setEntry heldDone heldK (Held.grown heldV latest)
      · rcases made with ⟨b, y⟩
        cases y with
        | items done => exact spares_newDict Held.nil
        | entries done => exact spares_newDict heldMade.2
  | .starred operand =>
      simp only [evaluateTree]
      exact spares_fail _
  | .refused construct =>
      simp only [evaluateTree]
      exact spares_fail _

theorem spares_trees (spares : s.apply.Spares reserved) {h : Heap} {b : Bindings} (heldSetting : Held reserved h s)
    (held : Held reserved h b) {done : List Value} (before : Held reserved h done) (trees : List Tree) :
    Spares reserved h (evaluateTrees s b done trees) := by
  cases trees with
  | nil =>
      simp only [evaluateTrees]
      exact spares_pure before.reverse
  | cons tree rest =>
      simp only [evaluateTrees]
      refine spares_bind (spares_tree spares heldSetting held tree) fun h₁ v grown heldValue => ?_
      exact spares_trees spares (Held.grown heldSetting grown) (Held.grown held grown)
        (Held.cons heldValue (before.grown grown)) rest

theorem spares_until (spares : s.apply.Spares reserved) {h : Heap} {b : Bindings} (heldSetting : Held reserved h s)
    (held : Held reserved h b) (deciding : Bool) (last : Value) (heldLast : Held reserved h last)
    (trees : List Tree) : Spares reserved h (evaluateUntil s b deciding last trees) := by
  cases trees with
  | nil =>
      simp only [evaluateUntil]
      exact spares_pure heldLast
  | cons tree rest =>
      simp only [evaluateUntil]
      refine spares_bind (spares_tree spares heldSetting held tree) fun h₁ v grown heldValue => ?_
      refine spares_read (reads_isTrue v) fun holds _ => ?_
      split
      · exact spares_pure heldValue
      · exact spares_until spares (Held.grown heldSetting grown) (Held.grown held grown) deciding v heldValue rest

theorem spares_links (spares : s.apply.Spares reserved) {h : Heap} {b : Bindings} (heldSetting : Held reserved h s)
    (held : Held reserved h b) (left : Value) (last : Value) (heldLast : Held reserved h last) (links : List Link)
    (trees : List Tree) : Spares reserved h (evaluateLinks s b left last links trees) := by
  cases trees with
  | nil =>
      simp only [evaluateLinks]
      exact spares_pure heldLast
  | cons tree rest =>
      cases links with
      | nil =>
          simp only [evaluateLinks]
          exact spares_pure heldLast
      | cons link links =>
          simp only [evaluateLinks]
          refine spares_bind (spares_tree spares heldSetting held tree) fun h₁ right grown heldRight => ?_
          refine spares_read (reads_applyLink link left heldRight) fun holds _ => ?_
          split
          · exact spares_links spares (Held.grown heldSetting grown) (Held.grown held grown) right
              (.bool true) trivial links rest
          · exact spares_pure trivial

theorem spares_parts (spares : s.apply.Spares reserved) {h : Heap} {b : Bindings} (heldSetting : Held reserved h s)
    (held : Held reserved h b) (done : List String) (trees : List Tree) :
    Spares reserved h (evaluateParts s b done trees) := by
  cases trees with
  | nil =>
      simp only [evaluateParts]
      exact spares_pure fun _ _ => trivial
  | cons tree rest =>
      simp only [evaluateParts]
      refine spares_bind (spares_tree spares heldSetting held tree) fun h₁ v grown _ => ?_
      refine spares_read (reads_text v) fun t _ => ?_
      have later : Spares reserved h₁ (evaluateParts s b (t :: done) rest) :=
        spares_parts spares (Held.grown heldSetting grown) (Held.grown held grown) (t :: done) rest
      split
      · exact spares_read (reads_fail _) fun _ _ => later
      · exact spares_read (reads_pure (v := ()) trivial) fun _ _ => later

theorem spares_entries (spares : s.apply.Spares reserved) {h : Heap} {b : Bindings} (heldSetting : Held reserved h s)
    (held : Held reserved h b) {done : List (Value × Value)} (before : Held reserved h done) (entries : List Entry) :
    Spares reserved h (evaluateEntries s b done entries) := by
  cases entries with
  | nil =>
      simp only [evaluateEntries]
      exact spares_pure before
  | cons entry rest =>
      cases entry with
      | spread value =>
          simp only [evaluateEntries]
          refine spares_bind (spares_tree spares heldSetting held value) fun h₁ v grown heldValue => ?_
          refine spares_read (Conversion.reads_extend (before.grown grown) heldValue) fun done heldDone => ?_
          exact spares_entries spares (Held.grown heldSetting grown) (Held.grown held grown) heldDone rest
      | pair key value =>
          simp only [evaluateEntries]
          refine spares_bind (spares_tree spares heldSetting held value) fun h₁ v grown heldValue => ?_
          refine spares_bind (spares_tree spares (Held.grown heldSetting grown) (Held.grown held grown) key) ?_
          intro h₂ k later heldKey
          have growth := grown.trans later
          refine spares_read (reads_requireKey k) fun _ _ => spares_heap fun _ => ?_
          exact spares_entries spares (Held.grown heldSetting growth) (Held.grown held growth)
            ((before.grown growth).setEntry heldKey (Held.grown heldValue later)) rest

theorem spares_spread (spares : s.apply.Spares reserved) {h : Heap} {b : Bindings} (heldSetting : Held reserved h s)
    (held : Held reserved h b) {done : List Value} (before : Held reserved h done) (trees : List Tree) :
    Spares reserved h (evaluateSpread s b done trees) := by
  cases trees with
  | nil =>
      simp only [evaluateSpread]
      exact spares_pure before.reverse
  | cons tree rest =>
      cases tree with
      | starred operand =>
          simp only [evaluateSpread]
          refine spares_bind (spares_tree spares heldSetting held operand) fun h₁ v grown heldValue => ?_
          refine spares_read (reads_iterate heldValue) fun values heldValues => ?_
          exact spares_spread spares (Held.grown heldSetting grown) (Held.grown held grown)
            (heldValues.reverse.append (before.grown grown)) rest
      | _ =>
          simp only [evaluateSpread]
          refine spares_bind (spares_tree spares heldSetting held _) fun h₁ v grown heldValue => ?_
          exact spares_spread spares (Held.grown heldSetting grown) (Held.grown held grown)
            (Held.cons heldValue (before.grown grown)) rest

theorem spares_members (spares : s.apply.Spares reserved) {h : Heap} {b : Bindings} (heldSetting : Held reserved h s)
    (held : Held reserved h b) {done : List Value} (before : Held reserved h done) (trees : List Tree) :
    Spares reserved h (evaluateMembers s b done trees) := by
  cases trees with
  | nil =>
      simp only [evaluateMembers]
      exact spares_pure before
  | cons tree rest =>
      simp only [evaluateMembers]
      refine spares_bind (spares_tree spares heldSetting held tree) fun h₁ v grown heldValue => ?_
      refine spares_read (reads_requireKey v) fun _ _ => spares_heap fun _ => ?_
      refine spares_members spares (Held.grown heldSetting grown) (Held.grown held grown) ?_ rest
      split
      · exact before.grown grown
      · exact (before.grown grown).append (Held.cons heldValue Held.nil)

theorem spares_tests (spares : s.apply.Spares reserved) {h : Heap} {b : Bindings} (heldSetting : Held reserved h s)
    (held : Held reserved h b) (trees : List Tree) : Spares reserved h (evaluateTests s b trees) := by
  cases trees with
  | nil =>
      simp only [evaluateTests]
      exact spares_pure trivial
  | cons tree rest =>
      simp only [evaluateTests]
      refine spares_bind (spares_tree spares heldSetting held tree) fun h₁ v grown _ => ?_
      refine spares_read (reads_isTrue v) fun holds _ => ?_
      split
      · exact spares_tests spares (Held.grown heldSetting grown) (Held.grown held grown) rest
      · exact spares_pure trivial

/-- Clauses are gone through one inside the other, with a step that spares the reserved containers inside all of
them. -/
theorem spares_clauses (spares : s.apply.Spares reserved) {h : Heap} {b : Bindings} {y : Yield}
    (heldSetting : Held reserved h s) {step : Bindings → Yield → Eval (Bindings × Yield)}
    (sparesStep : ∀ h', h.Grown reserved h' → ∀ b y, Held reserved h' b → Held reserved h' y →
      Spares reserved h' (step b y)) (held : Held reserved h b) (heldYield : Held reserved h y)
    (clauses : List Clause) : Spares reserved h (evaluateClauses s step b y clauses) := by
  cases clauses with
  | nil =>
      simp only [evaluateClauses]
      exact fun steps sound => sparesStep h (.refl sound) b y held heldYield steps sound
  | cons clause rest =>
      obtain ⟨target, source, tests⟩ := clause
      simp only [evaluateClauses]
      refine spares_bind (spares_tree spares heldSetting held source) fun h₁ v grown heldSource => ?_
      refine spares_read (Cursor.reads_start heldSource) fun cursor heldCursor => ?_
      generalize itemLimit + 1 = fuel
      refine spares_eachItem target ?_ fuel (Held.grown held grown) (Held.grown heldYield grown) heldCursor
      intro h₂ later b y heldB heldY
      have growth := grown.trans later
      refine spares_bind (spares_tests spares (Held.grown heldSetting growth) heldB tests) fun h₃ holds latest _ => ?_
      split
      · exact spares_clauses spares (Held.grown heldSetting (growth.trans latest))
          (fun h₄ last => sparesStep h₄ ((growth.trans latest).trans last)) (Held.grown heldB latest)
          (Held.grown heldY latest) rest
      · exact spares_pure ⟨Held.grown heldB latest, Held.grown heldY latest⟩

end

end Trees

theorem spares_statement (spares : s.apply.Spares reserved) (held : Held reserved h s) (statement : Statement) :
    Spares reserved h (evaluateStatement s statement) := by
  cases statement with
  | value tree => exact spares_tree spares held Bindings.held_empty tree
  | importing => exact spares_fail _
  | refused construct => exact spares_fail _

theorem held_standardFunctions : Held reserved h standardFunctions := by
  intro entry listed
  simp only [standardFunctions, List.mem_cons, List.not_mem_nil, or_false] at listed
  rcases listed with rfl | rfl | rfl | rfl | rfl | rfl | rfl | rfl | rfl | rfl | rfl | rfl | rfl | rfl | rfl | rfl | rfl | rfl
  all_goals exact ⟨trivial, trivial⟩

theorem held_namedValues (sound : h.Sound reserved) {input vars : Value} (heldInput : Held reserved h input)
    (heldVars : Held reserved h vars) : Held reserved h (namedValues h input vars) := by
  have texts {v : Value} (held : Held reserved h v) : Held reserved h (textEntries h v) := by
    unfold textEntries
    split
    · intro entry listed
      obtain ⟨pair, member, named⟩ := List.mem_filterMap.mp listed
      split at named
      · cases named
        exact ⟨trivial, (sound.entries held.2 pair member).2⟩
      · cases named
    · exact Held.nil
  have literals : Held reserved h literalNames := by
    intro entry listed
    simp only [literalNames, List.mem_cons, List.not_mem_nil, or_false] at listed
    rcases listed with rfl | rfl | rfl
    all_goals exact ⟨trivial, trivial⟩
  refine Held.cons ⟨trivial, heldInput⟩ (Held.cons ⟨trivial, heldInput⟩ (Held.cons ⟨trivial, heldVars⟩ ?_))
  exact ((texts heldInput).append (texts heldVars)).append literals

/-- An expression over a free input and free variables spares the reserved containers, and its value is free. -/
theorem spares_evaluate (expression : String) {input vars : Value} (heldInput : Held reserved h input)
    (heldVars : Held reserved h vars) : Spares reserved h (evaluate standardFunctions expression input vars) := by
  unfold evaluate evaluateWith
  extract_lets chars start
  have started {h' : Heap} {given : Value} (grown : h.Grown reserved h') (heldGiven : Held reserved h' given) :
      Spares reserved h' (start given) := by
    dsimp only [start]
    split
    · exact spares_fail _
    · split
      · exact spares_fail _
      · exact spares_fail _
      · refine spares_heap fun sound => spares_statement Value.spares_applyKey ⟨?_, held_standardFunctions⟩ _
        exact held_namedValues sound (Held.grown heldInput grown) heldGiven
  refine spares_read (reads_isTrue vars) fun given _ => ?_
  split
  · refine spares_read (reads_pure heldVars) fun given heldGiven => ?_
    exact fun steps sound => started (.refl sound) heldGiven steps sound
  · exact spares_bind (spares_newDict Held.nil) fun h' given grown heldGiven => started grown heldGiven

end WorkflowEngine.Expression
