import WorkflowEngine.Pattern.Matcher

/-!
# Patterns without regard to case

Reading a pattern does not depend on whether letters that differ in case only count as the same: with that option
set from outside, the reader takes the same steps and is refused at the same places.  So a pattern can be used
either way, or neither way.
-/

namespace WorkflowEngine.Pattern

/-- The same options, with letters that differ in case only taken for the same. -/
def Options.blind (o : Options) : Options :=
  { o with ignoreCase := true }

/-- The reader at the same place, with letters that differ in case only taken for the same. -/
def Reading.blind (r : Reading) : Reading :=
  { r with options := r.options.blind }

namespace Reader

variable {α β : Type}

/-- The step is the same whether or not the case of letters counts. -/
def IsBlind (p : Reader α) : Prop :=
  ∀ r, p.run r.blind = (p.run r).map fun after => (after.1, after.2.blind)

theorem isBlind_pure (a : α) : IsBlind (pure a : Reader α) :=
  fun _ => rfl

theorem isBlind_throw (p : Problem) : IsBlind (throw p : Reader α) :=
  fun _ => rfl

theorem isBlind_bind {p : Reader α} {f : α → Reader β} (first : IsBlind p) (second : ∀ a, IsBlind (f a)) :
    IsBlind (p >>= f) := by
  intro r
  rw [StateT.run_bind, StateT.run_bind, first r]
  cases p.run r with
  | error e => rfl
  | ok after => exact second after.1 after.2

/-- A step that looks at something other than the case option. -/
theorem isBlind_get {f : Reading → Reader α} (same : ∀ r : Reading, f r.blind = f r)
    (rest : ∀ r, IsBlind (f r)) : IsBlind (get >>= f) := by
  intro r
  change (f r.blind).run r.blind = ((f r).run r).map _
  rw [same, rest]

theorem isBlind_modify {f : Reading → Reading} (same : ∀ r : Reading, f r.blind = (f r).blind) :
    IsBlind (modify f : Reader PUnit) := by
  intro r
  change Except.ok (PUnit.unit, f r.blind) = Except.ok (PUnit.unit, (f r).blind)
  rw [same]

theorem isBlind_ite {c : Prop} [Decidable c] {p q : Reader α} (yes : IsBlind p) (no : IsBlind q) :
    IsBlind (if c then p else q) := by
  split
  · exact yes
  · exact no

/-! ## Tokens -/

theorem isBlind_refuse (message : String) (back : Nat) : IsBlind (refuse message back : Reader α) :=
  isBlind_get (fun _ => rfl) fun _ => isBlind_throw _

theorem isBlind_peek : IsBlind peek := by
  refine isBlind_get (fun _ => rfl) fun r => ?_
  split <;> exact isBlind_pure _

theorem isBlind_moveTo (rest : List Char) (position : Nat) : IsBlind (moveTo rest position) := by
  unfold moveTo
  split
  · exact isBlind_throw _
  · exact isBlind_modify fun _ => rfl

theorem isBlind_take : IsBlind take := by
  refine isBlind_bind isBlind_peek fun token => ?_
  cases token with
  | none => exact isBlind_pure _
  | some t =>
      refine isBlind_get (fun _ => rfl) fun r => ?_
      exact isBlind_bind (isBlind_moveTo _ _) fun _ => isBlind_pure _

theorem isBlind_skip (c : Char) : IsBlind (skip c) := by
  refine isBlind_bind isBlind_peek fun token => isBlind_ite ?_ (isBlind_pure _)
  exact isBlind_bind isBlind_take fun _ => isBlind_pure _

theorem isBlind_takeWhile (fits : Char → Bool) (n : Nat) (done : List Char) : IsBlind (takeWhile fits n done) := by
  induction n generalizing done with
  | zero => exact isBlind_pure _
  | succ n ih =>
      refine isBlind_bind isBlind_peek fun token => ?_
      split
      · exact isBlind_ite (isBlind_bind isBlind_take fun _ => ih _) (isBlind_pure _)
      · exact isBlind_pure _

theorem isBlind_takeName (close : Char) (what : String) (fuel : Nat) (done : List Char) :
    IsBlind (takeName close what fuel done) := by
  induction fuel generalizing done with
  | zero => exact isBlind_pure _
  | succ fuel ih =>
      refine isBlind_bind isBlind_take fun token => ?_
      split
      · exact isBlind_ite (isBlind_refuse _ _) (isBlind_refuse _ _)
      · exact isBlind_ite (isBlind_ite (isBlind_refuse _ _) (isBlind_pure _)) (ih _)
      · exact ih _

theorem isBlind_name (close : Char) (what : String) : IsBlind (name close what) :=
  isBlind_get (fun _ => rfl) fun _ => isBlind_takeName _ _ _ _

theorem isBlind_checkName (chars : List Char) : IsBlind (checkName chars) := by
  unfold checkName
  split
  · exact isBlind_refuse _ _
  · exact isBlind_pure _

theorem isBlind_isClosed (group : Nat) : IsBlind (isClosed group) :=
  isBlind_get (fun _ => rfl) fun _ => isBlind_pure _

theorem isBlind_checkLook (group : Nat) : IsBlind (checkLook group) := by
  refine isBlind_get (fun _ => rfl) fun r => ?_
  split
  · exact isBlind_pure _
  · refine isBlind_bind (isBlind_isClosed _) fun closed => ?_
    extract_lets finish
    have last (done : PUnit) : IsBlind (finish done) := isBlind_ite (isBlind_refuse _ _) (isBlind_pure _)
    exact isBlind_ite (isBlind_bind (isBlind_refuse _ _) last) (last ⟨⟩)

/-! ## Escapes and sets -/

theorem isBlind_refuseEscape (message : String) (chars : List Char) :
    IsBlind (refuseEscape message chars : Reader α) :=
  isBlind_refuse _ _

theorem isBlind_hexCode (c : Char) (count : Nat) : IsBlind (hexCode c count) := by
  refine isBlind_bind (isBlind_takeWhile _ _ _) fun digits => ?_
  exact isBlind_ite (isBlind_refuseEscape _ _) (isBlind_ite (isBlind_refuseEscape _ _) (isBlind_pure _))

theorem isBlind_namedCode : IsBlind namedCode := by
  refine isBlind_bind (isBlind_skip _) fun opened => isBlind_ite (isBlind_refuse _ _) ?_
  exact isBlind_bind (isBlind_name _ _) fun _ => isBlind_refuse _ _

theorem isBlind_numericCode? (c : Char) : IsBlind (numericCode? c) := by
  unfold numericCode?
  repeat' refine isBlind_ite ?_ ?_
  · exact isBlind_bind (isBlind_hexCode _ _) fun _ => isBlind_pure _
  · exact isBlind_bind (isBlind_hexCode _ _) fun _ => isBlind_pure _
  · exact isBlind_bind (isBlind_hexCode _ _) fun _ => isBlind_pure _
  · exact isBlind_bind isBlind_namedCode fun _ => isBlind_pure _
  · exact isBlind_pure _

theorem isBlind_octalCode (digits : List Char) : IsBlind (octalCode digits) :=
  isBlind_ite (isBlind_refuse _ _) (isBlind_pure _)

theorem isBlind_setEscape (c : Char) : IsBlind (setEscape c) := by
  unfold setEscape
  split
  · exact isBlind_pure _
  · exact isBlind_pure _
  · refine isBlind_bind (isBlind_numericCode? c) fun code => ?_
    split
    · exact isBlind_pure _
    · repeat' refine isBlind_ite ?_ ?_
      · refine isBlind_bind (isBlind_takeWhile _ _ _) fun digits => ?_
        exact isBlind_bind (isBlind_octalCode _) fun _ => isBlind_pure _
      · exact isBlind_refuseEscape _ _
      · exact isBlind_pure _

theorem isBlind_digitEscape (c : Char) : IsBlind (digitEscape c) := by
  unfold digitEscape
  refine isBlind_bind (isBlind_takeWhile _ _ _) fun second => ?_
  extract_lets rest
  have read (third : List Char) : IsBlind (rest third) := by
    refine isBlind_ite (isBlind_bind (isBlind_octalCode _) fun _ => isBlind_pure _) ?_
    refine isBlind_get (fun _ => rfl) fun r => isBlind_ite ?_ (isBlind_refuse _ _)
    refine isBlind_bind (isBlind_isClosed _) fun closed => isBlind_ite (isBlind_refuse _ _) ?_
    exact isBlind_bind (isBlind_checkLook _) fun _ => isBlind_pure _
  exact isBlind_ite (isBlind_bind (isBlind_takeWhile _ _ _) read) (isBlind_bind (isBlind_pure _) read)

theorem isBlind_escape (c : Char) : IsBlind (escape c) := by
  unfold escape
  split
  · exact isBlind_pure _
  · exact isBlind_pure _
  · exact isBlind_pure _
  · refine isBlind_bind (isBlind_numericCode? c) fun code => ?_
    split
    · exact isBlind_pure _
    · repeat' refine isBlind_ite ?_ ?_
      · exact isBlind_bind (isBlind_takeWhile _ _ _) fun _ => isBlind_pure _
      · exact isBlind_digitEscape c
      · exact isBlind_refuseEscape _ _
      · exact isBlind_pure _

theorem isBlind_setMember (t : Token) : IsBlind (setMember t) := by
  cases t with
  | char c => exact isBlind_pure _
  | escape c => exact isBlind_setEscape c

theorem isBlind_setMembers (start fuel : Nat) (done : List Member) : IsBlind (setMembers start fuel done) := by
  induction fuel generalizing done with
  | zero => exact isBlind_pure _
  | succ fuel ih =>
      refine isBlind_bind isBlind_take fun first => ?_
      split
      · exact isBlind_throw _
      · refine isBlind_ite (isBlind_pure _) (isBlind_bind (isBlind_setMember _) fun low => ?_)
        refine isBlind_bind (isBlind_skip _) fun ranged => isBlind_ite ?_ (ih _)
        refine isBlind_bind isBlind_take fun second => ?_
        split
        · exact isBlind_throw _
        · refine isBlind_ite (isBlind_pure _) (isBlind_bind (isBlind_setMember _) fun high => ?_)
          dsimp only
          split
          · exact isBlind_ite (isBlind_refuse _ _) (ih _)
          · exact isBlind_refuse _ _

theorem isBlind_set : IsBlind set := by
  refine isBlind_get (fun _ => rfl) fun r => isBlind_bind (isBlind_skip _) fun negated => ?_
  refine isBlind_bind (isBlind_setMembers _ _ _) fun members => ?_
  split
  · exact isBlind_pure _
  · exact isBlind_pure _

/-! ## Repetitions -/

theorem isBlind_braces : IsBlind braces := by
  unfold braces
  refine isBlind_get (fun _ => rfl) fun start => isBlind_bind isBlind_peek fun token => ?_
  refine isBlind_ite (isBlind_pure _) (isBlind_bind (isBlind_takeWhile _ _ _) fun low => ?_)
  extract_lets least rest
  have read (high : List Char) : IsBlind (rest high) := by
    refine isBlind_bind (isBlind_skip _) fun closed => isBlind_ite ?_ ?_
    · exact isBlind_bind (isBlind_moveTo _ _) fun _ => isBlind_pure _
    · exact isBlind_ite (isBlind_throw _) (isBlind_ite (isBlind_throw _) (isBlind_pure _))
  refine isBlind_bind (isBlind_skip _) fun further => isBlind_ite ?_ ?_
  · exact isBlind_bind (isBlind_takeWhile _ _ _) read
  · exact isBlind_bind (isBlind_pure _) read

theorem isBlind_counts (c : Char) : IsBlind (counts c) := by
  unfold counts
  repeat' refine isBlind_ite ?_ ?_
  · exact isBlind_pure _
  · exact isBlind_pure _
  · exact isBlind_pure _
  · exact isBlind_braces

theorem isBlind_repeatLast (start : Nat) (count : Nat × Option Nat) (items : List Item) :
    IsBlind (repeatLast start count items) := by
  unfold repeatLast
  cases items with
  | nil => exact isBlind_throw _
  | cons last before =>
      refine isBlind_ite (isBlind_throw _) (isBlind_ite (isBlind_throw _) ?_)
      refine isBlind_bind (isBlind_skip _) fun lazy => ?_
      extract_lets finish
      have last (greed : Greed) : IsBlind (finish greed) := isBlind_pure _
      refine isBlind_ite (isBlind_bind (isBlind_pure _) last) (isBlind_bind (isBlind_skip _) fun possessive => ?_)
      exact isBlind_ite (isBlind_bind (isBlind_pure _) last) (isBlind_bind (isBlind_pure _) last)

/-! ## Options and groups -/

theorem isBlind_addedOptions (fuel : Nat) (added : Options) (c : Char) : IsBlind (addedOptions fuel added c) := by
  induction fuel generalizing added c with
  | zero => exact isBlind_pure _
  | succ fuel ih =>
      unfold addedOptions
      refine isBlind_ite (isBlind_refuse _ _) (isBlind_ite (isBlind_refuse _ _) ?_)
      refine isBlind_bind isBlind_take fun token => ?_
      split
      · exact isBlind_refuse _ _
      · exact isBlind_ite (isBlind_pure _) (isBlind_ite (ih _ _) (isBlind_refuse _ _))
      · exact isBlind_refuse _ _

theorem isBlind_removedOptions (fuel : Nat) (removed : Options) (c : Char) :
    IsBlind (removedOptions fuel removed c) := by
  induction fuel generalizing removed c with
  | zero => exact isBlind_pure _
  | succ fuel ih =>
      unfold removedOptions
      refine isBlind_ite (isBlind_refuse _ _) ?_
      refine isBlind_bind isBlind_take fun token => ?_
      split
      · exact isBlind_refuse _ _
      · exact isBlind_ite (isBlind_pure _) (isBlind_ite (ih _ _) (isBlind_refuse _ _))
      · exact isBlind_refuse _ _

/-- Options that are added for the whole pattern leave the case option set. -/
theorem union_blind (o added : Options) : o.blind.union added = (o.union added).blind := by
  simp [Options.blind, Options.union]

theorem isBlind_inlineOptions (c : Char) : IsBlind (inlineOptions c) := by
  unfold inlineOptions
  refine isBlind_get (fun _ => rfl) fun r => ?_
  extract_lets fuel found
  have further (options : Options × Char) : IsBlind (found options) := by
    obtain ⟨added, mark⟩ := options
    refine isBlind_ite ?_ (isBlind_ite (isBlind_refuse _ _) ?_)
    · refine isBlind_bind (isBlind_modify fun r => ?_) fun _ => isBlind_pure _
      simp only [Reading.blind, union_blind]
    · extract_lets finish
      have last (removed : Options) : IsBlind (finish removed) :=
        isBlind_ite (isBlind_refuse _ _) (isBlind_ite (isBlind_refuse _ _) (isBlind_pure _))
      refine isBlind_ite (isBlind_bind isBlind_take fun token => ?_) (isBlind_bind (isBlind_pure _) last)
      split
      · exact isBlind_bind (isBlind_refuse _ _) last
      · refine isBlind_ite (isBlind_bind (isBlind_removedOptions _ _ _) last) ?_
        exact isBlind_bind (isBlind_refuse _ _) last
      · exact isBlind_bind (isBlind_refuse _ _) last
  refine isBlind_ite (isBlind_bind (isBlind_pure _) further) ?_
  exact isBlind_bind (isBlind_addedOptions _ _ _) further

theorem isBlind_openGroup (groupName : Option (List Char)) : IsBlind (openGroup groupName) := by
  refine isBlind_get (fun _ => rfl) fun r => ?_
  cases groupName with
  | none => exact isBlind_bind (isBlind_modify fun _ => rfl) fun _ => isBlind_pure _
  | some chars =>
      dsimp only
      split
      · exact isBlind_refuse _ _
      · exact isBlind_bind (isBlind_modify fun _ => rfl) fun _ => isBlind_pure _

theorem isBlind_closeGroup (number : Nat) (body : List Item) : IsBlind (closeGroup number body) :=
  isBlind_modify fun _ => rfl

theorem isBlind_comment (start fuel : Nat) : IsBlind (comment start fuel) := by
  induction fuel with
  | zero => exact isBlind_pure _
  | succ fuel ih =>
      refine isBlind_bind isBlind_take fun token => ?_
      split
      · exact isBlind_throw _
      · exact isBlind_pure _
      · exact ih

theorem isBlind_namedOpening : IsBlind namedOpening := by
  refine isBlind_bind (isBlind_skip _) fun named => isBlind_ite ?_ ?_
  · refine isBlind_bind (isBlind_name _ _) fun chars => ?_
    exact isBlind_bind (isBlind_checkName _) fun _ => isBlind_pure _
  · refine isBlind_bind (isBlind_skip _) fun referred => isBlind_ite ?_ ?_
    · refine isBlind_bind (isBlind_name _ _) fun chars => isBlind_bind (isBlind_checkName _) fun _ => ?_
      refine isBlind_get (fun _ => rfl) fun r => ?_
      split
      · exact isBlind_refuse _ _
      · refine isBlind_bind (isBlind_isClosed _) fun closed => isBlind_ite (isBlind_refuse _ _) ?_
        exact isBlind_bind (isBlind_checkLook _) fun _ => isBlind_pure _
    · refine isBlind_bind isBlind_take fun token => ?_
      split
      · exact isBlind_refuse _ _
      · exact isBlind_refuse _ _

theorem isBlind_conditionGroup : IsBlind conditionGroup := by
  refine isBlind_bind (isBlind_name _ _) fun chars => isBlind_ite ?_ ?_
  · refine isBlind_get (fun _ => rfl) fun r => ?_
    split
    · exact isBlind_refuse _ _
    · exact isBlind_pure _
  · split
    · rename_i group _
      refine isBlind_ite (isBlind_refuse _ _) (isBlind_ite (isBlind_refuse _ _) ?_)
      refine isBlind_bind (isBlind_modify fun r => ?_) fun _ => isBlind_pure _
      by_cases known : (r.conditions.lookup group).isSome
      · rw [if_pos known]
        exact if_pos known
      · rw [if_neg known]
        exact if_neg known
    · exact isBlind_refuse _ _

theorem isBlind_extension (start : Nat) : IsBlind (extension start) := by
  refine isBlind_bind isBlind_take fun token => ?_
  split
  · exact isBlind_refuse _ _
  · exact isBlind_refuse _ _
  · repeat' refine isBlind_ite ?_ ?_
    · exact isBlind_namedOpening
    · exact isBlind_pure _
    · refine isBlind_get (fun _ => rfl) fun r => ?_
      exact isBlind_bind (isBlind_comment _ _) fun _ => isBlind_pure _
    · exact isBlind_pure _
    · exact isBlind_pure _
    · refine isBlind_bind isBlind_take fun next => ?_
      split
      · exact isBlind_refuse _ _
      · exact isBlind_pure _
      · exact isBlind_pure _
      · exact isBlind_refuse _ _
    · refine isBlind_bind isBlind_conditionGroup fun group => ?_
      exact isBlind_bind (isBlind_checkLook _) fun _ => isBlind_pure _
    · exact isBlind_pure _
    · refine isBlind_bind (isBlind_inlineOptions _) fun options => ?_
      split
      · exact isBlind_pure _
      · exact isBlind_pure _
    · exact isBlind_refuse _ _

theorem isBlind_close (start : Nat) : IsBlind (close start) := by
  refine isBlind_bind (isBlind_skip _) fun closed => ?_
  exact isBlind_ite (isBlind_throw _) (isBlind_pure _)

theorem isBlind_line (fuel : Nat) : IsBlind (line fuel) := by
  induction fuel with
  | zero => exact isBlind_pure _
  | succ fuel ih =>
      refine isBlind_bind isBlind_take fun token => ?_
      split
      · exact isBlind_pure _
      · exact isBlind_pure _
      · exact ih

mutual

theorem isBlind_alternatives (fuel : Nat) (verbose outermost : Bool) :
    IsBlind (alternatives fuel verbose outermost) := by
  cases fuel with
  | zero => exact isBlind_pure _
  | succ fuel =>
      unfold alternatives
      refine isBlind_bind (isBlind_sequence fuel verbose outermost []) fun first => ?_
      exact isBlind_bind (isBlind_others fuel verbose outermost []) fun rest => isBlind_pure _

theorem isBlind_others (fuel : Nat) (verbose outermost : Bool) (done : List (List Item)) :
    IsBlind (others fuel verbose outermost done) := by
  cases fuel with
  | zero => exact isBlind_pure _
  | succ fuel =>
      unfold others
      refine isBlind_bind (isBlind_skip _) fun further => isBlind_ite ?_ (isBlind_pure _)
      refine isBlind_get (fun _ => rfl) fun r => ?_
      exact isBlind_bind (isBlind_sequence fuel _ false []) fun items => isBlind_others fuel _ outermost _

theorem isBlind_sequence (fuel : Nat) (verbose first : Bool) (done : List Item) :
    IsBlind (sequence fuel verbose first done) := by
  cases fuel with
  | zero => exact isBlind_pure _
  | succ fuel =>
      unfold sequence
      refine isBlind_bind isBlind_peek fun token => ?_
      split
      · exact isBlind_pure _
      · refine isBlind_bind isBlind_take fun _ => isBlind_bind (isBlind_escape _) fun item => ?_
        exact isBlind_sequence fuel verbose first _
      · refine isBlind_ite (isBlind_pure _) (isBlind_get (fun _ => rfl) fun r => ?_)
        refine isBlind_bind isBlind_take fun _ => ?_
        repeat' refine isBlind_ite ?_ ?_
        · exact isBlind_sequence fuel verbose first _
        · refine isBlind_get (fun _ => rfl) fun r => isBlind_bind (isBlind_line _) fun _ => ?_
          exact isBlind_sequence fuel verbose first _
        · exact isBlind_bind isBlind_set fun item => isBlind_sequence fuel verbose first _
        · refine isBlind_bind (isBlind_counts _) fun count => ?_
          cases count with
          | none => exact isBlind_sequence fuel verbose first _
          | some count =>
              refine isBlind_bind (isBlind_repeatLast _ _ _) fun done => ?_
              exact isBlind_sequence fuel verbose first _
        · exact isBlind_sequence fuel verbose first _
        · exact isBlind_sequence fuel verbose first _
        · exact isBlind_sequence fuel verbose first _
        · refine isBlind_bind (isBlind_skip _) fun extended => ?_
          extract_lets group
          have inside (opening : Opening) : IsBlind (group opening) := by
            cases opening with
            | comment => exact isBlind_sequence fuel verbose first _
            | reference group => exact isBlind_sequence fuel verbose first _
            | global =>
                refine isBlind_ite (isBlind_throw _) (isBlind_get (fun _ => rfl) fun r => ?_)
                exact isBlind_sequence fuel _ first _
            | look behind negated =>
                refine isBlind_get (fun _ => rfl) fun around => ?_
                extract_lets outside opened
                have body (entered : PUnit) : IsBlind (opened entered) := by
                  refine isBlind_bind (isBlind_alternatives fuel verbose false) fun body => ?_
                  extract_lets item closed
                  have after (left : PUnit) : IsBlind (closed left) :=
                    isBlind_bind (isBlind_close _) fun _ => isBlind_sequence fuel verbose first _
                  exact isBlind_ite (isBlind_bind (isBlind_modify fun _ => rfl) after) (after ⟨⟩)
                exact isBlind_ite (isBlind_bind (isBlind_modify fun _ => rfl) body) (body ⟨⟩)
            | condition number =>
                refine isBlind_bind (isBlind_sequence fuel verbose false []) fun positive => ?_
                refine isBlind_bind (isBlind_skip _) fun further => ?_
                extract_lets closed
                have after (negative : Option (List Item)) : IsBlind (closed negative) :=
                  isBlind_bind (isBlind_close _) fun _ => isBlind_sequence fuel verbose first _
                refine isBlind_ite ?_ (isBlind_bind (isBlind_pure _) after)
                refine isBlind_bind (isBlind_sequence fuel verbose false []) fun items => ?_
                refine isBlind_bind isBlind_peek fun next => ?_
                exact isBlind_ite (isBlind_bind (isBlind_refuse _ _) fun _ => isBlind_bind (isBlind_pure _) after)
                  (isBlind_bind (isBlind_pure _) after)
            | plain kept atomic added removed =>
                dsimp -zeta only [group]
                extract_lets inner grouped
                have body (number : Option Nat) : IsBlind (grouped number) := by
                  refine isBlind_bind (isBlind_alternatives fuel _ false) fun body => ?_
                  refine isBlind_bind (isBlind_close _) fun _ => ?_
                  cases number with
                  | none => exact isBlind_sequence fuel verbose first _
                  | some n => exact isBlind_bind (isBlind_closeGroup _ _) fun _ => isBlind_sequence fuel verbose first _
                cases kept with
                | none => exact isBlind_bind (isBlind_pure _) body
                | some groupName =>
                    exact isBlind_bind (isBlind_openGroup _) fun n => isBlind_bind (isBlind_pure _) body
          exact isBlind_ite (isBlind_bind (isBlind_extension _) inside) (isBlind_bind (isBlind_pure _) inside)
        · exact isBlind_sequence fuel verbose first _

end

end Reader

/-! ## Whole patterns -/

/-- The same pattern, with letters that differ in case only taken for the same. -/
def Parsed.blind (parsed : Parsed) : Parsed :=
  { parsed with options := parsed.options.blind }

theorem readWhole_run_blind (fuel : Nat) (r : Reading) :
    (readWhole fuel).run r.blind =
      ((readWhole fuel).run r).map fun after => (after.1.blind, after.2.blind) := by
  simp only [readWhole, StateT.run_bind, StateT.run_get, pure_bind]
  change (Reader.moveTo r.rest r.position).run r.blind >>= (fun opened =>
    (Reader.alternatives fuel r.options.verbose true).run opened.2 >>= _) = _
  rw [Reader.isBlind_moveTo r.rest r.position r]
  cases (Reader.moveTo r.rest r.position).run r with
  | error p => rfl
  | ok opened =>
      change (Reader.alternatives fuel r.options.verbose true).run opened.2.blind >>= _ =
        Except.map _ ((Reader.alternatives fuel r.options.verbose true).run opened.2 >>= _)
      rw [Reader.isBlind_alternatives fuel r.options.verbose true opened.2]
      cases (Reader.alternatives fuel r.options.verbose true).run opened.2 with
      | error p => rfl
      | ok read =>
          obtain ⟨items, done⟩ := read
          change StateT.run (if (done.options.ascii && done.options.unicode) = true then _ else
              Reader.peek >>= fun next => _) done.blind =
            Except.map _ (StateT.run (if (done.options.ascii && done.options.unicode) = true then _ else
              Reader.peek >>= fun next => _) done)
          by_cases mixed : (done.options.ascii && done.options.unicode) = true
          · rw [if_pos mixed, if_pos mixed]
            rfl
          · rw [if_neg mixed, if_neg mixed, StateT.run_bind, StateT.run_bind, Reader.isBlind_peek done]
            cases Reader.peek.run done with
            | error p => rfl
            | ok peeked =>
                obtain ⟨next, after⟩ := peeked
                cases next with
                | some t => rfl
                | none =>
                    simp only [bind, Except.bind, Except.map, Option.isSome_none, Bool.false_eq_true, if_false]
                    have missing : done.blind.conditions.find? (fun entry => done.blind.widths.length ≤ entry.1) =
                      done.conditions.find? (fun entry => done.widths.length ≤ entry.1) := rfl
                    rw [missing]
                    cases done.conditions.find? fun entry => done.widths.length ≤ entry.1 with
                    | some entry => rfl
                    | none => rfl

theorem parse_blind (options : Options) (chars : List Char) :
    parse options.blind chars = (parse options chars).map Parsed.blind := by
  have whole := readWhole_run_blind (4 * chars.length + 8) ⟨chars, 0, options, [], [none], none, []⟩
  unfold parse
  rw [show (⟨chars, 0, options.blind, [], [none], none, []⟩ : Reading) =
    Reading.blind ⟨chars, 0, options, [], [none], none, []⟩ from rfl, whole]
  cases (readWhole (4 * chars.length + 8)).run ⟨chars, 0, options, [], [none], none, []⟩ with
  | error p => rfl
  | ok after => rfl

/-- Whether a pattern can be used, and why not, does not depend on whether the case of letters counts. -/
theorem compile_blind (options : Options) (pattern : String) :
    compile options.blind pattern = (compile options pattern).map Parsed.blind := by
  unfold compile
  rw [parse_blind]
  cases parse options pattern.toList with
  | error p => rfl
  | ok parsed =>
      change (if anyLooksFreely parsed.widths parsed.items then _ else _) = _
      dsimp only
      by_cases free : anyLooksFreely parsed.widths parsed.items
      · rw [if_pos free, if_pos free]
        rfl
      · rw [if_neg free, if_neg free]
        rfl

end WorkflowEngine.Pattern
