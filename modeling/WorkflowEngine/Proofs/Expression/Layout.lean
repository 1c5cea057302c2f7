import WorkflowEngine.Expression.Parser

/-!
# Expressions stay on their line

The layout of a text is told by tokens of its own: the ends of lines, and the beginnings and ends of blocks.
Whatever is read as an expression is the front of the tokens and holds none of these.
-/

namespace WorkflowEngine.Expression

/-- A token that tells about the layout of the text. -/
def Token.isLayout : Token → Bool
  | .newline => true
  | .indent => true
  | .dedent => true
  | _ => false

/-- Tokens that are equal have the same part in the layout. -/
theorem Token.isLayout_of_beq {t u : Token} (same : (t == u) = true) : t.isLayout = u.isLayout := by
  cases t <;> cases u <;> first | rfl | exact absurd same Bool.false_ne_true

/-- The first list is the second behind tokens that do not tell about the layout. -/
def ReachesInLine (ts rest : List Token) : Prop :=
  ∃ taken, ts = taken ++ rest ∧ ∀ t ∈ taken, t.isLayout = false

namespace ReachesInLine

variable {ts us rest : List Token} {t : Token}

theorem refl (ts : List Token) : ReachesInLine ts ts :=
  ⟨[], rfl, fun _ listed => absurd listed List.not_mem_nil⟩

theorem trans (first : ReachesInLine ts us) (second : ReachesInLine us rest) : ReachesInLine ts rest := by
  obtain ⟨taken, rfl, plain⟩ := first
  obtain ⟨further, rfl, plain'⟩ := second
  refine ⟨taken ++ further, (List.append_assoc _ _ _).symm, fun t listed => ?_⟩
  rcases List.mem_append.mp listed with early | late
  · exact plain t early
  · exact plain' t late

theorem cons (plain : t.isLayout = false) (further : ReachesInLine ts rest) : ReachesInLine (t :: ts) rest :=
  trans ⟨[t], rfl, fun _ listed => List.mem_singleton.mp listed ▸ plain⟩ further

end ReachesInLine

namespace Parser

variable {α β : Type}

/-- From the given tokens on, the parser takes nothing but tokens of one line. -/
def StaysFrom (ts : List Token) (p : Parser α) : Prop :=
  ∀ a rest, p.run ts = some (a, rest) → ReachesInLine ts rest

/-- The parser takes nothing but tokens of one line. -/
def StaysInLine (p : Parser α) : Prop :=
  ∀ ts, StaysFrom ts p

variable {ts : List Token} {p q : Parser α} {f : α → Parser β}

/-! ## Steps -/

theorem stays_pure (a : α) : StaysInLine (pure a : Parser α) := by
  rintro ts _ _ ⟨⟩
  exact .refl ts

theorem stays_failure : StaysInLine (failure : Parser α) := by
  rintro ts _ _ ⟨⟩

/-- A sequence that succeeds is made of two parts that succeed. -/
theorem run_bind_eq_some {b : β} {rest : List Token} (ran : (p >>= f).run ts = some (b, rest)) :
    ∃ a us, p.run ts = some (a, us) ∧ (f a).run us = some (b, rest) := by
  rw [StateT.run_bind] at ran
  obtain ⟨⟨a, us⟩, first, second⟩ := Option.bind_eq_some_iff.mp ran
  exact ⟨a, us, first, second⟩

theorem StaysFrom.bind (first : StaysFrom ts p) (second : ∀ a, StaysInLine (f a)) : StaysFrom ts (p >>= f) := by
  intro b rest ran
  obtain ⟨a, us, ran₁, ran₂⟩ := run_bind_eq_some ran
  exact (first a us ran₁).trans (second a us b rest ran₂)

theorem stays_bind (first : StaysInLine p) (second : ∀ a, StaysInLine (f a)) : StaysInLine (p >>= f) :=
  fun ts => (first ts).bind second

theorem stays_ite {c : Prop} [Decidable c] (yes : StaysInLine p) (no : StaysInLine q) :
    StaysInLine (if c then p else q) := by
  split
  · exact yes
  · exact no

theorem stays_get {f : List Token → Parser α} (from_ : ∀ ts, StaysFrom ts (f ts)) : StaysInLine (get >>= f) :=
  fun ts => from_ ts

theorem StaysFrom.ofSet {us : List Token} {f : PUnit → Parser α} (reached : ReachesInLine ts us)
    (further : StaysFrom us (f ⟨⟩)) : StaysFrom ts (set us >>= f) :=
  fun a rest ran => reached.trans (further a rest ran)

/-- Wherever the parser begins, it ends in the line of the given tokens. -/
def ResumesFrom (after : List Token) (p : Parser α) : Prop :=
  ∀ ts a rest, p.run ts = some (a, rest) → ReachesInLine after rest

theorem resumes_bind {after : List Token} (second : ∀ a, ResumesFrom after (f a)) : ResumesFrom after (p >>= f) := by
  intro ts b rest ran
  obtain ⟨a, us, -, ran⟩ := run_bind_eq_some ran
  exact second a us b rest ran

/-- What is read on the side stays in a line if the reader goes on where it has been. -/
theorem stays_aside {f : List Token → Parser α} (each : ∀ after, ResumesFrom after (f after)) :
    StaysInLine (get >>= f) :=
  stays_get fun after a rest ran => each after after a rest ran

theorem resumes_set {after : List Token} {f : PUnit → Parser α} (further : StaysFrom after (f ⟨⟩)) :
    ResumesFrom after (set after >>= f) :=
  fun _ a rest ran => further a rest ran

/-- Only tokens that are not about the layout are taken further. -/
theorem stays_next {f : Token → Parser α} (refused : ∀ t, t.isLayout = true → f t = failure)
    (further : ∀ t, StaysInLine (f t)) : StaysInLine (next >>= f) := by
  intro ts a rest ran
  cases ts with
  | nil => cases ran
  | cons t ts =>
      change (f t).run ts = some (a, rest) at ran
      cases mark : t.isLayout with
      | false => exact (further t ts a rest ran).cons mark
      | true =>
          rw [refused t mark] at ran
          cases ran

theorem stays_peek : StaysInLine peek :=
  stays_get fun ts => stays_pure _ ts

theorem stays_at? (t : Token) : StaysInLine (at? t) :=
  stays_bind stays_peek fun _ => stays_pure _

theorem stays_atSymbol (text : String) : StaysInLine (atSymbol text) :=
  stays_at? _

theorem stays_atKeyword (text : String) : StaysInLine (atKeyword text) :=
  stays_at? _

theorem stays_expect {t : Token} (plain : t.isLayout = false) : StaysInLine (expect t) := by
  refine stays_next (fun u mark => if_neg fun same => ?_) fun u => stays_ite (stays_pure _) stays_failure
  rw [Token.isLayout_of_beq same, plain] at mark
  cases mark

theorem stays_symbol (text : String) : StaysInLine (symbol text) :=
  stays_expect rfl

theorem stays_keyword (text : String) : StaysInLine (keyword text) :=
  stays_expect rfl

theorem stays_name : StaysInLine name := by
  refine stays_next (fun t mark => ?_) fun t => ?_
  · cases t <;> first | rfl | cases mark
  · split
    · exact stays_pure _
    · exact stays_failure

/-- Whether a token is taken if it comes next. -/
theorem run_skip (t : Token) (ts : List Token) :
    (skip t).run ts =
      match ts with
      | [] => some (false, [])
      | u :: us => if u == t then some (true, us) else some (false, u :: us) := by
  cases ts with
  | nil => rfl
  | cons u us =>
      change StateT.run (if (u == t) = true then _ else _) (u :: us) = if (u == t) = true then _ else _
      split
      · rfl
      · rfl

theorem stays_skip {t : Token} (plain : t.isLayout = false) : StaysInLine (skip t) := by
  intro ts a rest ran
  rw [run_skip] at ran
  split at ran
  · cases ran
    exact .refl _
  · split at ran
    · rename_i same
      cases ran
      exact (ReachesInLine.refl _).cons ((Token.isLayout_of_beq same).trans plain)
    · cases ran
      exact .refl _

/-! ## Repetitions -/

/-- What may be absent takes nothing if it is. -/
theorem run_optional (p : Parser α) (ts : List Token) :
    (optional p).run ts = ((p.run ts).map fun found => (some found.1, found.2)).or (some (none, ts)) := by
  change (((some <$> p).run ts).orElse fun _ => (pure none : Parser (Option α)).run ts) = _
  rw [StateT.run_map]
  cases p.run ts with
  | none => rfl
  | some found => rfl

theorem stays_optional (stays : StaysInLine p) : StaysInLine (optional p) := by
  intro ts a rest ran
  rw [run_optional] at ran
  cases found : p.run ts with
  | none =>
      rw [found] at ran
      cases ran
      exact .refl ts
  | some taken =>
      rw [found] at ran
      cases ran
      exact stays ts _ _ found

theorem stays_manyFrom (stays : StaysInLine p) (fuel : Nat) (done : List α) :
    StaysInLine (manyFrom p fuel done) := by
  induction fuel generalizing done with
  | zero => exact stays_pure _
  | succ fuel ih =>
      refine stays_bind (stays_optional stays) fun found => ?_
      cases found with
      | none => exact stays_pure _
      | some x => exact ih _

theorem stays_many (stays : StaysInLine p) : StaysInLine (many p) :=
  stays_get fun ts => stays_manyFrom stays _ _ ts

theorem stays_commaSeparated (stays : StaysInLine p) : StaysInLine (commaSeparated p) := by
  refine stays_bind stays fun first => ?_
  refine stays_bind (stays_many (stays_bind (stays_symbol _) fun _ => stays)) fun rest => stays_pure _

theorem stays_commaEnded (stays : StaysInLine p) : StaysInLine (commaEnded p) := by
  refine stays_bind (stays_commaSeparated stays) fun items => ?_
  exact stays_bind (stays_skip rfl) fun _ => stays_pure _

theorem stays_itemOrTuple {p : Parser Tree} (stays : StaysInLine p) : StaysInLine (itemOrTuple p) := by
  refine stays_bind (stays_commaEnded stays) fun found => ?_
  split <;> exact stays_pure _

theorem stays_mapM {γ : Type} {f : γ → Parser α} (stays : ∀ c, StaysInLine (f c)) (cs : List γ) :
    StaysInLine (cs.mapM f) := by
  induction cs with
  | nil =>
      rw [List.mapM_nil]
      exact stays_pure _
  | cons c cs ih =>
      rw [List.mapM_cons]
      exact stays_bind (stays c) fun _ => stays_bind ih fun _ => stays_pure _

/-! ## Operators -/

theorem stays_operatorOf (level : List (String × BinaryOperator)) : StaysInLine (operatorOf level) := by
  refine stays_next (fun t mark => ?_) fun t => ?_
  · cases t <;> first | rfl | cases mark
  · split
    · split
      · exact stays_pure _
      · exact stays_failure
    · exact stays_failure

theorem stays_link : StaysInLine link := by
  refine stays_next (fun t mark => ?_) fun t => ?_
  · cases t <;> first | rfl | cases mark
  · split
    case h_8 => exact stays_bind (stays_keyword _) fun _ => stays_pure _
    case h_9 => exact stays_bind (stays_skip rfl) fun _ => stays_ite (stays_pure _) (stays_pure _)
    all_goals first | exact stays_pure _ | exact stays_failure

/-! ## Expressions -/

/-- With some fuel, all readers of the parts of expressions stay in a line. -/
structure StaysAt (n : Nat) : Prop where
  expression : StaysInLine (Parser.expression n)
  lambda : StaysInLine (Parser.lambda n)
  parameters (annotated : Bool) (seen : Parameters) : StaysInLine (Parser.parameters n annotated seen)
  parameter (annotated starred : Bool) : StaysInLine (Parser.parameter n annotated starred)
  disjunction : StaysInLine (Parser.disjunction n)
  conjunction : StaysInLine (Parser.conjunction n)
  inversion : StaysInLine (Parser.inversion n)
  binary (levels : List (List (String × BinaryOperator))) : StaysInLine (Parser.binary n levels)
  factor : StaysInLine (Parser.factor n)
  awaited : StaysInLine (Parser.awaited n)
  primary : StaysInLine (Parser.primary n)
  trailers (owner : Tree) : StaysInLine (Parser.trailers n owner)
  subscripts : StaysInLine (Parser.subscripts n)
  subscriptItem : StaysInLine (Parser.subscriptItem n)
  range (lower : Tree) : StaysInLine (Parser.range n lower)
  arguments (callee : Tree) : StaysInLine (Parser.arguments n callee)
  argumentList (callee : Tree) (done : List Tree) (names : List (Option String)) (named : List Tree)
    (spread : Bool) : StaysInLine (Parser.argumentList n callee done names named spread)
  atom : StaysInLine (Parser.atom n)
  literals (contents : List Literal) : StaysInLine (Parser.literals n contents)
  piece (part : Piece) : StaysInLine (Parser.piece n part)
  group : StaysInLine (Parser.group n)
  listDisplay : StaysInLine (Parser.listDisplay n)
  braces : StaysInLine (Parser.braces n)
  entries : StaysInLine (Parser.entries n)
  entry : StaysInLine (Parser.entry n)
  namedExpression : StaysInLine (Parser.namedExpression n)
  starNamed : StaysInLine (Parser.starNamed n)
  starExpression : StaysInLine (Parser.starExpression n)
  starExpressions : StaysInLine (Parser.starExpressions n)
  yielding : StaysInLine (Parser.yielding n)
  clauses : StaysInLine (Parser.clauses n)
  clause : StaysInLine (Parser.clause n)
  targets : StaysInLine (Parser.targets n)
  targetTree : StaysInLine (Parser.targetTree n)

section Step

variable {n : Nat} (below : StaysAt n)
include below

theorem stays_expression_succ : StaysInLine (expression (n + 1)) := by
  unfold expression
  refine stays_bind (stays_atKeyword _) fun anonymous => stays_ite below.lambda ?_
  refine stays_bind below.disjunction fun value => ?_
  refine stays_bind (stays_skip rfl) fun chosen => stays_ite ?_ (stays_pure _)
  refine stays_bind below.disjunction fun test => stays_bind (stays_keyword _) fun _ => ?_
  exact stays_bind below.expression fun other => stays_pure _

theorem stays_lambda_succ : StaysInLine (lambda (n + 1)) := by
  unfold lambda
  refine stays_bind (stays_keyword _) fun _ => stays_bind (stays_atSymbol _) fun bare => ?_
  extract_lets body
  have inside (listed : PUnit) : StaysInLine (body listed) :=
    stays_bind (stays_symbol _) fun _ => stays_bind below.expression fun _ => stays_pure _
  exact stays_ite (inside ⟨⟩) (stays_bind (below.parameters false .none) inside)

theorem stays_parameters_succ (annotated : Bool) (seen : Parameters) :
    StaysInLine (parameters (n + 1) annotated seen) := by
  unfold parameters
  extract_lets finish collect spread listed
  have last (seen : Parameters) : StaysInLine (finish seen) := by
    refine stays_bind (stays_skip rfl) fun further => stays_ite ?_ (stays_ite stays_failure (stays_pure _))
    refine stays_bind stays_peek fun token => ?_
    split
    · exact stays_ite stays_failure (stays_pure _)
    · exact stays_ite stays_failure (stays_pure _)
    · exact below.parameters annotated seen
  have collected (allowed : PUnit) : StaysInLine (collect allowed) :=
    stays_bind (below.parameter annotated false) fun _ => stays_bind (stays_pure _) last
  have starred (allowed : PUnit) : StaysInLine (spread allowed) := by
    refine stays_bind stays_peek fun token => ?_
    split
    · exact stays_bind (below.parameter annotated true) fun _ => stays_bind (stays_pure _) last
    · exact stays_bind (stays_pure _) last
  have inside (allowed : PUnit) : StaysInLine (listed allowed) := by
    refine stays_bind (stays_skip rfl) fun slash => ?_
    refine stays_ite (stays_ite (stays_bind stays_failure last) (stays_bind (stays_pure _) last)) ?_
    refine stays_bind (stays_skip rfl) fun double => ?_
    refine stays_ite (stays_ite (stays_bind stays_failure collected) (collected ⟨⟩)) ?_
    refine stays_bind (stays_skip rfl) fun star => ?_
    refine stays_ite (stays_ite (stays_bind stays_failure starred) (starred ⟨⟩)) ?_
    refine stays_bind (below.parameter annotated false) fun _ => ?_
    refine stays_bind (stays_skip rfl) fun preset => stays_ite ?_ ?_
    · exact stays_bind below.expression fun _ => stays_bind (stays_pure _) last
    · exact stays_ite (stays_bind stays_failure last) (stays_bind (stays_pure _) last)
  exact stays_ite (stays_bind stays_failure inside) (inside ⟨⟩)

theorem stays_parameter_succ (annotated starred : Bool) : StaysInLine (parameter (n + 1) annotated starred) := by
  unfold parameter
  refine stays_bind stays_name fun _ => stays_ite ?_ (stays_pure _)
  refine stays_bind (stays_skip rfl) fun noted => stays_ite ?_ (stays_pure _)
  refine stays_ite (stays_bind below.starExpression fun _ => stays_pure _) ?_
  exact stays_bind below.expression fun _ => stays_pure _

theorem stays_disjunction_succ : StaysInLine (disjunction (n + 1)) := by
  unfold disjunction
  refine stays_bind below.conjunction fun first => ?_
  refine stays_bind (stays_many (stays_bind (stays_keyword _) fun _ => below.conjunction)) fun rest => ?_
  split <;> exact stays_pure _

theorem stays_conjunction_succ : StaysInLine (conjunction (n + 1)) := by
  unfold conjunction
  refine stays_bind below.inversion fun first => ?_
  refine stays_bind (stays_many (stays_bind (stays_keyword _) fun _ => below.inversion)) fun rest => ?_
  split <;> exact stays_pure _

theorem stays_inversion_succ : StaysInLine (inversion (n + 1)) := by
  unfold inversion
  refine stays_bind (stays_skip rfl) fun negated => ?_
  refine stays_ite (stays_bind below.inversion fun _ => stays_pure _) ?_
  refine stays_bind (below.binary levels) fun first => ?_
  have operand (l : Link) : StaysInLine (do return (l, ← binary n levels)) :=
    stays_bind (below.binary levels) fun _ => stays_pure _
  refine stays_bind (stays_many (stays_bind stays_link operand)) fun rest => ?_
  split <;> exact stays_pure _

theorem stays_binary_succ (levels : List (List (String × BinaryOperator))) : StaysInLine (binary (n + 1) levels) := by
  cases levels with
  | nil => exact below.factor
  | cons level tighter =>
      unfold binary
      refine stays_bind (below.binary tighter) fun first => ?_
      have operand (o : BinaryOperator) : StaysInLine (do return (o, ← binary n tighter)) :=
        stays_bind (below.binary tighter) fun _ => stays_pure _
      exact stays_bind (stays_many (stays_bind (stays_operatorOf level) operand)) fun rest => stays_pure _

theorem stays_factor_succ : StaysInLine (factor (n + 1)) := by
  unfold factor
  have signed (sign : UnaryOperator) : StaysInLine (do return Tree.unary sign (← factor n)) :=
    stays_bind below.factor fun _ => stays_pure _
  refine stays_bind (stays_skip rfl) fun minus => stays_ite (signed _) ?_
  refine stays_bind (stays_skip rfl) fun plus => stays_ite (signed _) ?_
  refine stays_bind (stays_skip rfl) fun complement => stays_ite (signed _) ?_
  refine stays_bind below.awaited fun base => stays_bind (stays_skip rfl) fun raised => ?_
  exact stays_ite (stays_bind below.factor fun _ => stays_pure _) (stays_pure _)

theorem stays_awaited_succ : StaysInLine (awaited (n + 1)) := by
  unfold awaited
  refine stays_bind (stays_skip rfl) fun awaiting => ?_
  exact stays_ite (stays_bind below.primary fun _ => stays_pure _) below.primary

theorem stays_primary_succ : StaysInLine (primary (n + 1)) := by
  unfold primary
  exact stays_bind below.atom fun first => below.trailers first

theorem stays_trailers_succ (owner : Tree) : StaysInLine (trailers (n + 1) owner) := by
  unfold trailers
  refine stays_bind (stays_skip rfl) fun member => ?_
  refine stays_ite (stays_bind stays_name fun _ => below.trailers _) ?_
  refine stays_bind (stays_skip rfl) fun selected => stays_ite ?_ ?_
  · refine stays_bind below.subscripts fun index => stays_bind (stays_symbol _) fun _ => ?_
    exact below.trailers _
  · refine stays_bind (stays_skip rfl) fun called => ?_
    exact stays_ite (stays_bind (below.arguments owner) fun call => below.trailers call) (stays_pure _)

theorem stays_subscripts_succ : StaysInLine (subscripts (n + 1)) := by
  unfold subscripts
  refine stays_bind (stays_commaEnded below.subscriptItem) fun found => ?_
  split <;> exact stays_pure _

theorem stays_subscriptItem_succ : StaysInLine (subscriptItem (n + 1)) := by
  unfold subscriptItem
  refine stays_bind (stays_skip rfl) fun spread => ?_
  refine stays_ite (stays_bind below.expression fun _ => stays_pure _) ?_
  refine stays_bind (stays_atSymbol _) fun open_ => stays_ite (below.range .absent) ?_
  refine stays_bind below.namedExpression fun item => ?_
  refine stays_bind (stays_atSymbol _) fun ranged => stays_ite ?_ (stays_pure _)
  split
  · exact stays_failure
  · exact below.range item

theorem stays_range_succ (lower : Tree) : StaysInLine (range (n + 1) lower) := by
  unfold range
  refine stays_bind (stays_symbol _) fun _ => ?_
  refine stays_bind (stays_optional below.expression) fun upper => ?_
  refine stays_bind (stays_skip rfl) fun stepped => stays_ite ?_ (stays_pure _)
  exact stays_bind (stays_optional below.expression) fun step => stays_pure _

theorem stays_arguments_succ (callee : Tree) : StaysInLine (arguments (n + 1) callee) := by
  unfold arguments
  refine stays_bind (stays_skip rfl) fun none => ?_
  exact stays_ite (stays_pure _) (below.argumentList callee [] [] [] false)

theorem stays_argumentList_succ (callee : Tree) (done : List Tree) (names : List (Option String)) (named : List Tree) (spread : Bool) :
    StaysInLine (argumentList (n + 1) callee done names named spread) := by
  unfold argumentList
  refine stays_get fun ts => ?_
  extract_lets finish
  have last (found : List Tree × List (Option String) × List Tree × Bool) : StaysInLine (finish found) := by
    obtain ⟨done, names, named, spread⟩ := found
    refine stays_bind (stays_skip rfl) fun closed => stays_ite (stays_pure _) ?_
    refine stays_bind (stays_symbol _) fun _ => stays_bind (stays_skip rfl) fun closed => ?_
    exact stays_ite (stays_pure _) (below.argumentList callee done names named spread)
  split
  · refine .ofSet ((ReachesInLine.refl _).cons rfl) (stays_bind below.expression (fun item => ?_) _)
    exact stays_ite (stays_bind stays_failure last) (stays_bind (stays_pure _) last)
  · refine .ofSet ((ReachesInLine.refl _).cons rfl) (stays_bind below.expression (fun item => ?_) _)
    exact stays_bind (stays_pure _) last
  · refine .ofSet (((ReachesInLine.refl _).cons rfl).cons rfl) (stays_bind below.expression (fun item => ?_) _)
    exact stays_bind (stays_pure _) last
  · refine stays_ite ?_ (stays_bind stays_failure last) _
    refine stays_bind below.namedExpression fun item => ?_
    refine stays_bind (stays_atKeyword _) fun for_ => stays_bind (stays_atKeyword _) fun async => ?_
    refine stays_ite ?_ (stays_bind (stays_pure _) last)
    refine stays_bind below.clauses fun clauses => stays_bind (stays_atSymbol _) fun closed => ?_
    have closing : StaysInLine (pure ([.listOf item clauses], names, named, spread) >>= finish) :=
      stays_bind (stays_pure _) last
    exact stays_ite (stays_bind stays_failure fun _ => closing) closing

theorem stays_atom_succ : StaysInLine (atom (n + 1)) := by
  unfold atom
  refine stays_next (fun t mark => ?_) fun t => ?_
  · cases t <;> first | rfl | cases mark
  · split
    case h_5 =>
      refine stays_bind (stays_many ?_) fun rest => below.literals _
      refine stays_next (fun t mark => ?_) fun t => ?_
      · cases t <;> first | rfl | cases mark
      · split
        · exact stays_pure _
        · exact stays_failure
    case h_10 => exact below.group
    case h_11 => exact below.listDisplay
    case h_12 => exact below.braces
    all_goals first | exact stays_pure _ | exact stays_failure

theorem stays_literals_succ (contents : List Literal) : StaysInLine (literals (n + 1) contents) := by
  unfold literals
  refine stays_ite ?_ ?_
  · split
    · exact stays_failure
    · exact stays_bind (stays_mapM (fun c => below.piece c) _) fun _ => stays_pure _
  · split
    · exact stays_failure
    · exact stays_pure _

theorem stays_piece_succ (part : Piece) : StaysInLine (piece (n + 1) part) := by
  cases part with
  | text chars => exact stays_pure _
  | hole chars layout =>
      unfold piece
      split
      · exact stays_failure
      · refine stays_aside fun after => ?_
        refine resumes_bind fun _ => resumes_bind fun value => resumes_bind fun _ => resumes_bind fun next => ?_
        extract_lets finish
        have last (ended : PUnit) : ResumesFrom after (finish ended) := by
          refine resumes_set ?_
          cases layout with
          | none => exact stays_pure _ after
          | some pieces => exact stays_bind (stays_mapM below.piece _) (fun _ => stays_pure _) after
        split
        · exact resumes_bind last
        · exact last ⟨⟩

theorem stays_group_succ : StaysInLine (group (n + 1)) := by
  unfold group
  refine stays_bind (stays_skip rfl) fun empty => stays_ite (stays_pure _) ?_
  refine stays_bind (stays_atKeyword _) fun yields => stays_ite ?_ ?_
  · refine stays_bind below.yielding fun tree => stays_bind (stays_symbol _) fun _ => stays_pure _
  · refine stays_bind below.starNamed fun first => ?_
    refine stays_bind (stays_atKeyword _) fun for_ => stays_bind (stays_atKeyword _) fun async => ?_
    refine stays_ite ?_ ?_
    · split
      · exact stays_failure
      · exact stays_bind below.clauses fun _ => stays_bind (stays_symbol _) fun _ => stays_pure _
    · refine stays_bind (stays_skip rfl) fun further => stays_ite ?_ ?_
      · refine stays_bind (stays_optional (stays_commaEnded below.starNamed)) fun rest => ?_
        exact stays_bind (stays_symbol _) fun _ => stays_pure _
      · refine stays_bind (stays_symbol _) fun _ => ?_
        split
        · exact stays_failure
        · exact stays_pure _

theorem stays_listDisplay_succ : StaysInLine (listDisplay (n + 1)) := by
  unfold listDisplay
  refine stays_bind (stays_skip rfl) fun empty => stays_ite (stays_pure _) ?_
  refine stays_bind below.starNamed fun first => ?_
  refine stays_bind (stays_atKeyword _) fun for_ => stays_bind (stays_atKeyword _) fun async => ?_
  refine stays_ite ?_ ?_
  · split
    · exact stays_failure
    · exact stays_bind below.clauses fun _ => stays_bind (stays_symbol _) fun _ => stays_pure _
  · refine stays_bind (stays_many (stays_bind (stays_symbol _) fun _ => below.starNamed)) fun rest => ?_
    exact stays_bind (stays_skip rfl) fun _ => stays_bind (stays_symbol _) fun _ => stays_pure _

theorem stays_braces_succ : StaysInLine (braces (n + 1)) := by
  unfold braces
  refine stays_bind (stays_skip rfl) fun empty => stays_ite (stays_pure _) ?_
  refine stays_bind (stays_atSymbol _) fun spread => stays_ite below.entries ?_
  refine stays_bind below.starNamed fun first => stays_bind (stays_skip rfl) fun paired => ?_
  refine stays_ite ?_ ?_
  · split
    · exact stays_failure
    · exact stays_failure
    · refine stays_bind below.expression fun value => ?_
      refine stays_bind (stays_atKeyword _) fun for_ => stays_bind (stays_atKeyword _) fun async => ?_
      refine stays_ite ?_ ?_
      · exact stays_bind below.clauses fun _ => stays_bind (stays_symbol _) fun _ => stays_pure _
      · refine stays_bind (stays_many (stays_bind (stays_symbol _) fun _ => below.entry)) fun rest => ?_
        exact stays_bind (stays_skip rfl) fun _ => stays_bind (stays_symbol _) fun _ => stays_pure _
  · refine stays_bind (stays_atKeyword _) fun for_ => stays_bind (stays_atKeyword _) fun async => ?_
    refine stays_ite ?_ ?_
    · split
      · exact stays_failure
      · exact stays_bind below.clauses fun _ => stays_bind (stays_symbol _) fun _ => stays_pure _
    · refine stays_bind (stays_many (stays_bind (stays_symbol _) fun _ => below.starNamed)) fun rest => ?_
      exact stays_bind (stays_skip rfl) fun _ => stays_bind (stays_symbol _) fun _ => stays_pure _

theorem stays_entries_succ : StaysInLine (entries (n + 1)) := by
  unfold entries
  refine stays_bind (stays_commaEnded below.entry) fun found => ?_
  exact stays_bind (stays_symbol _) fun _ => stays_pure _

theorem stays_entry_succ : StaysInLine (entry (n + 1)) := by
  unfold entry
  refine stays_bind (stays_skip rfl) fun spread => ?_
  refine stays_ite (stays_bind (below.binary levels) fun _ => stays_pure _) ?_
  refine stays_bind below.expression fun key => stays_bind (stays_symbol _) fun _ => ?_
  exact stays_bind below.expression fun value => stays_pure _

theorem stays_namedExpression_succ : StaysInLine (namedExpression (n + 1)) := by
  unfold namedExpression
  refine stays_get fun ts => ?_
  split
  · rename_i text rest
    refine .ofSet (((ReachesInLine.refl rest).cons rfl).cons rfl) ?_
    exact stays_bind below.expression (fun _ => stays_pure _) rest
  · refine stays_bind below.expression (fun value => ?_) _
    exact stays_bind (stays_atSymbol _) fun _ => stays_ite stays_failure (stays_pure _)

theorem stays_starNamed_succ : StaysInLine (starNamed (n + 1)) := by
  unfold starNamed
  refine stays_bind (stays_skip rfl) fun spread => ?_
  exact stays_ite (stays_bind (below.binary levels) fun _ => stays_pure _) below.namedExpression

theorem stays_starExpression_succ : StaysInLine (starExpression (n + 1)) := by
  unfold starExpression
  refine stays_bind (stays_skip rfl) fun spread => ?_
  exact stays_ite (stays_bind (below.binary levels) fun _ => stays_pure _) below.expression

theorem stays_starExpressions_succ : StaysInLine (starExpressions (n + 1)) := by
  exact stays_itemOrTuple below.starExpression

theorem stays_yielding_succ : StaysInLine (yielding (n + 1)) := by
  unfold yielding
  refine stays_bind (stays_keyword _) fun _ => stays_bind (stays_skip rfl) fun from_ => ?_
  refine stays_ite (stays_bind below.expression fun _ => stays_pure _) ?_
  exact stays_bind (stays_optional below.starExpressions) fun _ => stays_pure _

theorem stays_clauses_succ : StaysInLine (clauses (n + 1)) := by
  unfold clauses
  exact stays_bind below.clause fun first => stays_bind (stays_many below.clause) fun rest => stays_pure _

theorem stays_clause_succ : StaysInLine (clause (n + 1)) := by
  unfold clause
  refine stays_bind (stays_skip rfl) fun _ => stays_bind (stays_keyword _) fun _ => ?_
  refine stays_bind below.targets fun target => stays_bind (stays_keyword _) fun _ => ?_
  refine stays_bind below.disjunction fun source => ?_
  refine stays_bind (stays_many (stays_bind (stays_keyword _) fun _ => below.disjunction)) fun tests => ?_
  exact stays_pure _

theorem stays_targets_succ : StaysInLine (targets (n + 1)) := by
  unfold targets
  refine stays_bind (stays_itemOrTuple below.targetTree) fun tree => ?_
  split
  · exact stays_pure _
  · exact stays_failure

theorem stays_targetTree_succ : StaysInLine (targetTree (n + 1)) := by
  unfold targetTree
  refine stays_bind (stays_skip rfl) fun spread => ?_
  exact stays_ite (stays_bind below.primary fun _ => stays_pure _) below.primary

end Step

/-- Whatever the fuel, all readers of the parts of expressions stay in a line. -/
theorem staysAt (n : Nat) : StaysAt n := by
  induction n with
  | zero => constructor <;> intros <;> exact stays_failure
  | succ n below =>
      exact {
        expression := stays_expression_succ below,
        lambda := stays_lambda_succ below,
        parameters := stays_parameters_succ below,
        parameter := stays_parameter_succ below,
        disjunction := stays_disjunction_succ below,
        conjunction := stays_conjunction_succ below,
        inversion := stays_inversion_succ below,
        binary := stays_binary_succ below,
        factor := stays_factor_succ below,
        awaited := stays_awaited_succ below,
        primary := stays_primary_succ below,
        trailers := stays_trailers_succ below,
        subscripts := stays_subscripts_succ below,
        subscriptItem := stays_subscriptItem_succ below,
        range := stays_range_succ below,
        arguments := stays_arguments_succ below,
        argumentList := stays_argumentList_succ below,
        atom := stays_atom_succ below,
        literals := stays_literals_succ below,
        piece := stays_piece_succ below,
        group := stays_group_succ below,
        listDisplay := stays_listDisplay_succ below,
        braces := stays_braces_succ below,
        entries := stays_entries_succ below,
        entry := stays_entry_succ below,
        namedExpression := stays_namedExpression_succ below,
        starNamed := stays_starNamed_succ below,
        starExpression := stays_starExpression_succ below,
        starExpressions := stays_starExpressions_succ below,
        yielding := stays_yielding_succ below,
        clauses := stays_clauses_succ below,
        clause := stays_clause_succ below,
        targets := stays_targets_succ below,
        targetTree := stays_targetTree_succ below }

end Parser

end WorkflowEngine.Expression
