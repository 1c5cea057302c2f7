import WorkflowEngine.Expression.Evaluation
import WorkflowEngine.Proofs.Expression.Lines

/-!
# Expressions as statements

An expression begins with a token that begins no other statement, and it stays on its line.  So a text that is one
or more expressions is read as a single statement, which has their value.
-/

namespace WorkflowEngine.Expression

/-- A token that an expression may begin with. -/
def Token.opensExpression : Token → Bool
  | .name _ => true
  | .keyword text => ["lambda", "not", "await", "None", "True", "False"].contains text
  | .int _ => true
  | .float _ => true
  | .imaginary _ => true
  | .literal _ => true
  | .symbol text => ["-", "+", "~", "...", "(", "[", "\x7b"].contains text
  | .newline => false
  | .indent => false
  | .dedent => false

/-- Tokens that are equal may begin the same. -/
theorem Token.opensExpression_of_beq {t u : Token} (same : (t == u) = true) :
    t.opensExpression = u.opensExpression := by
  cases t <;> cases u <;> try exact absurd same Bool.false_ne_true
  case keyword.keyword a b => rw [eq_of_beq (show (a == b) = true from same)]
  case symbol.symbol a b => rw [eq_of_beq (show (a == b) = true from same)]
  all_goals rfl

namespace Parser

variable {α β : Type}

/-! ## How expressions begin -/

/-- The parser succeeds only where an expression may begin. -/
def Opens (p : Parser α) : Prop :=
  ∀ ts a rest, p.run ts = some (a, rest) → ∃ t us, ts = t :: us ∧ t.opensExpression = true

variable {p q : Parser α} {f : α → Parser β}

theorem opens_failure : Opens (failure : Parser α) := by
  rintro ts _ _ ⟨⟩

theorem opens_bind (first : Opens p) : Opens (p >>= f) := by
  intro ts b rest ran
  obtain ⟨a, us, ran, -⟩ := run_bind_eq_some ran
  exact first ts a us ran

theorem opens_next {f : Token → Parser α} (refused : ∀ t, t.opensExpression = false → f t = failure) :
    Opens (next >>= f) := by
  intro ts a rest ran
  cases ts with
  | nil => cases ran
  | cons t ts =>
      refine ⟨t, ts, rfl, ?_⟩
      cases mark : t.opensExpression with
      | true => rfl
      | false =>
          change (f t).run ts = some (a, rest) at ran
          rw [refused t mark] at ran
          cases ran

theorem opens_expect {t : Token} (opening : t.opensExpression = true) : Opens (expect t) := by
  refine opens_next fun u mark => if_neg fun same => ?_
  rw [Token.opensExpression_of_beq same, opening] at mark
  cases mark

/-- Looking at the next token leaves it where it is. -/
theorem opens_at? {t : Token} {f : Bool → Parser α} (further : ∀ b, Opens (f b)) : Opens (at? t >>= f) :=
  fun ts a rest ran => further (ts.head? == some t) ts a rest ran

theorem opens_skip {t : Token} {f : Bool → Parser α} (opening : t.opensExpression = true) (further : Opens (f false)) :
    Opens (skip t >>= f) := by
  intro ts a rest ran
  obtain ⟨taken, us, skipped, ran⟩ := run_bind_eq_some ran
  rw [run_skip] at skipped
  split at skipped
  · cases skipped
    exact further [] a rest ran
  · rename_i u us
    split at skipped
    · rename_i same
      exact ⟨u, us, rfl, (Token.opensExpression_of_beq same).trans opening⟩
    · cases skipped
      exact further (u :: us) a rest ran

theorem opens_atom (n : Nat) : Opens (atom n) := by
  cases n with
  | zero => exact opens_failure
  | succ n =>
      unfold atom
      refine opens_next fun t mark => ?_
      split <;> first | rfl | cases mark

theorem opens_primary (n : Nat) : Opens (primary n) := by
  cases n with
  | zero => exact opens_failure
  | succ n =>
      unfold primary
      exact opens_bind (opens_atom n)

theorem opens_awaited (n : Nat) : Opens (awaited n) := by
  cases n with
  | zero => exact opens_failure
  | succ n =>
      unfold awaited
      exact opens_skip rfl (opens_primary n)

theorem opens_factor (n : Nat) : Opens (factor n) := by
  cases n with
  | zero => exact opens_failure
  | succ n =>
      unfold factor
      exact opens_skip rfl (opens_skip rfl (opens_skip rfl (opens_bind (opens_awaited n))))

theorem opens_binary (n : Nat) (levels : List (List (String × BinaryOperator))) : Opens (binary n levels) := by
  induction n generalizing levels with
  | zero => exact opens_failure
  | succ n ih =>
      unfold binary
      cases levels with
      | nil => exact opens_factor n
      | cons level tighter => exact opens_bind (ih tighter)

theorem opens_inversion (n : Nat) : Opens (inversion n) := by
  cases n with
  | zero => exact opens_failure
  | succ n =>
      unfold inversion
      exact opens_skip rfl (opens_bind (opens_binary n levels))

theorem opens_conjunction (n : Nat) : Opens (conjunction n) := by
  cases n with
  | zero => exact opens_failure
  | succ n =>
      unfold conjunction
      exact opens_bind (opens_inversion n)

theorem opens_disjunction (n : Nat) : Opens (disjunction n) := by
  cases n with
  | zero => exact opens_failure
  | succ n =>
      unfold disjunction
      exact opens_bind (opens_conjunction n)

theorem opens_lambda (n : Nat) : Opens (lambda n) := by
  cases n with
  | zero => exact opens_failure
  | succ n =>
      unfold lambda
      exact opens_bind (opens_expect rfl)

theorem opens_expression (n : Nat) : Opens (expression n) := by
  cases n with
  | zero => exact opens_failure
  | succ n =>
      unfold expression
      refine opens_at? fun anonymous => ?_
      cases anonymous with
      | true => exact opens_lambda n
      | false => exact opens_bind (opens_disjunction n)

theorem opens_itemOrTuple {p : Parser Tree} (opens : Opens p) : Opens (itemOrTuple p) :=
  opens_bind (opens_bind (opens_bind opens))

/-! ## Expressions with stars -/

/-- Where an expression without a star can be read, it is read the same where a star is allowed. -/
theorem run_starExpression_of_expression {n : Nat} {ts rest : List Token} {tree : Tree}
    (ran : (expression n).run ts = some (tree, rest)) : (starExpression (n + 1)).run ts = some (tree, rest) := by
  obtain ⟨t, us, rfl, opening⟩ := opens_expression n ts tree rest ran
  have starless : (t == Token.symbol "*") = false := by
    cases same : t == Token.symbol "*" with
    | false => rfl
    | true =>
        rw [Token.opensExpression_of_beq same] at opening
        cases opening
  unfold starExpression
  rw [StateT.run_bind, run_skip]
  dsimp only
  rw [starless]
  exact ran

/-- Nothing is read from the end of a line, nor behind the last token. -/
theorem run_starExpression_of_ends {n : Nat} {ts : List Token} (marks : ∀ t ∈ ts, t = .newline) :
    (starExpression n).run ts = none := by
  cases n with
  | zero => rfl
  | succ n =>
      have stuck : (expression n).run ts = none := by
        cases ran : (expression n).run ts with
        | none => rfl
        | some found =>
            obtain ⟨t, us, rfl, opening⟩ := opens_expression n ts _ _ ran
            rw [marks t List.mem_cons_self] at opening
            cases opening
      unfold starExpression
      rw [StateT.run_bind, run_skip]
      cases ts with
      | nil => exact stuck
      | cons t us =>
          obtain rfl := marks t List.mem_cons_self
          exact stuck

/-- Reading as often as possible gives the same with another reader that agrees where the first one succeeds and
fails where the reading ends. -/
theorem run_manyFrom_congr {fuel : Nat} {done found : List α} {ts rest : List Token}
    (agrees : ∀ ts x us, p.run ts = some (x, us) → q.run ts = some (x, us)) (stuck : q.run rest = none)
    (ran : (manyFrom p fuel done).run ts = some (found, rest)) :
    (manyFrom q fuel done).run ts = some (found, rest) := by
  induction fuel generalizing done ts with
  | zero => exact ran
  | succ fuel ih =>
      obtain ⟨x, us, first, further⟩ := run_bind_eq_some ran
      change (optional q >>= fun x => _).run ts = _
      rw [StateT.run_bind, run_optional]
      rw [run_optional] at first
      cases tried : p.run ts with
      | some taken =>
          obtain ⟨y, vs⟩ := taken
          rw [tried] at first
          cases first
          rw [agrees ts y vs tried]
          exact ih further
      | none =>
          rw [tried] at first
          cases first
          cases further
          rw [stuck]
          rfl

/-- What a sequence comes to behind a first part that succeeds. -/
theorem run_bind_of_run {a : α} {ts us : List Token} (ran : p.run ts = some (a, us)) :
    (p >>= f).run ts = (f a).run us := by
  rw [StateT.run_bind, ran]
  rfl

theorem run_expect (t : Token) (ts : List Token) :
    (expect t).run ts =
      match ts with
      | [] => none
      | u :: us => if u == t then some ((), us) else none := by
  cases ts with
  | nil => rfl
  | cons u us =>
      change StateT.run (if (u == t) = true then _ else _) us = if (u == t) = true then _ else _
      split
      · rfl
      · rfl

/-- Ends of lines are all that is taken as such. -/
theorem ends_of_run_manyFrom {fuel : Nat} {done found : List Unit} {ts : List Token}
    (ran : (manyFrom (expect .newline) fuel done).run ts = some (found, [])) : ∀ t ∈ ts, t = .newline := by
  induction fuel generalizing done ts with
  | zero =>
      cases ran
      exact fun t listed => absurd listed List.not_mem_nil
  | succ fuel ih =>
      obtain ⟨x, us, first, further⟩ := run_bind_eq_some ran
      rw [run_optional, run_expect] at first
      cases ts with
      | nil => exact fun t listed => absurd listed List.not_mem_nil
      | cons t ts =>
          dsimp only at first
          split at first
          · rename_i same
            cases first
            have mark : t = .newline := by
              cases t <;> first | rfl | exact absurd same Bool.false_ne_true
            exact List.forall_mem_cons.mpr ⟨mark, ih further⟩
          · cases first
            cases further

/-- Behind items there is at most a comma before the rest, so that a reader which fails there stops as well. -/
theorem run_comma_eq_none {q : Parser Tree} {behind us : List Token} {ended : Bool}
    (skipped : (skip (.symbol ",")).run behind = some (ended, us)) (stuck : q.run us = none) :
    (do symbol ","; q : Parser Tree).run behind = none := by
  rw [run_skip] at skipped
  cases behind with
  | nil => rfl
  | cons t behind =>
      dsimp only at skipped
      split at skipped
      · rename_i comma
        cases skipped
        have taken : (symbol ",").run (t :: us) = some ((), us) := by
          rw [symbol, run_expect]
          exact if_pos comma
        rw [run_bind_of_run taken]
        exact stuck
      · rename_i other
        rw [StateT.run_bind, symbol, run_expect]
        dsimp only
        rw [if_neg other]
        rfl

/-- Items that end a text are read the same by another reader that agrees where the first one succeeds and fails
at the end of a line. -/
theorem run_itemOrTuple_congr {p q : Parser Tree} {tree : Tree} {ts ends : List Token}
    (agrees : ∀ ts x us, p.run ts = some (x, us) → q.run ts = some (x, us))
    (stuck : ∀ ts : List Token, (∀ t ∈ ts, t = .newline) → q.run ts = none)
    (marks : ∀ t ∈ ends, t = .newline) (ran : (itemOrTuple p).run ts = some (tree, ends)) :
    (itemOrTuple q).run ts = some (tree, ends) := by
  obtain ⟨⟨items, ended⟩, us, listed, built⟩ := run_bind_eq_some ran
  obtain ⟨_, behind, separated, closed⟩ := run_bind_eq_some listed
  obtain ⟨first, after, one, further⟩ := run_bind_eq_some separated
  obtain ⟨rest, _, repeated, collected⟩ := run_bind_eq_some further
  cases collected
  obtain ⟨_, _, skipped, paired⟩ := run_bind_eq_some closed
  cases paired
  have last : us = ends := by
    split at built <;> cases built <;> rfl
  subst last
  have stopped := run_comma_eq_none skipped (stuck us marks)
  have repeated' : (many (do symbol ","; q)).run after = some (rest, behind) := by
    refine run_manyFrom_congr (fun ts x us ran => ?_) stopped repeated
    obtain ⟨u, vs, comma, item⟩ := run_bind_eq_some ran
    rw [run_bind_of_run comma]
    exact agrees vs x us item
  have listed' : (commaEnded q).run ts = some ((first :: rest, ended), us) := by
    have separated' : (commaSeparated q).run ts = some (first :: rest, behind) := by
      rw [commaSeparated, run_bind_of_run (agrees ts first after one), run_bind_of_run repeated']
      rfl
    rw [commaEnded, run_bind_of_run separated', run_bind_of_run skipped]
    rfl
  rw [itemOrTuple, run_bind_of_run listed']
  exact built

/-- Expressions behind which a line ends are read the same where stars are allowed. -/
theorem run_starExpressions {n : Nat} {ts ends : List Token} {tree : Tree} (marks : ∀ t ∈ ends, t = .newline)
    (ran : (itemOrTuple (expression n)).run ts = some (tree, ends)) :
    (starExpressions (n + 2)).run ts = some (tree, ends) := by
  rw [starExpressions]
  exact run_itemOrTuple_congr (fun _ _ _ => run_starExpression_of_expression)
    (fun _ => run_starExpression_of_ends) marks ran

/-! ## Statements that begin with an expression -/

theorem run_simpleStatement_of_opens {d : Nat} {t : Token} {us : List Token} (opening : t.opensExpression = true) :
    (simpleStatement d).run (t :: us) = (assignment d).run (t :: us) := by
  cases t with
  | keyword text =>
      simp only [Token.opensExpression, List.contains_eq_mem, List.mem_cons, List.not_mem_nil, or_false,
        decide_eq_true_eq] at opening
      rcases opening with rfl | rfl | rfl | rfl | rfl | rfl <;> rfl
  | _ => rfl

theorem mem_of_run_expect {t : Token} {u : Unit} {ts rest : List Token}
    (ran : (expect t).run ts = some (u, rest)) : ∃ v, ts = v :: rest ∧ (v == t) = true := by
  rw [run_expect] at ran
  split at ran
  · cases ran
  · split at ran
    · rename_i same
      cases ran
      exact ⟨_, rfl, same⟩
    · cases ran

theorem StaysInLine.mem {a : α} {t : Token} {ts rest : List Token} (stays : StaysInLine p)
    (ran : p.run ts = some (a, rest)) (listed : t ∈ rest) : t ∈ ts := by
  obtain ⟨taken, rfl, -⟩ := stays ts a rest ran
  exact List.mem_append_right taken listed

/-- A matching statement has a block. -/
theorem indent_mem_of_run_matchBlock {d n : Nat} {u : Unit} {ts rest : List Token}
    (ran : (matchBlock d n).run ts = some (u, rest)) : .indent ∈ ts := by
  cases n with
  | zero => cases ran
  | succ n =>
      unfold matchBlock at ran
      obtain ⟨word, us, named, ran⟩ := run_bind_eq_some ran
      refine stays_name.mem named ?_
      split at ran
      · cases ran
      · obtain ⟨_, vs, subject, ran⟩ := run_bind_eq_some ran
        obtain ⟨_, ws, colon, ran⟩ := run_bind_eq_some ran
        obtain ⟨_, xs, ended, ran⟩ := run_bind_eq_some ran
        obtain ⟨_, ys, begun, ran⟩ := run_bind_eq_some ran
        refine (stays_itemOrTuple (staysAt d).starNamed).mem subject ((stays_symbol ":").mem colon ?_)
        obtain ⟨v, rfl, -⟩ := mem_of_run_expect ended
        obtain ⟨w, rfl, same⟩ := mem_of_run_expect begun
        have mark : w = .indent := by
          cases w <;> first | rfl | exact absurd same Bool.false_ne_true
        subst mark
        exact List.mem_cons_of_mem _ List.mem_cons_self

theorem run_statement_of_opens {d n : Nat} {t : Token} {us : List Token} (opening : t.opensExpression = true)
    (flat : .indent ∉ t :: us) : (statement d (n + 1)).run (t :: us) = (simpleStatements d).run (t :: us) := by
  cases t with
  | name text =>
      by_cases soft : text = "match"
      · subst soft
        have failing : (matchBlock d n).run (.name "match" :: us) = none := by
          cases ran : (matchBlock d n).run (.name "match" :: us) with
          | none => rfl
          | some found => exact absurd (indent_mem_of_run_matchBlock ran) flat
        change ((matchBlock d n >>= fun _ => pure (Statement.refused "Match")).run _).orElse
          (fun _ => (simpleStatements d).run (.name "match" :: us)) = _
        rw [StateT.run_bind, failing]
        rfl
      · unfold statement
        rw [StateT.run_bind, StateT.run_get]
        simp only [pure_bind]
        split
        case h_12 same =>
          cases same
          exact absurd rfl soft
        all_goals first | rfl | (rename_i same; cases same)
  | keyword text =>
      simp only [Token.opensExpression, List.contains_eq_mem, List.mem_cons, List.not_mem_nil, or_false,
        decide_eq_true_eq] at opening
      rcases opening with rfl | rfl | rfl | rfl | rfl | rfl <;> rfl
  | symbol text =>
      simp only [Token.opensExpression, List.contains_eq_mem, List.mem_cons, List.not_mem_nil, or_false,
        decide_eq_true_eq] at opening
      rcases opening with rfl | rfl | rfl | rfl | rfl | rfl | rfl <;> rfl
  | newline => cases opening
  | indent => cases opening
  | dedent => cases opening
  | _ => rfl

/-- Expressions in front of the end of a line are one statement, which has their value. -/
theorem run_simpleStatements_of_expressions {d : Nat} {t : Token} {us : List Token} {tree : Tree}
    (opening : t.opensExpression = true) (ran : (starExpressions d).run (t :: us) = some (tree, [.newline])) :
    (simpleStatements d).run (t :: us) = some (.value tree, []) := by
  have first : (simpleStatement d).run (t :: us) = some (.value tree, [.newline]) := by
    rw [run_simpleStatement_of_opens opening, assignment, run_bind_of_run ran]
    rfl
  rw [simpleStatements, run_bind_of_run first]
  rfl

/-- What is read as expressions alone is expressions in front of ends of lines. -/
theorem expressions_of_run_onlyExpressions {length : Nat} {u : Unit} {ts rest : List Token}
    (ran : (onlyExpressions length).run ts = some (u, rest)) :
    ∃ tree ends, (itemOrTuple (expression (depth length - 2))).run ts = some (tree, ends) ∧
      ∀ t ∈ ends, t = .newline := by
  obtain ⟨tree, ends, items, ran⟩ := run_bind_eq_some ran
  obtain ⟨marks, behind, repeated, ran⟩ := run_bind_eq_some ran
  refine ⟨tree, ends, items, ?_⟩
  cases behind with
  | nil => exact ends_of_run_manyFrom repeated
  | cons t behind => cases ran

/-- Expressions in front of the end of a line are the whole of a program. -/
theorem run_program_of_expressions {d : Nat} {t : Token} {us : List Token} {tree : Tree}
    (opening : t.opensExpression = true) (flat : .indent ∉ t :: us)
    (ran : (starExpressions (d + 1)).run (t :: us) = some (tree, [.newline])) :
    (program (d + 1)).run (t :: us) = some (some (.value tree), []) := by
  have first : (statement (d + 1) (d + 1)).run (t :: us) = some (.value tree, []) := by
    rw [run_statement_of_opens opening flat]
    exact run_simpleStatements_of_expressions opening ran
  rw [program, run_bind_of_run (show peek.run (t :: us) = some (some t, t :: us) from rfl)]
  dsimp only [Option.isNone_some]
  rw [if_neg Bool.false_ne_true, run_bind_of_run first]
  rfl

end Parser

/-- Expressions in front of the end of the only line are read as a statement that has their value. -/
theorem readProgram_of_expressions {chars : List Char} {ts : List Token} {tree : Tree} (cut : lex chars = some ts)
    (flat : .indent ∉ ts)
    (items : (Parser.itemOrTuple (Parser.expression (Parser.depth chars.length - 2))).run ts = some (tree, [.newline])) :
    readProgram chars = some (some (.value tree)) := by
  obtain ⟨t, us, rfl, opening⟩ := Parser.opens_itemOrTuple (Parser.opens_expression _) ts tree _ items
  have starred := Parser.run_starExpressions (fun t listed => List.mem_singleton.mp listed) items
  have whole := Parser.run_program_of_expressions opening flat starred
  have enough : Parser.depth chars.length - 2 + 1 + 1 = Parser.depth chars.length := by
    unfold Parser.depth
    omega
  rw [enough] at whole
  unfold readProgram
  rw [cut]
  change ((Parser.program (Parser.depth chars.length)).run (t :: us)).bind _ = _
  rw [whole]
  rfl

/-- A text that is one or more expressions is read as a statement that has their value. -/
theorem readProgram_of_isExpressionText {chars : List Char} (formed : Parser.isExpressionText chars = true) :
    ∃ tree, readProgram chars = some (some (.value tree)) := by
  unfold Parser.isExpressionText at formed
  split at formed
  · cases formed
  · rename_i ts cut
    obtain ⟨u, found⟩ := Option.isSome_iff_exists.mp formed
    obtain ⟨⟨_, rest⟩, ran, -⟩ := Option.map_eq_some_iff.mp found
    obtain ⟨tree, ends, items, marks⟩ := Parser.expressions_of_run_onlyExpressions ran
    obtain ⟨taken, rfl, plain⟩ := Parser.stays_itemOrTuple (Parser.staysAt _).expression ts tree ends items
    obtain ⟨t, us, begun, opening⟩ := Parser.opens_itemOrTuple (Parser.opens_expression _) _ tree ends items
    have some_ : taken ≠ [] := by
      rintro rfl
      rw [marks t (List.nil_append ends ▸ begun ▸ List.mem_cons_self)] at opening
      cases opening
    obtain rfl := lex_ends cut some_ plain marks
    have flat : .indent ∉ taken ++ [.newline] := by
      intro listed
      rcases List.mem_append.mp listed with early | last
      · cases plain _ early
      · cases List.mem_singleton.mp last
    exact ⟨tree, readProgram_of_expressions cut flat items⟩

/-- A text that is read as a tree has the value of the tree, where variables that count as false are replaced. -/
theorem evaluateWith_of_readProgram {apply : Aggregate.Apply} {functions : List (String × Value)} {expression : String}
    {tree : Tree} (readable : unreadable? (Text.trimChars expression.toList) = none)
    (read : readProgram (Text.trimChars expression.toList) = some (some (.value tree))) (input vars : Value) :
    evaluateWith apply functions expression input vars = (do
      let vars ← if ← Eval.isTrue vars then pure vars else Eval.newDict []
      let h ← Eval.heap
      evaluateTree ⟨namedValues h input vars, functions, apply, String.ofList (Text.trimChars expression.toList)⟩
        .empty tree) := by
  unfold evaluateWith
  dsimp only
  simp only [readable, read]
  rfl

end WorkflowEngine.Expression
