import Mathlib.Data.List.Chain
import WorkflowEngine.Expression.Lexer
import WorkflowEngine.Proofs.Expression.Layout

/-!
# The lines of a text

The ends of lines are told once each: a line without tokens has none, and behind the last token of a text there is
always one.
-/

namespace WorkflowEngine.Expression

/-! ## Tokens of a line -/

section Plain

variable {chars rest : List Char} {t : Token}

theorem plain_finishFloat {value : Float} (cut : finishFloat value chars = some (t, rest)) : t.isLayout = false := by
  unfold finishFloat at cut
  split at cut <;> split at cut <;> cases cut <;> rfl

theorem plain_lexFraction {digits places : Nat} (cut : lexFraction digits places chars = some (t, rest)) :
    t.isLayout = false := by
  unfold lexFraction at cut
  split at cut
  · cases cut
  · exact plain_finishFloat cut
  · exact plain_finishFloat cut

theorem plain_lexDecimal (cut : lexDecimal chars = some (t, rest)) : t.isLayout = false := by
  unfold lexDecimal at cut
  split at cut
  · cases cut
  · split at cut
    · split at cut
      · split at cut
        · split at cut
          · cases cut
          · exact plain_lexFraction cut
        · exact plain_lexFraction cut
      · exact plain_lexFraction cut
    · split at cut
      · cases cut
      · exact plain_lexFraction cut
      · split at cut
        · exact plain_lexFraction cut
        · exact plain_lexFraction cut
        · dsimp only at cut
          split at cut
          · cases cut
          · split at cut <;> cases cut
            rfl

theorem plain_lexBase {base : Nat} (cut : lexBase base chars = some (t, rest)) : t.isLayout = false := by
  unfold lexBase at cut
  extract_lets first at cut
  clear_value first
  split at cut
  · cases cut
  · split at cut
    · generalize spanBase base 0 _ = spanned at cut
      obtain ⟨value, behind⟩ := spanned
      dsimp only at cut
      split at cut
      · cases cut
      · split at cut <;> cases cut
        rfl
      · cases cut
        rfl
    · cases cut

theorem plain_lexNumber (cut : lexNumber chars = some (t, rest)) : t.isLayout = false := by
  unfold lexNumber at cut
  split at cut
  · split at cut
    · exact plain_lexBase cut
    · exact plain_lexDecimal cut
  · split at cut
    · cases cut
    · exact plain_lexFraction cut
  · exact plain_lexDecimal cut

theorem plain_lexLiteral {kind : LiteralKind} {raw : Bool} {quote : Char}
    (cut : lexLiteral kind raw quote chars = some (t, rest)) : t.isLayout = false := by
  unfold lexLiteral at cut
  obtain ⟨found, -, same⟩ := Option.map_eq_some_iff.mp cut
  cases same
  rfl

theorem plain_ofWord (text : String) : (Token.ofWord text).isLayout = false := by
  unfold Token.ofWord
  split <;> rfl

theorem plain_lexWord (cut : lexWord chars = some (t, rest)) : t.isLayout = false := by
  unfold lexWord at cut
  split at cut
  extract_lets plain at cut
  have named : plain = some (t, rest) → t.isLayout = false := by
    intro taken
    unfold plain at taken
    split at taken
    · cases taken
      exact plain_ofWord _
    · cases taken
  clear_value plain
  split at cut
  · split at cut
    · split at cut
      · exact plain_lexLiteral cut
      · exact named cut
    · exact named cut
  · exact named cut

end Plain

/-! ## Tokens in lines -/

/-- The tokens found so far, the last one first: the last one tells whether a line is open, and no end of a line
follows another. -/
structure InLines (done : List Token) (inLine : Bool) : Prop where
  opened : inLine = true → ∃ t before, done = t :: before ∧ t.isLayout = false
  ended : inLine = false → done = [] ∨ ∃ t before, done = t :: before ∧ t.isLayout = true
  single : done.IsChain fun t before => t = .newline → before ≠ .newline

namespace InLines

variable {done : List Token} {inLine : Bool} {t : Token}

theorem nil : InLines [] false where
  opened ongoing := absurd ongoing Bool.false_ne_true
  ended _ := .inl rfl
  single := .nil

/-- A token that does not end a line may follow any other. -/
theorem single_cons (lines : InLines done inLine) (mark : t ≠ .newline) :
    (t :: done).IsChain fun t before => t = .newline → before ≠ .newline := by
  have single := lines.single
  cases done with
  | nil => exact .singleton t
  | cons u done => exact .cons_cons (fun same => absurd same mark) single

theorem plain (lines : InLines done inLine) (plain : t.isLayout = false) : InLines (t :: done) true where
  opened _ := ⟨t, done, rfl, plain⟩
  ended outside := absurd outside.symm Bool.false_ne_true
  single := by
    refine lines.single_cons fun same => ?_
    subst same
    cases plain

theorem block (lines : InLines done false) (layout : t.isLayout = true) (mark : t ≠ .newline) :
    InLines (t :: done) false where
  opened ongoing := absurd ongoing Bool.false_ne_true
  ended _ := .inr ⟨t, done, rfl, layout⟩
  single := lines.single_cons mark

theorem dedents (lines : InLines done false) (count : Nat) :
    InLines (List.replicate count .dedent ++ done) false := by
  induction count with
  | zero => exact lines
  | succ count ih => exact ih.block rfl (by rintro ⟨⟩)

theorem newline (lines : InLines done true) : InLines (.newline :: done) false where
  opened ongoing := absurd ongoing Bool.false_ne_true
  ended _ := .inr ⟨.newline, done, rfl, rfl⟩
  single := by
    obtain ⟨t, before, rfl, plain⟩ := lines.opened rfl
    refine .cons_cons (fun _ same => ?_) lines.single
    subst same
    cases plain

end InLines

/-! ## The lexer between two tokens -/

namespace Lexer

/-- Between two tokens, those found stand in lines, and a line begins where none is open. -/
structure IsTidy (s : Lexer) : Prop where
  fresh : s.lineStart = true → s.inLine = false ∧ s.closers = []
  lines : InLines s.done s.inLine

variable {s s' : Lexer} {t : Token}

theorem isTidy_start : start.IsTidy :=
  ⟨fun _ => ⟨rfl, rfl⟩, .nil⟩

/-- Within a line, only the tokens matter. -/
theorem isTidy_of_inside (inside : s.lineStart = false) (lines : InLines s.done s.inLine) : s.IsTidy :=
  ⟨fun begun => absurd (inside.symm.trans begun) Bool.false_ne_true, lines⟩

theorem IsTidy.pushSymbol {text : String} (tidy : s.IsTidy) (inside : s.lineStart = false)
    (pushed : s.pushSymbol text = some s') : s'.IsTidy := by
  have lines : InLines (.symbol text :: s.done) true := tidy.lines.plain rfl
  unfold Lexer.pushSymbol at pushed
  split at pushed
  · split at pushed
    · split at pushed
      · cases pushed
      · cases pushed
        exact isTidy_of_inside inside lines
    · split at pushed
      · split at pushed
        · split at pushed
          · cases pushed
            exact isTidy_of_inside inside lines
          · cases pushed
        · cases pushed
      · cases pushed
        exact isTidy_of_inside inside lines
  · cases pushed
    exact isTidy_of_inside inside lines

theorem IsTidy.lexToken {chars rest : List Char} (tidy : s.IsTidy) (inside : s.lineStart = false)
    (cut : s.lexToken chars = some (s', rest)) : s'.IsTidy := by
  have pushed {found : Option (Token × List Char)} (plain : ∀ t rest, found = some (t, rest) → t.isLayout = false)
      (taken : (found.map fun found => (s.push found.1, found.2)) = some (s', rest)) : s'.IsTidy := by
    obtain ⟨⟨t, behind⟩, rfl, same⟩ := Option.map_eq_some_iff.mp taken
    cases same
    exact isTidy_of_inside inside (tidy.lines.plain (plain t _ rfl))
  unfold Lexer.lexToken at cut
  split at cut
  · cases cut
  · extract_lets digitNext at cut
    clear_value digitNext
    split at cut
    · exact pushed (fun _ _ => plain_lexNumber) cut
    · split at cut
      · exact pushed (fun _ _ => plain_lexWord) cut
      · split at cut
        · exact pushed (fun _ _ => plain_lexLiteral) cut
        · split at cut
          · cases cut
          · obtain ⟨after, added, same⟩ := Option.map_eq_some_iff.mp cut
            cases same
            exact tidy.pushSymbol inside added

theorem IsTidy.endLine (tidy : s.IsTidy) : s.endLine.IsTidy := by
  unfold Lexer.endLine
  split
  · rename_i outside
    refine ⟨fun _ => ⟨rfl, List.isEmpty_iff.mp outside⟩, ?_⟩
    have lines := tidy.lines
    cases line : s.inLine with
    | true =>
        rw [line] at lines
        exact lines.newline
    | false =>
        rw [line] at lines
        exact lines
  · exact tidy

/-- Closing blocks adds as many marks. -/
theorem closeBlocks_eq {width : Nat × Nat} {done done' : List Token} {blocks outer : List (Nat × Nat)}
    (closed : closeBlocks width done blocks = some (done', outer)) :
    ∃ count, done' = List.replicate count .dedent ++ done := by
  induction blocks generalizing done with
  | nil => cases closed
  | cons block blocks ih =>
      unfold closeBlocks at closed
      split at closed
      · obtain ⟨count, rfl⟩ := ih closed
        exact ⟨count + 1, by rw [List.replicate_succ', List.append_assoc]; rfl⟩
      · split at closed
        · cases closed
          exact ⟨0, rfl⟩
        · cases closed

theorem IsTidy.beginLine {width : Nat × Nat} (tidy : s.IsTidy) (begun : s.lineStart = true)
    (taken : s.beginLine width = some s') : s'.IsTidy := by
  obtain ⟨outside, -⟩ := tidy.fresh begun
  have lines : InLines s.done false := outside ▸ tidy.lines
  have inside {blocks : List (Nat × Nat)} {done : List Token} (lines : InLines done false) :
      IsTidy { s with done := done, blocks := blocks, lineStart := false } :=
    isTidy_of_inside rfl (outside ▸ lines)
  unfold Lexer.beginLine at taken
  split at taken
  · cases taken
  · split at taken
    · split at taken
      · cases taken
        exact inside lines
      · cases taken
    · split at taken
      · split at taken
        · cases taken
        · cases taken
          exact inside (lines.block rfl (by rintro ⟨⟩))
      · split at taken
        · cases taken
        · rename_i done' blocks' closed
          cases taken
          obtain ⟨count, rfl⟩ := closeBlocks_eq closed
          exact inside (lines.dedents count)

/-- What the lexer ends with stands in lines, none of which is open. -/
theorem IsTidy.finish {tokens : List Token} (tidy : s.IsTidy) (ended : s.finish = some tokens) :
    InLines tokens.reverse false := by
  unfold Lexer.finish at ended
  split at ended
  · rename_i outside
    cases ended
    have left : s.endLine.inLine = false := by
      unfold Lexer.endLine
      rw [if_pos outside]
    have lines := tidy.endLine.lines
    rw [left] at lines
    rw [List.reverse_reverse]
    exact lines.dedents _
  · cases ended

theorem IsTidy.run {fuel : Nat} {chars : List Char} {tokens : List Token} (tidy : s.IsTidy)
    (ran : run fuel s chars = some tokens) : InLines tokens.reverse false := by
  induction fuel generalizing s chars with
  | zero => exact tidy.finish ran
  | succ fuel ih =>
      unfold Lexer.run at ran
      split at ran
      · rename_i begun
        rw [Bool.and_eq_true] at begun
        split at ran
        split at ran
        · exact tidy.finish ran
        · exact ih tidy ran
        · exact ih tidy ran
        · split at ran
          · cases ran
          · rename_i s' taken
            exact ih (tidy.beginLine begun.1 taken) ran
      · rename_i within
        have inside : s.lineStart = false := by
          cases begun : s.lineStart with
          | false => rfl
          | true =>
              obtain ⟨-, outside⟩ := tidy.fresh begun
              rw [begun, outside] at within
              exact absurd rfl within
        split at ran
        · exact tidy.finish ran
        · exact ih tidy ran
        · exact ih tidy ran
        · exact ih tidy ran
        · exact ih tidy.endLine ran
        · exact ih tidy ran
        · cases ran
        · exact ih tidy ran
        · split at ran
          · cases ran
          · rename_i s' rest taken
            exact ih (tidy.lexToken inside taken) ran

end Lexer

/-- Tokens of one line, with nothing behind them but ends of lines, are followed by just one of these. -/
theorem lex_ends {chars : List Char} {taken ends : List Token} (cut : lex chars = some (taken ++ ends))
    (some_ : taken ≠ []) (plain : ∀ t ∈ taken, t.isLayout = false) (marks : ∀ t ∈ ends, t = .newline) :
    ends = [.newline] := by
  have lines : InLines (taken ++ ends).reverse false := Lexer.isTidy_start.run cut
  obtain ⟨count, rfl⟩ : ∃ count, ends = List.replicate count .newline := ⟨_, List.eq_replicate_of_mem marks⟩
  rw [List.reverse_append, List.reverse_replicate] at lines
  rcases count with _ | _ | count
  · rcases lines.ended rfl with none | ⟨t, before, listed, layout⟩
    · exact absurd (List.reverse_eq_nil_iff.mp none) some_
    · have found : t ∈ taken.reverse := by
        rw [show taken.reverse = t :: before from listed]
        exact List.mem_cons_self
      rw [plain t (List.mem_reverse.mp found)] at layout
      cases layout
  · rfl
  · have apart := lines.single
    rw [List.replicate_succ, List.replicate_succ, List.cons_append, List.cons_append] at apart
    cases apart with
    | cons_cons differ _ => exact absurd rfl (differ rfl)

end WorkflowEngine.Expression
