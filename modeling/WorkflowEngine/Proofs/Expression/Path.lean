import WorkflowEngine.Condition
import WorkflowEngine.Expression.Evaluation
import WorkflowEngine.Proofs.Expression.Statement

/-!
# Paths as expressions

Names with dots between them are read as a chain of attributes of the first name.
-/

namespace WorkflowEngine.Expression

/-! ## Names of fields -/

/-- A name that a path may go along: an identifier of basic characters that is no keyword, and that does not begin as
the attributes do which are kept from expressions. -/
structure IsField (name : String) : Prop where
  word : Text.Unicode.isIdentifier name.toList = true
  basic : ∀ c ∈ name.toList, c.toNat < 128
  free : name ∉ keywords
  shown : ("_".isPrefixOf name || "func_".isPrefixOf name) = false

/-- What holds of the characters of all basic codes holds of every basic character. -/
theorem forall_basic {P : Char → Prop} (each : ∀ code < 128, P (Char.ofNat code)) : ∀ c : Char, c.toNat < 128 → P c := by
  intro c basic
  have here := each c.toNat basic
  rwa [Char.ofNat_toNat] at here

theorem inWord_of_continues : ∀ c : Char, c.toNat < 128 → Text.Unicode.isIdentifierContinue c = true → inWord c = true :=
  forall_basic (by decide +kernel)

/-- What begins an identifier opens a word and is no digit of any script. -/
theorem opensWord_of_starts : ∀ c : Char, c.toNat < 128 → Text.Unicode.isIdentifierStart c = true →
    opensWord c = true ∧ c.isDigit = false ∧ Text.Unicode.isDigit c = false :=
  forall_basic (by decide +kernel)

/-- The basic characters of words are neither blank nor unfit for a text. -/
theorem whole_of_inWord : ∀ c : Char, c.toNat < 128 → inWord c = true →
    Text.Unicode.isBlank c = false ∧ Text.Surrogate.half? c = none ∧ c.toNat ≠ 0 :=
  forall_basic (by decide +kernel)

/-- The basic characters of words are no marks. -/
theorem not_mark_of_inWord : ∀ c : Char, c.toNat < 128 → inWord c = true →
    c ∉ ['.', ' ', '\t', '\x0c', '\n', '\r', '#', '\\'] :=
  forall_basic (by decide +kernel)

namespace IsField

variable {name : String}

/-- A field begins with a character that opens a word. -/
theorem cons (field : IsField name) : ∃ c cs, name.toList = c :: cs ∧ opensWord c = true ∧ c.isDigit = false ∧
    Text.Unicode.isDigit c = false := by
  have word := field.word
  cases chars : name.toList with
  | nil =>
      rw [chars] at word
      cases word
  | cons c cs =>
      rw [chars, Text.Unicode.isIdentifier, Bool.and_eq_true] at word
      exact ⟨c, cs, rfl, opensWord_of_starts c (field.basic c (chars ▸ List.mem_cons_self)) word.1⟩

theorem inWord (field : IsField name) : ∀ c ∈ name.toList, inWord c = true := by
  obtain ⟨c, cs, chars, opening, -⟩ := field.cons
  have word := field.word
  have basic := field.basic
  rw [chars] at word basic ⊢
  rw [Text.Unicode.isIdentifier, Bool.and_eq_true, List.all_eq_true] at word
  intro d listed
  rcases List.mem_cons.mp listed with rfl | behind
  · rw [Expression.inWord, opening, Bool.true_or]
  · exact inWord_of_continues d (basic d listed) (word.2 d behind)

theorem whole (field : IsField name) {c : Char} (listed : c ∈ name.toList) :
    Text.Unicode.isBlank c = false ∧ Text.Surrogate.half? c = none ∧ c.toNat ≠ 0 :=
  whole_of_inWord c (field.basic c listed) (field.inWord c listed)

theorem not_mark (field : IsField name) {c : Char} (listed : c ∈ name.toList) :
    c ∉ ['.', ' ', '\t', '\x0c', '\n', '\r', '#', '\\'] :=
  not_mark_of_inWord c (field.basic c listed) (field.inWord c listed)

end IsField

/-! ## The text of a path -/

/-- The characters of a path from its first dot on. -/
def dotted (names : List String) : List Char :=
  names.flatMap fun name => '.' :: name.toList

/-- Behind a name of a path there is a dot or the end of the line. -/
theorem dotted_newline (names : List String) :
    ∃ d rest, dotted names ++ ['\n'] = d :: rest ∧ (d = '.' ∨ d = '\n') := by
  cases names with
  | nil => exact ⟨'\n', [], rfl, .inr rfl⟩
  | cons => exact ⟨'.', _, rfl, .inl rfl⟩

theorem length_le_dotted (names : List String) : names.length ≤ (dotted names).length := by
  induction names with
  | nil => exact Nat.zero_le _
  | cons name names ih =>
      simp only [dotted, List.flatMap_cons, List.length_append, List.length_cons] at ih ⊢
      omega

theorem toList_path (first : String) (rest : List String) :
    (".".intercalate (first :: rest)).toList = first.toList ++ dotted rest := by
  rw [String.toList_intercalate]
  induction rest generalizing first with
  | nil => simp [dotted]
  | cons next rest ih =>
      have behind := ih next
      simp only [List.map_cons] at behind ⊢
      rw [List.intercalate_cons_cons, behind]
      simp [dotted]

/-- The parts of a path are its names. -/
theorem pathOf_path {first : String} {rest : List String} (fields : ∀ name ∈ first :: rest, IsField name) :
    Condition.pathOf (".".intercalate (first :: rest)) = first :: rest := by
  have apart : ∀ chars ∈ (first :: rest).map String.toList, '.' ∉ chars := by
    intro chars listed
    obtain ⟨name, named, rfl⟩ := List.mem_map.mp listed
    intro dot
    exact (fields name named).not_mark dot List.mem_cons_self
  have back : (first :: rest).map (String.ofList ∘ String.toList) = first :: rest := by
    simp [Function.comp_def]
  rw [Condition.pathOf, String.toList_intercalate, show ".".toList = ['.'] from rfl,
    List.splitOn_intercalate '.' apart (by simp), List.map_map, back]

/-- A character of a path stands in one of its names or between two of them. -/
theorem mem_path {first : String} {rest : List String} {c : Char}
    (listed : c ∈ (".".intercalate (first :: rest)).toList) : c = '.' ∨ ∃ name ∈ first :: rest, c ∈ name.toList := by
  rw [toList_path, dotted, List.mem_append, List.mem_flatMap] at listed
  rcases listed with here | ⟨name, named, here⟩
  · exact .inr ⟨first, List.mem_cons_self, here⟩
  · rcases List.mem_cons.mp here with rfl | here
    · exact .inl rfl
    · exact .inr ⟨name, List.mem_cons_of_mem _ named, here⟩

/-- Nothing is cut off a text without blanks. -/
theorem trimChars_of_unblank {chars : List Char} (plain : ∀ c ∈ chars, Text.Unicode.isBlank c = false) :
    Text.trimChars chars = chars := by
  have kept {chars : List Char} (plain : ∀ c ∈ chars, Text.Unicode.isBlank c = false) : Text.dropBlanks chars = chars := by
    cases chars with
    | nil => rfl
    | cons c cs => exact List.dropWhile_cons_of_neg (by rw [plain c List.mem_cons_self]; exact Bool.false_ne_true)
  rw [Text.trimChars, kept plain, kept fun c listed => plain c (List.mem_reverse.mp listed), List.reverse_reverse]

theorem unreadable?_eq_none {chars : List Char} (whole : ∀ c ∈ chars, Text.Surrogate.half? c = none ∧ c.toNat ≠ 0) :
    unreadable? chars = none := by
  have encoded : Text.unencodable? chars = none := by
    have none : chars.dropWhile (fun c => (Text.Surrogate.half? c).isNone) = [] := by
      have whole : ∀ c ∈ chars, (Text.Surrogate.half? c).isNone = true := by
        simpa using fun c listed => (whole c listed).1
      induction chars with
      | nil => rfl
      | cons c cs ih => simp_all
    rw [Text.unencodable?]
    simp only [none]
  have filled : (chars.any fun c => c.toNat == 0) = false := by
    simpa using fun c listed => (whole c listed).2
  rw [unreadable?, Text.encodingFault?, encoded, filled]
  rfl

/-- A path is a text that can be read, without blanks to be cut off. -/
theorem readable_path {first : String} {rest : List String} (fields : ∀ name ∈ first :: rest, IsField name) :
    Text.trimChars (".".intercalate (first :: rest)).toList = (".".intercalate (first :: rest)).toList ∧
      unreadable? (".".intercalate (first :: rest)).toList = none := by
  have whole : ∀ c ∈ (".".intercalate (first :: rest)).toList,
      Text.Unicode.isBlank c = false ∧ Text.Surrogate.half? c = none ∧ c.toNat ≠ 0 := by
    intro c listed
    rcases mem_path listed with rfl | ⟨name, named, here⟩
    · decide
    · exact (fields name named).whole here
  exact ⟨trimChars_of_unblank fun c listed => (whole c listed).1, unreadable?_eq_none fun c listed => (whole c listed).2⟩

/-! ## The tokens of a path -/

/-- The tokens of a path from its first dot on. -/
def dottedTokens (names : List String) : List Token :=
  names.flatMap fun name => [.symbol ".", .name name]

theorem takeWhileFrom_append {test : Char → Bool} {chars : List Char} (pass : ∀ c ∈ chars, test c = true)
    {c : Char} (stop : test c = false) (done rest : List Char) :
    takeWhileFrom test done (chars ++ c :: rest) = (done.reverse ++ chars, c :: rest) := by
  induction chars generalizing done with
  | nil => simp [takeWhileFrom, stop]
  | cons d chars ih =>
      rw [List.cons_append, takeWhileFrom, if_pos (pass d List.mem_cons_self),
        ih (fun c listed => pass c (List.mem_cons_of_mem _ listed)), List.reverse_cons, List.append_assoc]
      rfl

/-- A field in front of a dot or of the end of a line is a name. -/
theorem lexWord_of_isField {name : String} (field : IsField name) {c : Char} (mark : c = '.' ∨ c = '\n')
    (rest : List Char) : lexWord (name.toList ++ c :: rest) = some (.name name, c :: rest) := by
  have stop : inWord c = false ∧ (c == '"' || c == '\'') = false := by
    rcases mark with rfl | rfl <;> decide
  have named : Token.ofWord name = .name name := by
    rw [Token.ofWord, if_neg]
    simpa using field.free
  rw [lexWord, takeWhileFrom_append field.inWord stop.1]
  simp only [List.reverse_nil, List.nil_append, field.word, stop.2, String.ofList_toList, named]
  rfl

namespace Lexer

variable {s s' : Lexer} {fuel : Nat}

/-- A round inside a line adds the token in front. -/
theorem run_lexToken {c : Char} {cs rest : List Char} (inside : s.lineStart = false)
    (plain : c ∉ [' ', '\t', '\x0c', '\n', '\r', '#', '\\']) (cut : s.lexToken (c :: cs) = some (s', rest)) :
    run (fuel + 1) s (c :: cs) = run fuel s' rest := by
  conv_lhs => unfold run
  rw [inside, Bool.false_and, if_neg Bool.false_ne_true]
  split
  case h_9 => rw [cut]
  all_goals
    rename_i same
    cases same
  all_goals exact absurd (by decide) plain

/-- A text that begins with a token begins with a line that is not indented. -/
theorem run_start {c : Char} {cs : List Char} (plain : c ∉ [' ', '\t', '\x0c', '\n', '\r', '#', '\\']) :
    run (fuel + 1) start (c :: cs) = run fuel ⟨[], [], [(0, 0)], false, false⟩ (c :: cs) := by
  have width : lineWidth 0 0 (c :: cs) = ((0, 0), c :: cs) := by
    unfold lineWidth
    split
    case h_4 => rfl
    all_goals
      rename_i same
      cases same
    all_goals exact absurd (by decide) plain
  conv_lhs => unfold run
  rw [if_pos (show (start.lineStart && start.closers.isEmpty) = true from rfl), width]
  dsimp only
  split
  case h_4 => rfl
  all_goals
    rename_i same
    cases same
  all_goals exact absurd (by decide) plain

/-- A field in front of another one or of the end of the line is added as a name. -/
theorem run_field (inside : s.lineStart = false) {name : String} (field : IsField name) {c : Char}
    (mark : c = '.' ∨ c = '\n') (rest : List Char) :
    run (fuel + 1) s (name.toList ++ c :: rest) = run fuel (s.push (.name name)) (c :: rest) := by
  obtain ⟨d, ds, chars, opening, digit, -⟩ := field.cons
  have word := lexWord_of_isField field mark rest
  have other := field.not_mark (chars ▸ List.mem_cons_self : d ∈ name.toList)
  rw [List.mem_cons, not_or] at other
  have dot : (d == '.') = false := beq_false_of_ne other.1
  rw [chars, List.cons_append] at word ⊢
  refine run_lexToken inside other.2 ?_
  rw [lexToken.eq_def]
  simp only [digit, dot, opening, word]
  rfl

/-- A dot in front of a field is added as a symbol. -/
theorem run_dot (inside : s.lineStart = false) {name : String} (field : IsField name) (rest : List Char) :
    run (fuel + 1) s ('.' :: (name.toList ++ rest)) = run fuel (s.push (.symbol ".")) (name.toList ++ rest) := by
  obtain ⟨d, ds, chars, -, digit, -⟩ := field.cons
  have other := field.not_mark (chars ▸ List.mem_cons_self : d ∈ name.toList)
  rw [List.mem_cons, not_or] at other
  have first : symbols.find? (fun text => text.toList.isPrefixOf ('.' :: d :: (ds ++ rest))) = some "." := by
    simp [symbols, List.find?, List.isPrefixOf, Ne.symm other.1]
  have found : lexSymbol? ('.' :: d :: (ds ++ rest)) = some (".", d :: (ds ++ rest)) := by
    rw [lexSymbol?, first]
    rfl
  rw [chars, List.cons_append]
  refine run_lexToken inside (by decide) ?_
  rw [lexToken]
  simp only [digit, found]
  rfl

/-- The end of the last line ends the text. -/
theorem run_newline (inside : s.lineStart = false) (outside : s.closers = []) (ongoing : s.inLine = true)
    (flat : s.blocks = [(0, 0)]) : run (fuel + 1) s ['\n'] = some (s.done.reverse ++ [.newline]) := by
  obtain ⟨done, closers, blocks, lineStart, inLine⟩ := s
  cases inside
  cases outside
  cases ongoing
  cases flat
  have ended : run (fuel + 1) ⟨done, [], [(0, 0)], false, true⟩ ['\n'] =
      run fuel ⟨.newline :: done, [], [(0, 0)], true, false⟩ [] := rfl
  have finished : finish ⟨.newline :: done, [], [(0, 0)], true, false⟩ = some (done.reverse ++ [.newline]) := by
    simp [finish, endLine]
  rw [ended, ← finished]
  cases fuel <;> rfl

/-- Behind its first name, a path is cut into dots and names. -/
theorem run_dotted {names : List String} (fields : ∀ name ∈ names, IsField name) (enough : 2 * names.length < fuel)
    (inside : s.lineStart = false) (outside : s.closers = []) (ongoing : s.inLine = true) (flat : s.blocks = [(0, 0)]) :
    run fuel s (dotted names ++ ['\n']) = some (s.done.reverse ++ dottedTokens names ++ [.newline]) := by
  induction names generalizing s fuel with
  | nil =>
      obtain ⟨fuel, rfl⟩ := Nat.exists_eq_add_one.mpr enough
      simpa [dotted, dottedTokens] using run_newline inside outside ongoing flat
  | cons name names ih =>
      obtain ⟨fuel, rfl⟩ : ∃ n, fuel = n + 2 := ⟨fuel - 2, by rw [List.length_cons] at enough; omega⟩
      have field := fields name List.mem_cons_self
      obtain ⟨d, rest, behind, mark⟩ := dotted_newline names
      have split : dotted (name :: names) ++ ['\n'] = '.' :: (name.toList ++ d :: rest) := by
        rw [← behind]
        simp [dotted]
      have further : run fuel ((s.push (.symbol ".")).push (.name name)) (dotted names ++ ['\n']) = _ :=
        ih (fun n listed => fields n (List.mem_cons_of_mem _ listed)) (by rw [List.length_cons] at enough; omega)
          inside outside rfl flat
      rw [split, run_dot inside field, run_field (s := s.push (.symbol ".")) inside field mark, ← behind, further]
      simp [push, dottedTokens]

end Lexer

/-- A text without carriage returns keeps its line breaks. -/
theorem plainBreaks_of_not_mem {chars : List Char} (plain : '\r' ∉ chars) (done : List Char) :
    plainBreaks done chars = done.reverse ++ chars := by
  induction chars generalizing done with
  | nil => simp [plainBreaks]
  | cons c chars ih =>
      rw [List.mem_cons, not_or] at plain
      have here : plainBreaks done (c :: chars) = plainBreaks (c :: done) chars := by
        rw [plainBreaks]
        · rintro rest rfl
          exact absurd rfl plain.1
        · rintro rfl
          exact absurd rfl plain.1
      rw [here, ih plain.2, List.reverse_cons, List.append_assoc]
      rfl

/-- A path is cut into its names and the dots between them. -/
theorem lex_path {first : String} {rest : List String} (fields : ∀ name ∈ first :: rest, IsField name) :
    lex (".".intercalate (first :: rest)).toList = some (.name first :: dottedTokens rest ++ [.newline]) := by
  have unbroken : ∀ c ∈ ['\r', '\n'], c ∉ (".".intercalate (first :: rest)).toList := by
    intro c mark listed
    rcases mem_path listed with rfl | ⟨name, named, here⟩
    · exact absurd mark (by decide)
    · have other := (fields name named).not_mark here
      simp only [List.mem_cons, List.not_mem_nil, or_false] at mark
      rcases mark with rfl | rfl <;> exact other (by decide)
  have open_ : (".".intercalate (first :: rest)).toList.getLast? ≠ some '\n' := by
    intro last
    exact unbroken '\n' (by decide) (List.mem_of_getLast? last)
  have field := fields first List.mem_cons_self
  obtain ⟨d, ds, behind, mark⟩ := dotted_newline rest
  have enough : ∃ fuel, 2 * ((".".intercalate (first :: rest)).toList ++ ['\n']).length + 2 = fuel + 2 ∧
      2 * rest.length < fuel := by
    refine ⟨_, rfl, ?_⟩
    have long := length_le_dotted rest
    rw [toList_path, List.length_append, List.length_append, List.length_singleton]
    omega
  obtain ⟨fuel, enough, more⟩ := enough
  have cut : Lexer.run (fuel + 2) .start ((".".intercalate (first :: rest)).toList ++ ['\n']) =
      some (.name first :: dottedTokens rest ++ [.newline]) := by
    rw [toList_path, List.append_assoc, behind]
    have begun : Lexer.run (fuel + 2) .start (first.toList ++ d :: ds) =
        Lexer.run (fuel + 1) ⟨[], [], [(0, 0)], false, false⟩ (first.toList ++ d :: ds) := by
      obtain ⟨c, cs, chars, -⟩ := field.cons
      have other := field.not_mark (chars ▸ List.mem_cons_self : c ∈ first.toList)
      rw [List.mem_cons, not_or] at other
      rw [chars]
      exact Lexer.run_start other.2
    rw [begun, Lexer.run_field rfl field mark, ← behind,
      Lexer.run_dotted (fun name listed => fields name (List.mem_cons_of_mem _ listed)) more rfl rfl rfl rfl]
    rfl
  rw [lex, plainBreaks_of_not_mem (unbroken '\r' (by decide)), List.reverse_nil, List.nil_append,
    if_neg (by simpa using open_), enough, cut]

namespace Parser

variable {α : Type} {p : Parser α} {n : Nat} {ts ends : List Token} {tree : Tree}

/-- Where another token comes next, a parser goes on as it does without the one it looks for. -/
theorem run_else_of_other {t u : Token} {q : Parser α} (other : (u == t) = false) :
    (do if ← skip t then p else q : Parser α).run (u :: ts) = q.run (u :: ts) := by
  rw [StateT.run_bind, run_skip]
  dsimp only
  rw [other]
  rfl

theorem run_many_of_stuck (stuck : p.run ts = none) : (many p).run ts = some ([], ts) := by
  have stopped : ∀ fuel, (manyFrom p fuel []).run ts = some ([], ts) := by
    intro fuel
    cases fuel with
    | zero => rfl
    | succ fuel =>
        change (optional p >>= fun x => _).run ts = _
        rw [StateT.run_bind, run_optional, stuck]
        rfl
  exact stopped ts.length

/-- Behind a tree of a path, its dots and names are attributes. -/
theorem run_trailers_dotted {names : List String} (enough : names.length < n) (owner : Tree) :
    (trailers n owner).run (dottedTokens names ++ [.newline]) = some (names.foldl .attribute owner, [.newline]) := by
  induction names generalizing n owner with
  | nil =>
      obtain ⟨n, rfl⟩ := Nat.exists_eq_add_one.mpr enough
      rfl
  | cons name names ih =>
      obtain ⟨n, rfl⟩ : ∃ k, n = k + 1 := ⟨n - 1, by rw [List.length_cons] at enough; omega⟩
      rw [List.length_cons] at enough
      have further := ih (n := n) (by omega) (.attribute owner name)
      unfold trailers
      exact further

/-- A name and the dots and names behind it are a primary. -/
theorem run_primary_path {first : String} {rest : List String} (enough : rest.length < n) :
    (primary (n + 1)).run (.name first :: dottedTokens rest ++ [.newline]) =
      some (rest.foldl .attribute (.name first), [.newline]) := by
  obtain ⟨n, rfl⟩ : ∃ k, n = k + 1 := ⟨n - 1, by omega⟩
  unfold primary
  exact run_trailers_dotted enough (.name first)

section Levels

variable {word : String} {us : List Token}

theorem run_awaited_of_primary (ran : (primary n).run (.name word :: us) = some (tree, ends)) :
    (awaited (n + 1)).run (.name word :: us) = some (tree, ends) := by
  unfold awaited
  exact ran

theorem run_factor_of_awaited (ran : (awaited n).run (.name word :: us) = some (tree, [.newline])) :
    (factor (n + 1)).run (.name word :: us) = some (tree, [.newline]) := by
  unfold factor
  rw [run_else_of_other rfl, run_else_of_other rfl, run_else_of_other rfl, run_bind_of_run ran,
    run_else_of_other rfl]
  rfl

theorem run_binary_of_factor (levels : List (List (String × BinaryOperator)))
    (ran : (factor n).run (.name word :: us) = some (tree, [.newline])) :
    (binary (n + 1 + levels.length) levels).run (.name word :: us) = some (tree, [.newline]) := by
  induction levels with
  | nil =>
      unfold binary
      exact ran
  | cons level tighter ih =>
      rw [List.length_cons, ← Nat.add_assoc, binary, run_bind_of_run ih, run_bind_of_run (run_many_of_stuck ?_)]
      · rfl
      · rfl

theorem run_inversion_of_binary (ran : (binary n levels).run (.name word :: us) = some (tree, [.newline])) :
    (inversion (n + 1)).run (.name word :: us) = some (tree, [.newline]) := by
  unfold inversion
  rw [run_else_of_other rfl, run_bind_of_run ran, run_bind_of_run (run_many_of_stuck ?_)]
  · rfl
  · rfl

theorem run_conjunction_of_inversion (ran : (inversion n).run (.name word :: us) = some (tree, [.newline])) :
    (conjunction (n + 1)).run (.name word :: us) = some (tree, [.newline]) := by
  unfold conjunction
  rw [run_bind_of_run ran, run_bind_of_run (run_many_of_stuck ?_)]
  · rfl
  · rfl

theorem run_disjunction_of_conjunction (ran : (conjunction n).run (.name word :: us) = some (tree, [.newline])) :
    (disjunction (n + 1)).run (.name word :: us) = some (tree, [.newline]) := by
  unfold disjunction
  rw [run_bind_of_run ran, run_bind_of_run (run_many_of_stuck ?_)]
  · rfl
  · rfl

theorem run_expression_of_disjunction (ran : (disjunction n).run (.name word :: us) = some (tree, [.newline])) :
    (expression (n + 1)).run (.name word :: us) = some (tree, [.newline]) := by
  unfold expression
  rw [run_bind_of_run (show (atKeyword "lambda").run (.name word :: us) = some (false, .name word :: us) from rfl),
    if_neg Bool.false_ne_true, run_bind_of_run ran, run_else_of_other rfl]
  rfl

/-- A primary that begins with a name and ends a line is an expression. -/
theorem run_expression_of_primary (ran : (primary n).run (.name word :: us) = some (tree, [.newline])) :
    (expression (n + 13)).run (.name word :: us) = some (tree, [.newline]) := by
  have operand := run_factor_of_awaited (run_awaited_of_primary ran)
  have compared := run_inversion_of_binary (run_binary_of_factor levels operand)
  have joined := run_disjunction_of_conjunction (run_conjunction_of_inversion compared)
  exact run_expression_of_disjunction joined

end Levels

/-- An expression in front of the end of a line is one item. -/
theorem run_itemOrTuple_of_newline {p : Parser Tree} (ran : p.run ts = some (tree, [.newline])) :
    (itemOrTuple p).run ts = some (tree, [.newline]) := by
  have listed : (commaSeparated p).run ts = some ([tree], [.newline]) := by
    rw [commaSeparated, run_bind_of_run ran, run_bind_of_run (run_many_of_stuck rfl)]
    rfl
  have ended : (commaEnded p).run ts = some (([tree], false), [.newline]) := by
    rw [commaEnded, run_bind_of_run listed]
    rfl
  rw [itemOrTuple, run_bind_of_run ended]
  rfl

end Parser

/-- A path is read as a chain of attributes of its first name. -/
theorem readProgram_path {first : String} {rest : List String} (fields : ∀ name ∈ first :: rest, IsField name) :
    readProgram (".".intercalate (first :: rest)).toList = some (some (.value (rest.foldl .attribute (.name first)))) := by
  have flat : .indent ∉ .name first :: dottedTokens rest ++ [.newline] := by
    simp [dottedTokens]
  have long : rest.length ≤ (".".intercalate (first :: rest)).toList.length := by
    have behind := length_le_dotted rest
    rw [toList_path, List.length_append]
    omega
  have enough : ∃ n, Parser.depth (".".intercalate (first :: rest)).toList.length - 2 = n + 1 + 13 ∧ rest.length < n := by
    refine ⟨Parser.depth (".".intercalate (first :: rest)).toList.length - 16, ?_, ?_⟩
    · unfold Parser.depth
      omega
    · unfold Parser.depth
      omega
  obtain ⟨n, deep, enough⟩ := enough
  refine readProgram_of_expressions (lex_path fields) flat ?_
  rw [deep]
  exact Parser.run_itemOrTuple_of_newline (Parser.run_expression_of_primary (Parser.run_primary_path enough))

end WorkflowEngine.Expression
