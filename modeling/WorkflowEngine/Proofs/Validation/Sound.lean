import WorkflowEngine.Proofs.Expression.Statement
import WorkflowEngine.Proofs.Pattern.Case
import WorkflowEngine.Proofs.Validation.Findings

/-!
# What the check promises

The check reads the expressions and patterns of a definition as they stand.  A run reads an expression as a sequence
of statements, and a pattern possibly without regard to case.  What passes the check can be read then as well: an
expression comes down to the value of a tree, and a condition does not fail for its pattern.
-/

namespace WorkflowEngine

namespace Workflow

variable {w : Workflow} {r : Report}

/-- Whatever the check of a valid definition reads is well formed. -/
theorem isSound_of_valid (checked : w.validate = .ok r) (valid : r.valid = true) {n : Node} (listed : n ∈ w.nodes)
    {x : Spot} (read : x ∈ n.spots) : x.IsSound := by
  obtain ⟨-, -, -, silent⟩ := errors_of_valid checked valid
  rcases expressionErrors_spec [] w.nodes with ⟨_, _, _, _, f, -, failed⟩ | ⟨errors, found, sound, all⟩
  · cases silent.symm.trans failed
  · cases silent.symm.trans found
    rcases sound n listed x read with sound | ⟨message, refused⟩
    · exact sound
    · exact absurd ((all _).mpr ⟨n, listed, x, read, message, refused, rfl⟩) List.not_mem_nil

end Workflow

namespace Spot

/-- A run can read the text: an expression as a statement that has the value of a tree, and a pattern with or without
regard to case. -/
inductive IsUsable : Spot → Prop where
  | expression {text : String} {tree : Expression.Tree}
      (readable : Expression.unreadable? (Text.trimChars text.toList) = none)
      (read : Expression.readProgram (Text.trimChars text.toList) = some (some (.value tree))) :
      IsUsable (.expression text)
  | pattern {value : Data} {text : String} (plain : value.plain = .ok text)
      (compiled : ∀ ignoreCase : Bool, ∃ parsed,
        Pattern.compile { Pattern.Options.none with ignoreCase := ignoreCase } text = .ok parsed) :
      IsUsable (.pattern value)

/-- What passes the check can be read by a run. -/
theorem IsSound.usable {x : Spot} (sound : x.IsSound) : x.IsUsable := by
  cases sound with
  | expression readable formed =>
      obtain ⟨tree, read⟩ := Expression.readProgram_of_isExpressionText formed
      exact .expression readable read
  | pattern plain compiled =>
      rename_i text parsed
      refine .pattern plain fun ignoreCase => ?_
      cases ignoreCase with
      | false => exact ⟨parsed, compiled⟩
      | true =>
          have blind := Pattern.compile_blind .none text
          rw [compiled] at blind
          exact ⟨parsed.blind, blind⟩

end Spot

/-! ## Expressions -/

namespace Expression

/-- What an expression sees on a heap. -/
def settingOf (expression : String) (h : Heap) (input vars : Value) : Setting :=
  ⟨namedValues h input vars, standardFunctions, Value.applyKey, String.ofList (Text.trimChars expression.toList)⟩

/-- An expression that can be read fails only where its tree has no value. -/
theorem evaluate_eq_error {expression : String} (usable : (Spot.expression expression).IsUsable) {input : Value}
    {a : Address} {h h' : Heap} {f : Fault}
    (failed : Eval.run (evaluate standardFunctions expression input (.dict a)) h = (.error f, h')) :
    ∃ tree vars m m', readProgram (Text.trimChars expression.toList) = some (some (.value tree)) ∧
      (evaluateTree (settingOf expression m.heap input vars) .empty tree).exec m = (.error f, m') := by
  cases usable with
  | expression readable read =>
      rename_i tree
      let value (vars : Value) : Eval Value :=
        Eval.heap >>= fun h => evaluateTree (settingOf expression h input vars) .empty tree
      have evaluated : evaluate standardFunctions expression input (.dict a) =
          (Eval.isTrue (.dict a) >>= fun filled =>
            if filled then pure (.dict a) >>= value else Eval.newDict [] >>= value) := by
        exact evaluateWith_of_readProgram readable read input (.dict a)
      have named (vars : Value) (m m' : Machine) (ran : (value vars).exec m = (.error f, m')) :
          ∃ tree vars m m', readProgram (Text.trimChars expression.toList) = some (some (.value tree)) ∧
            (evaluateTree (settingOf expression m.heap input vars) .empty tree).exec m = (.error f, m') :=
        ⟨tree, vars, m, m', read, ran⟩
      rw [evaluated] at failed
      unfold Eval.run at failed
      rcases ran : Eval.exec _ (Machine.mk h 0) with ⟨outcome, m'⟩
      rw [ran] at failed
      cases failed
      rw [Eval.exec_bind] at ran
      change Eval.exec (if h.isTrue (.dict a) = true then _ else _) ⟨h, 0⟩ = _ at ran
      split at ran
      · exact named _ _ _ ran
      · exact named _ _ _ ran

end Expression

/-! ## Conditions -/

/-- The fault is told in words about a pattern that cannot be used. -/
def Fault.BlamesPattern (f : Fault) : Prop :=
  "Invalid regular expression".toList <+: f.summary.toList

namespace Fault

theorem not_blamesPattern {f : Fault} {c : Char} (begins : f.message.toList.head? = some c) (other : c ≠ 'I') :
    ¬f.BlamesPattern := by
  have told : f.summary = f.message := by
    unfold summary
    refine if_neg fun blank => ?_
    rw [eq_of_beq blank] at begins
    cases begins
  rintro ⟨rest, same⟩
  rw [told] at same
  rw [← same] at begins
  cases begins
  exact other rfl

end Fault

/-- The outcome is no fault that is told in words about a pattern. -/
def SparesPatterns {α : Type} (outcome : Except Fault α) : Prop :=
  ∀ f, outcome = .error f → ¬f.BlamesPattern

section Outcomes

variable {α β : Type} {outcome : Except Fault α}

theorem sparesPatterns_ok (a : α) : SparesPatterns (.ok a : Except Fault α) := by
  rintro f ⟨⟩

theorem sparesPatterns_error {f : Fault} (spares : ¬f.BlamesPattern) : SparesPatterns (.error f : Except Fault α) := by
  rintro g ⟨⟩
  exact spares

theorem sparesPatterns_of_head {f : Fault} {c : Char} (begins : f.message.toList.head? = some c) (other : c ≠ 'I') :
    SparesPatterns (.error f : Except Fault α) :=
  sparesPatterns_error (Fault.not_blamesPattern begins other)

/-- A fault with words of its own is judged by how they begin. -/
theorem sparesPatterns_other {cls : FaultClass} {message : String} {c : Char}
    (begins : message.toList.head? = some c) (other : c ≠ 'I') :
    SparesPatterns (.error (.other cls message) : Except Fault α) :=
  sparesPatterns_of_head begins other

theorem SparesPatterns.bind {next : α → Except Fault β} (spares : SparesPatterns outcome)
    (further : ∀ a, outcome = .ok a → SparesPatterns (next a)) : SparesPatterns (outcome >>= next) := by
  cases found : outcome with
  | error f => exact sparesPatterns_error (spares f found)
  | ok a => exact further a found

theorem SparesPatterns.map (spares : SparesPatterns outcome) (g : α → β) : SparesPatterns (outcome.map g) := by
  cases found : outcome with
  | error f => exact sparesPatterns_error (spares f found)
  | ok a => exact sparesPatterns_ok _

end Outcomes

namespace Json

variable {style : Style}

theorem sparesPatterns_writeInt (i : Int) : SparesPatterns (writeInt i) := by
  unfold writeInt
  split
  · exact sparesPatterns_of_head (c := 'E') rfl (by decide)
  · exact sparesPatterns_ok _

theorem sparesPatterns_writeFloatIn (x : Float) : SparesPatterns (writeFloatIn style x) := by
  unfold writeFloatIn
  split
  · exact sparesPatterns_of_head (c := 'O') rfl (by decide)
  · exact sparesPatterns_ok _

theorem sparesPatterns_keyText (key : Data) : SparesPatterns (keyText style key) := by
  unfold keyText
  split
  case h_4 => exact sparesPatterns_writeInt _
  case h_5 => exact sparesPatterns_writeFloatIn _
  case h_6 => exact sparesPatterns_writeFloatIn _
  case h_7 => exact sparesPatterns_other (c := 'k') (by simp) (by decide)
  all_goals exact sparesPatterns_ok _

theorem sparesPatterns_text? (d : Data) : SparesPatterns d.text? := by
  unfold Data.text?
  split
  · exact sparesPatterns_of_head (c := 'E') rfl (by decide)
  · exact sparesPatterns_ok _

mutual

theorem sparesPatterns_writeIn (style : Style) (d : Data) : SparesPatterns (writeIn style d) := by
  cases d with
  | int i =>
      rw [writeIn]
      exact sparesPatterns_writeInt i
  | float x =>
      rw [writeIn]
      exact sparesPatterns_writeFloatIn x
  | nan mark =>
      rw [writeIn]
      exact sparesPatterns_writeFloatIn _
  | list items =>
      rw [writeIn]
      have spares := sparesPatterns_writeItems style [] items
      split
      · rename_i f failed
        exact sparesPatterns_error (spares f failed)
      · exact sparesPatterns_ok _
  | tuple items =>
      rw [writeIn]
      have spares := sparesPatterns_writeItems style [] items
      split
      · rename_i f failed
        exact sparesPatterns_error (spares f failed)
      · exact sparesPatterns_ok _
  | dict entries =>
      rw [writeIn]
      have spares := sparesPatterns_writeEntries style [] entries
      split
      · rename_i f failed
        exact sparesPatterns_error (spares f failed)
      · exact sparesPatterns_ok _
  | cycle kind =>
      rw [writeIn]
      exact sparesPatterns_of_head (c := 'C') rfl (by decide)
  | null | bool | str =>
      rw [writeIn]
      exact sparesPatterns_ok _
  | _ =>
      unfold writeIn
      split
      · exact (sparesPatterns_text? _).map _
      · exact sparesPatterns_other (c := 'O') (by simp) (by decide)

theorem sparesPatterns_writeItems (style : Style) (done : List String) (items : List Data) :
    SparesPatterns (writeItems style done items) := by
  cases items with
  | nil => exact sparesPatterns_ok _
  | cons item rest =>
      rw [writeItems]
      have spares := sparesPatterns_writeIn style item
      split
      · rename_i f failed
        exact sparesPatterns_error (spares f failed)
      · exact sparesPatterns_writeItems style _ rest

theorem sparesPatterns_writeEntries (style : Style) (done : List String) (entries : List (Data × Data)) :
    SparesPatterns (writeEntries style done entries) := by
  cases entries with
  | nil => exact sparesPatterns_ok _
  | cons entry rest =>
      obtain ⟨key, value⟩ := entry
      rw [writeEntries]
      have named : SparesPatterns (keyText style key) := sparesPatterns_keyText key
      have spares := sparesPatterns_writeIn style value
      split
      · rename_i f failed
        exact sparesPatterns_error (named f failed)
      · split
        · rename_i f failed
          exact sparesPatterns_error (spares f failed)
        · exact sparesPatterns_writeEntries style _ rest

end

end Json

theorem sparesPatterns_plain (d : Data) : SparesPatterns d.plain := by
  unfold Data.plain
  split
  case h_3 => exact Json.sparesPatterns_writeIn _ _
  case h_4 => exact Json.sparesPatterns_writeIn _ _
  case h_5 => exact Json.sparesPatterns_writeIn _ _
  case h_6 => exact Json.sparesPatterns_text? _
  all_goals exact sparesPatterns_ok _

namespace Condition

theorem sparesPatterns_indexOf (part : String) : SparesPatterns (indexOf part) := by
  refine SparesPatterns.map ?_ _
  unfold Number.spelledInt
  split
  · exact sparesPatterns_other (c := 'i') (by simp) (by decide)
  · split
    · exact sparesPatterns_other (c := 'E') (by simp) (by decide)
    · exact sparesPatterns_ok _

theorem sparesPatterns_itemAt {α : Type} (items : List α) (part : String) : SparesPatterns (itemAt items part) := by
  unfold itemAt
  split
  · exact (sparesPatterns_indexOf part).map _
  · exact sparesPatterns_ok _

theorem sparesPatterns_walk {α : Type} (o : Opening α) (value : α) (path : List String) :
    SparesPatterns (o.walk value path) := by
  induction path generalizing value with
  | nil => exact sparesPatterns_ok _
  | cons part rest ih =>
      have spares : SparesPatterns (o.step value part) := by
        unfold Opening.step
        split
        · exact sparesPatterns_ok _
        · split
          · exact sparesPatterns_itemAt _ _
          · exact sparesPatterns_ok _
      unfold Opening.walk
      split
      · rename_i f failed
        exact sparesPatterns_error (spares f failed)
      · exact sparesPatterns_ok _
      · exact ih _

theorem sparesPatterns_findIn {α : Type} (o : Opening α) (source : α) (name : String) :
    SparesPatterns (o.findIn source name) := by
  unfold Opening.findIn
  split
  · exact sparesPatterns_ok _
  · exact sparesPatterns_walk _ _ _

theorem sparesPatterns_resolveOn (h : Heap) (name : String) (input vars : Value) :
    SparesPatterns (resolveOn h name input vars) := by
  refine SparesPatterns.map ?_ _
  unfold Opening.find
  split
  · rename_i f failed
    exact sparesPatterns_error (sparesPatterns_findIn _ input name f failed)
  · exact sparesPatterns_ok _
  · exact sparesPatterns_findIn _ vars name

theorem sparesPatterns_toNumber (value : Data) : SparesPatterns (toNumber value) := by
  unfold toNumber
  split
  case h_2 =>
    unfold Number.floatOfInt
    dsimp only
    split
    · exact sparesPatterns_ok _
    · exact sparesPatterns_of_head (c := 'i') rfl (by decide)
  case h_4 =>
    dsimp only
    split
    · exact sparesPatterns_ok _
    · exact sparesPatterns_ok _
  all_goals exact sparesPatterns_ok _

variable {c : Condition}

/-- A pattern that can be read is not blamed, whether or not the case of letters counts. -/
theorem sparesPatterns_matchesExpected (usable : (Spot.pattern c.value).IsUsable) (value : Data) :
    SparesPatterns (c.matchesExpected value) := by
  cases usable with
  | pattern plain compiled =>
      obtain ⟨parsed, compiled⟩ := compiled !c.caseSensitive
      unfold matchesExpected
      rw [plain]
      refine (sparesPatterns_ok _).bind fun pattern same => ?_
      cases same
      refine (sparesPatterns_plain value).bind fun subject _ => ?_
      dsimp only
      rw [compiled]
      exact sparesPatterns_ok _

/-- A condition whose pattern, if it has one, can be read does not fail for the pattern. -/
theorem sparesPatterns_holds (usable : c.operator = .regex → (Spot.pattern c.value).IsUsable)
    {find : String → Except Fault Data} (finds : ∀ name, SparesPatterns (find name)) : SparesPatterns (c.holds find) := by
  unfold holds
  refine (finds c.subject).bind fun value _ => ?_
  split
  case h_3 =>
    refine (sparesPatterns_toNumber value).bind fun a _ => (sparesPatterns_toNumber c.value).bind fun b _ => ?_
    exact sparesPatterns_ok _
  case h_4 =>
    refine (sparesPatterns_toNumber value).bind fun a _ => (sparesPatterns_toNumber c.value).bind fun b _ => ?_
    exact sparesPatterns_ok _
  case h_5 =>
    refine (sparesPatterns_plain value).bind fun whole _ => (sparesPatterns_plain c.value).bind fun part _ => ?_
    split
    · exact sparesPatterns_ok _
    · exact sparesPatterns_ok _
  case h_6 asked => exact sparesPatterns_matchesExpected (usable asked) value
  all_goals exact sparesPatterns_ok _

theorem sparesPatterns_results {conditions : List Condition}
    (usable : ∀ c ∈ conditions, c.operator = .regex → (Spot.pattern c.value).IsUsable)
    {find : String → Except Fault Data} (finds : ∀ name, SparesPatterns (find name)) (done : List Bool) :
    SparesPatterns (results find done conditions) := by
  induction conditions generalizing done with
  | nil => exact sparesPatterns_ok _
  | cons c rest ih =>
      obtain ⟨first, further⟩ := List.forall_mem_cons.mp usable
      unfold results
      split
      · rename_i f failed
        exact sparesPatterns_error (sparesPatterns_holds first finds f failed)
      · exact ih further _

theorem sparesPatterns_evaluateOn {conditions : List Condition}
    (usable : ∀ c ∈ conditions, c.operator = .regex → (Spot.pattern c.value).IsUsable) (h : Heap) (logical : String)
    (input vars : Value) : SparesPatterns (evaluateOn h logical input vars conditions) := by
  have finds (name : String) : SparesPatterns ((resolveOn h name input vars).map h.view) :=
    (sparesPatterns_resolveOn h name input vars).map _
  exact (sparesPatterns_results usable finds []).map _

end Condition

end WorkflowEngine
