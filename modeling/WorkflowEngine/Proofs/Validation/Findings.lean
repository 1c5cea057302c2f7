import Mathlib
import WorkflowEngine.Definition.Reader
import WorkflowEngine.Definition.Writer
import WorkflowEngine.Validation.Checker

/-!
# Findings of the check

A check looks at the expressions of transformations and at the patterns of conditions.  Each of these texts is
well formed, or is refused in words that stand in the report under the id of its node, or makes the check itself
fail: an expression that holds a null character or half of a character, a value that cannot be written as a
text, a count of repetitions beyond the limit, options of a pattern that exclude each other.
-/

namespace WorkflowEngine

/-- What the check reads in a node. -/
inductive Spot where
  | expression (text : String)
  | pattern (value : Data)
deriving Repr, Inhabited

/-- What the check reads in a node, in order. -/
def Node.spots (n : Node) : List Spot :=
  match n.configured with
  | .transform c => [.expression c.expression]
  | .condition c => (c.conditions.filter fun x => x.operator == .regex).map fun x => .pattern x.value
  | _ => []

namespace Spot

/-- The text is well formed. -/
inductive IsSound : Spot → Prop where
  | expression {text : String} (readable : Expression.unreadable? (Text.trimChars text.toList) = none)
      (formed : Expression.Parser.isExpressionText (Text.trimChars text.toList) = true) : IsSound (.expression text)
  | pattern {value : Data} {text : String} {parsed : Pattern.Parsed} (plain : value.plain = .ok text)
      (compiled : Pattern.compile .none text = .ok parsed) : IsSound (.pattern value)

/-- The text is refused in these words. -/
inductive Refused : Spot → String → Prop where
  | expression {text : String} (readable : Expression.unreadable? (Text.trimChars text.toList) = none)
      (malformed : Expression.Parser.isExpressionText (Text.trimChars text.toList) = false) :
      Refused (.expression text) ("Invalid expression '" ++ text ++ "': <syntax>")
  | pattern {value : Data} {text reason shown : String} {p : Pattern.Problem} (plain : value.plain = .ok text)
      (refused : Pattern.compile .none text = .error p) (explained : p.explain text = .ok reason)
      (written : value.text? = .ok shown) :
      Refused (.pattern value) ("Invalid regular expression '" ++ shown ++ "': " ++ reason)

/-- The text makes the check itself fail. -/
inductive Breaks : Spot → Fault → Prop where
  | unreadable {text : String} {f : Fault} (found : Expression.unreadable? (Text.trimChars text.toList) = some f) :
      Breaks (.expression text) f
  | unwritable {value : Data} {f : Fault} (plain : value.plain = .error f) : Breaks (.pattern value) f
  | overflow {value : Data} {text : String} (plain : value.plain = .ok text)
      (refused : Pattern.compile .none text = .error .overflow) :
      Breaks (.pattern value) (.other .overflow "the repetition number is too large")
  | incompatible {value : Data} {text : String} (plain : value.plain = .ok text)
      (refused : Pattern.compile .none text = .error .incompatible) :
      Breaks (.pattern value) (.valued "ASCII and UNICODE flags are incompatible")
  | unshown {value : Data} {text reason : String} {p : Pattern.Problem} {f : Fault} (plain : value.plain = .ok text)
      (refused : Pattern.compile .none text = .error p) (explained : p.explain text = .ok reason)
      (unwritten : value.text? = .error f) : Breaks (.pattern value) f

/-- What is wrong with the text, if anything is. -/
def problem? : Spot → Except Fault (Option String)
  | .expression text => Expression.problem? text
  | .pattern value => Condition.patternProblem? value

theorem IsSound.problem?_eq {x : Spot} (sound : x.IsSound) : x.problem? = .ok none := by
  cases sound with
  | expression readable formed => simp [problem?, Expression.problem?, readable, formed]
  | pattern plain compiled =>
      change Condition.patternProblem? _ = _
      unfold Condition.patternProblem?
      rw [plain]
      simp only [bind, Except.bind, compiled]
      rfl

theorem Refused.problem?_eq {x : Spot} {message : String} (refused : x.Refused message) :
    x.problem? = .ok (some message) := by
  cases refused with
  | expression readable malformed => simp [problem?, Expression.problem?, readable, malformed]
  | pattern plain refused explained written =>
      change Condition.patternProblem? _ = _
      unfold Condition.patternProblem? Condition.explainPattern
      rw [plain]
      simp only [bind, Except.bind, refused, explained, written]
      rfl

theorem Breaks.problem?_eq {x : Spot} {f : Fault} (breaks : x.Breaks f) : x.problem? = .error f := by
  cases breaks with
  | unreadable found => simp [problem?, Expression.problem?, found]
  | unwritable plain =>
      change Condition.patternProblem? _ = _
      unfold Condition.patternProblem?
      rw [plain]
      rfl
  | overflow plain refused | incompatible plain refused =>
      change Condition.patternProblem? _ = _
      unfold Condition.patternProblem?
      rw [plain]
      simp only [bind, Except.bind, refused]
      rfl
  | unshown plain refused explained unwritten =>
      change Condition.patternProblem? _ = _
      unfold Condition.patternProblem? Condition.explainPattern
      rw [plain]
      simp only [bind, Except.bind, refused, explained, unwritten]

/-- There are no other texts. -/
theorem sound_or_refused_or_breaks (x : Spot) : x.IsSound ∨ (∃ message, x.Refused message) ∨ ∃ f, x.Breaks f := by
  cases x with
  | expression text =>
      cases found : Expression.unreadable? (Text.trimChars text.toList) with
      | some f => exact .inr (.inr ⟨f, .unreadable found⟩)
      | none =>
          cases formed : Expression.Parser.isExpressionText (Text.trimChars text.toList) with
          | true => exact .inl (.expression found formed)
          | false => exact .inr (.inl ⟨_, .expression found formed⟩)
  | pattern value =>
      cases plain : value.plain with
      | error f => exact .inr (.inr ⟨f, .unwritable plain⟩)
      | ok text =>
          cases compiled : Pattern.compile .none text with
          | ok parsed => exact .inl (.pattern plain compiled)
          | error p =>
              have shown (reason : String) (explained : p.explain text = .ok reason) :
                  (∃ message, (Spot.pattern value).Refused message) ∨ ∃ f, (Spot.pattern value).Breaks f := by
                cases written : value.text? with
                | ok shown => exact .inl ⟨_, .pattern plain compiled explained written⟩
                | error f => exact .inr ⟨f, .unshown plain compiled explained written⟩
              cases p with
              | refused message position => exact .inr (shown _ rfl)
              | unusable message => exact .inr (shown _ rfl)
              | overflow => exact .inr (.inr ⟨_, .overflow plain compiled⟩)
              | incompatible => exact .inr (.inr ⟨_, .incompatible plain compiled⟩)

theorem IsSound.not_breaks {x : Spot} (sound : x.IsSound) (f : Fault) : ¬x.Breaks f := by
  intro breaks
  cases sound.problem?_eq.symm.trans breaks.problem?_eq

theorem Refused.not_breaks {x : Spot} {message : String} (refused : x.Refused message) (f : Fault) : ¬x.Breaks f := by
  intro breaks
  cases refused.problem?_eq.symm.trans breaks.problem?_eq

end Spot

namespace Workflow

/-- Parts are checked until the check of one fails; otherwise the words for all refused parts are listed. -/
theorem problems_spec {α : Type} (check : α → Except Fault (Option String)) (done : List String) (xs : List α) :
    (∃ x ∈ xs, ∃ f, check x = .error f ∧ problems check done xs = .error f) ∨
      ∃ messages, problems check done xs = .ok (done.reverse ++ messages) ∧ (∀ x ∈ xs, ∃ r, check x = .ok r) ∧
        ∀ message, message ∈ messages ↔ ∃ x ∈ xs, check x = .ok (some message) := by
  induction xs generalizing done with
  | nil => exact .inr ⟨[], by simp [problems], by simp, by simp⟩
  | cons x rest ih =>
      unfold problems
      cases found : check x with
      | error f => exact .inl ⟨x, List.mem_cons_self, f, found, rfl⟩
      | ok r =>
          cases r with
          | none =>
              refine (ih done).imp ?_ ?_
              · rintro ⟨y, listed, failure⟩
                exact ⟨y, List.mem_cons_of_mem _ listed, failure⟩
              · rintro ⟨messages, listed, passed, spoken⟩
                exact ⟨messages, listed, by simpa [found] using passed, by simpa [found] using spoken⟩
          | some first =>
              refine (ih (first :: done)).imp ?_ ?_
              · rintro ⟨y, listed, failure⟩
                exact ⟨y, List.mem_cons_of_mem _ listed, failure⟩
              · rintro ⟨messages, listed, passed, spoken⟩
                refine ⟨first :: messages, by simpa using listed, by simpa [found] using passed, fun message => ?_⟩
                simp [found, spoken, eq_comm]

/-- Conditions without a pattern pass the check. -/
theorem problems_conditions (done : List String) (conditions : List Condition) :
    problems conditionProblem? done conditions = problems Spot.problem? done
      ((conditions.filter fun x => x.operator == .regex).map fun x => .pattern x.value) := by
  induction conditions generalizing done with
  | nil => rfl
  | cons c rest ih =>
      rw [problems, List.filter_cons]
      cases asked : c.operator == .regex with
      | false =>
          have passed : conditionProblem? c = .ok none := by rw [conditionProblem?, asked]; rfl
          rw [passed]
          exact ih done
      | true =>
          have read : conditionProblem? c = (Spot.pattern c.value).problem? := by rw [conditionProblem?, asked]; rfl
          rw [read, if_pos rfl, List.map_cons, problems]
          cases (Spot.pattern c.value).problem? with
          | error f => rfl
          | ok r => cases r <;> exact ih _

/-- The check of a node is the check of what is read in it. -/
theorem taskProblems_eq (n : Node) : taskProblems n = problems Spot.problem? [] n.spots := by
  unfold taskProblems Node.spots
  cases n.configured with
  | transform c => rfl
  | condition c => exact problems_conditions [] c.conditions
  | _ => rfl

/-- The check of a node ends in the fault of something that is read in it, or lists the words for what is refused. -/
theorem taskProblems_spec (n : Node) :
    (∃ x ∈ n.spots, ∃ f, x.Breaks f ∧ taskProblems n = .error f) ∨
      ∃ messages, taskProblems n = .ok messages ∧ (∀ x ∈ n.spots, x.IsSound ∨ ∃ message, x.Refused message) ∧
        ∀ message, message ∈ messages ↔ ∃ x ∈ n.spots, x.Refused message := by
  rw [taskProblems_eq]
  rcases problems_spec Spot.problem? [] n.spots with ⟨x, listed, f, found, failed⟩ | ⟨messages, found, passed, spoken⟩
  · left
    refine ⟨x, listed, f, ?_, failed⟩
    rcases x.sound_or_refused_or_breaks with sound | ⟨_, refused⟩ | ⟨g, breaks⟩
    · cases found.symm.trans sound.problem?_eq
    · cases found.symm.trans refused.problem?_eq
    · cases found.symm.trans breaks.problem?_eq
      exact breaks
  · have read : ∀ x ∈ n.spots, x.IsSound ∨ ∃ message, x.Refused message := by
      intro x listed
      obtain ⟨r, ok⟩ := passed x listed
      rcases x.sound_or_refused_or_breaks with sound | refused | ⟨g, breaks⟩
      · exact .inl sound
      · exact .inr refused
      · cases ok.symm.trans breaks.problem?_eq
    refine .inr ⟨messages, by simpa using found, read, fun message => ?_⟩
    rw [spoken]
    constructor
    · rintro ⟨x, listed, ok⟩
      rcases read x listed with sound | ⟨_, refused⟩
      · cases ok.symm.trans sound.problem?_eq
      · cases ok.symm.trans refused.problem?_eq
        exact ⟨x, listed, refused⟩
    · rintro ⟨x, listed, refused⟩
      exact ⟨x, listed, refused.problem?_eq⟩

/-- Nodes are checked until the check of one fails; otherwise all words are listed under the ids of their nodes. -/
theorem expressionErrors_spec (done : List DefinitionError) (nodes : List Node) :
    (∃ n ∈ nodes, ∃ x ∈ n.spots, ∃ f, x.Breaks f ∧ expressionErrors done nodes = .error f) ∨
      ∃ errors, expressionErrors done nodes = .ok (done ++ errors) ∧
        (∀ n ∈ nodes, ∀ x ∈ n.spots, x.IsSound ∨ ∃ message, x.Refused message) ∧
        ∀ e, e ∈ errors ↔ ∃ n ∈ nodes, ∃ x ∈ n.spots, ∃ message, x.Refused message ∧ e = expressionError n.id message := by
  induction nodes generalizing done with
  | nil => exact .inr ⟨[], by simp [expressionErrors], by simp, by simp⟩
  | cons n rest ih =>
      unfold expressionErrors
      rcases taskProblems_spec n with ⟨x, listed, f, breaks, failed⟩ | ⟨messages, found, read, said⟩
      · exact .inl ⟨n, List.mem_cons_self, x, listed, f, breaks, by rw [failed]⟩
      · rw [found]
        refine (ih (done ++ messages.map (expressionError n.id))).imp ?_ ?_
        · rintro ⟨m, listed, failure⟩
          exact ⟨m, List.mem_cons_of_mem _ listed, failure⟩
        · rintro ⟨errors, listed, sound, all⟩
          refine ⟨messages.map (expressionError n.id) ++ errors, by simpa using listed, ?_, fun e => ?_⟩
          · exact List.forall_mem_cons.mpr ⟨read, sound⟩
          · simp only [List.mem_append, List.mem_map, said, all, List.mem_cons, exists_eq_or_imp]
            refine or_congr_left ⟨?_, ?_⟩
            · rintro ⟨message, ⟨x, listed, refused⟩, rfl⟩
              exact ⟨x, listed, message, refused, rfl⟩
            · rintro ⟨x, listed, message, refused, rfl⟩
              exact ⟨message, ⟨x, listed, refused⟩, rfl⟩

variable {w : Workflow} {e : DefinitionError}

theorem kind_of_mem_triggerErrors (listed : e ∈ w.triggerErrors) : e.kind = .missingConnection := by
  unfold triggerErrors at listed
  split at listed
  · cases List.mem_singleton.mp listed
    rfl
  · cases listed

theorem edgeId_of_mem_triggerErrors (listed : e ∈ w.triggerErrors) : e.edgeId = none := by
  unfold triggerErrors at listed
  split at listed
  · cases List.mem_singleton.mp listed
    rfl
  · cases listed

/-- What is found about the ends of an edge names the edge. -/
theorem of_mem_endErrors {ids : List String} {edge : Edge} (listed : e ∈ endErrors ids edge) :
    e.kind = .missingConnection ∧ e.edgeId = some edge.id := by
  simp only [endErrors, List.mem_append] at listed
  rcases listed with listed | listed
  all_goals
    split at listed
    · cases listed
    · cases List.mem_singleton.mp listed
      exact ⟨rfl, rfl⟩

theorem kind_of_mem_edgeErrors (listed : e ∈ w.edgeErrors) : e.kind = .missingConnection := by
  obtain ⟨edge, -, listed⟩ := List.mem_flatMap.mp listed
  exact (of_mem_endErrors listed).1

theorem kind_of_mem_cycleErrors (listed : e ∈ w.cycleErrors) : e.kind = .circularDependency := by
  unfold cycleErrors at listed
  split at listed
  · cases List.mem_singleton.mp listed
    rfl
  · cases listed

theorem kind_of_mem_expressionErrors {nodes : List Node} {errors : List DefinitionError}
    (found : expressionErrors [] nodes = .ok errors) (listed : e ∈ errors) : e.kind = .invalidExpression := by
  rcases expressionErrors_spec [] nodes with ⟨-, -, -, -, f, -, failed⟩ | ⟨errors', said, -, all⟩
  · cases found.symm.trans failed
  · obtain rfl : errors = errors' := Except.ok.inj (found.symm.trans said)
    obtain ⟨n, -, x, -, message, -, rfl⟩ := (all e).mp listed
    rfl

/-- A report lists what all parts of a check find, that of the expressions last. -/
theorem validate_eq_ok {r : Report} (checked : w.validate = .ok r) :
    ∃ expressions, expressionErrors [] w.nodes = .ok expressions ∧
      r = .of (w.triggerErrors ++ w.edgeErrors ++ w.cycleErrors ++ expressions) (w.connectionWarnings ++ w.endWarnings) := by
  unfold validate at checked
  split at checked
  · cases checked
  · rename_i expressions listed
    cases checked
    exact ⟨expressions, listed, rfl⟩

/-- A check fails exactly where some text makes it fail.  Otherwise every text is well formed or refused, and the
report names all that are refused under the ids of their nodes, and nothing else, as invalid expressions. -/
theorem validate_breaks_or_reports (w : Workflow) :
    (∃ n ∈ w.nodes, ∃ x ∈ n.spots, ∃ f, x.Breaks f ∧ w.validate = .error f) ∨
      ∃ r, w.validate = .ok r ∧
        (∀ n ∈ w.nodes, ∀ x ∈ n.spots, (∀ f, ¬x.Breaks f) ∧ (x.IsSound ∨ ∃ message, x.Refused message)) ∧
        ∀ e, e ∈ r.errors ∧ e.kind = .invalidExpression ↔
          ∃ n ∈ w.nodes, ∃ x ∈ n.spots, ∃ message, x.Refused message ∧ e = expressionError n.id message := by
  unfold validate
  rcases expressionErrors_spec [] w.nodes with ⟨n, listed, x, read, f, breaks, failed⟩ | ⟨errors, found, sound, all⟩
  · exact .inl ⟨n, listed, x, read, f, breaks, by rw [failed]⟩
  · rw [List.nil_append] at found
    refine .inr ⟨_, by rw [found], fun n listed x read => ⟨fun f => ?_, sound n listed x read⟩, fun e => ?_⟩
    · rcases sound n listed x read with sound | ⟨message, refused⟩
      · exact sound.not_breaks f
      · exact refused.not_breaks f
    · rw [← all]
      constructor
      · rintro ⟨listed, kind⟩
        simp only [Report.of, List.mem_append] at listed
        rcases listed with ((listed | listed) | listed) | listed
        · cases kind.symm.trans (kind_of_mem_triggerErrors listed)
        · cases kind.symm.trans (kind_of_mem_edgeErrors listed)
        · cases kind.symm.trans (kind_of_mem_cycleErrors listed)
        · exact listed
      · intro listed
        obtain ⟨n, -, x, -, message, -, rfl⟩ := (all e).mp listed
        exact ⟨List.mem_append_right _ listed, rfl⟩

/-- A condition that asks for more repetitions than can be counted. -/
def overcounting : Workflow :=
  ⟨"w", 1, "", [⟨"t", "", .trigger, none⟩, ⟨"c", "", .condition ⟨[⟨"x", .regex, .str "a\x7b4294967296\x7d", true⟩], .every⟩, none⟩],
    [⟨"1", "t", "c", none, none⟩], .stop⟩

theorem validate_fails_on_overcounting :
    Workflow.read overcounting.fields.toData = .ok overcounting ∧ ¬∃ r, overcounting.validate = .ok r := by
  have failed : overcounting.validate = .error (.other .overflow "the repetition number is too large") := by cbv
  refine ⟨by cbv, ?_⟩
  rintro ⟨r, reported⟩
  cases failed.symm.trans reported

end Workflow

end WorkflowEngine

/-!
## Valid definitions

What a report without errors says about a definition: it has a trigger, its edges join nodes, and its
edges close no cycle.
-/

namespace WorkflowEngine.Workflow

variable {w : Workflow} {r : Report}

/-- What walks rely on. -/
structure Sound (w : Workflow) : Prop where
  triggered : w.triggers ≠ []
  /-- Both ends of every edge are nodes. -/
  connected : ∀ e ∈ w.edges, e.source ∈ w.nodeIds ∧ e.target ∈ w.nodeIds
  acyclic : w.hasCycle = false

/-- A valid report comes from a check that found nothing wrong in any part. -/
theorem errors_of_valid (checked : w.validate = .ok r) (valid : r.valid = true) :
    w.triggerErrors = [] ∧ w.edgeErrors = [] ∧ w.cycleErrors = [] ∧ expressionErrors [] w.nodes = .ok [] := by
  obtain ⟨expressions, listed, rfl⟩ := validate_eq_ok checked
  have nothing : w.triggerErrors ++ w.edgeErrors ++ w.cycleErrors ++ expressions = [] := List.isEmpty_iff.mp valid
  simp only [List.append_eq_nil_iff, and_assoc] at nothing
  exact ⟨nothing.1, nothing.2.1, nothing.2.2.1, nothing.2.2.2 ▸ listed⟩

/-- The check for the ends of an edge finds nothing wrong only if both are nodes. -/
theorem endErrors_eq_nil_iff {ids : List String} {e : Edge} :
    endErrors ids e = [] ↔ e.source ∈ ids ∧ e.target ∈ ids := by
  simp [endErrors]

/-- A definition with a valid report is sound. -/
theorem sound_of_valid (checked : w.validate = .ok r) (valid : r.valid = true) : w.Sound := by
  obtain ⟨trigger, edges, cycle, -⟩ := errors_of_valid checked valid
  constructor
  · intro lacking
    rw [triggerErrors, lacking] at trigger
    cases trigger
  · intro e listed
    exact endErrors_eq_nil_iff.mp (List.flatMap_eq_nil_iff.mp edges e listed)
  · rw [cycleErrors] at cycle
    split at cycle
    · cases cycle
    · rename_i unclosed
      exact Bool.eq_false_iff.mpr unclosed

end WorkflowEngine.Workflow
