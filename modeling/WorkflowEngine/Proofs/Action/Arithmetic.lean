import WorkflowEngine.Proofs.Action.Desk
import WorkflowEngine.Proofs.Number.Arithmetic

/-!
# Arithmetic on a field

The action that does arithmetic refuses a field without a number, an operation that it does not know and a division by
zero.  `mathOperation_outcome` says what it does otherwise: with a real number for an operand it comes to a real number,
unless some number is too large for a double or too long to be written; with any other operand it never does.
-/

namespace WorkflowEngine.Builtin

open Work Eval

variable {h : Heap} {input : Value} {named : Named} {d : Desk}

/-! ## What is to be computed -/

/-- The value of a field of the input, which is zero where there is none. -/
def currentOf (h : Heap) (input field : Value) : Value :=
  match input with
  | .dict a => (h.lookup (h.entries a) field).getD (.int 0)
  | _ => .int 0

/-- The field may be a key, unless there are no fields to look it up in. -/
def CanLookUp (h : Heap) (input field : Value) : Prop :=
  ∀ a, input = .dict a → (h.view field).unhashable? = none

/-- An operation on the value of a field and an operand. -/
structure Calculation where
  operation : Value
  current : Value
  operand : Value

/-- The field that arithmetic is done on. -/
def fieldIn (named : Named) : Value :=
  (named.lookup "field").getD (.str "value")

/-- What the parameters ask for. -/
def calculationOf (h : Heap) (input : Value) (named : Named) : Calculation :=
  ⟨(named.lookup "operation").getD (.str "add"), currentOf h input (fieldIn named),
    (named.lookup "operand").getD (.float 1.0)⟩

/-- The integer has no more digits than may be written. -/
def IsShort (i : Int) : Prop :=
  Decimal.digitCount i.natAbs ≤ Decimal.digitLimit

instance (i : Int) : Decidable (IsShort i) :=
  inferInstanceAs (Decidable (_ ≤ _))

/-- The operations whose results on integers are integers. -/
def onInts? : Value → Option (Int → Int → Int)
  | .str "add" => some (· + ·)
  | .str "subtract" => some (· - ·)
  | .str "multiply" => some (· * ·)
  | _ => none

namespace Calculation

variable {c : Calculation}

/-- The field holds a number, the operation is known, and it is no division by zero. -/
structure IsPosed (h : Heap) (c : Calculation) : Prop where
  numeric : isNumeric c.current = true
  known : (operation? c.operation).isSome = true
  divisible : (c.operation == .str "divide" && h.equals c.operand (.int 0)) = false

/-- The operand is a real number. -/
def IsReal (c : Calculation) : Prop :=
  ∃ n, c.operand.number? = some n ∧ n.IsReal

/-- A number that has to be a double is too large for one. -/
def Overflows (c : Calculation) : Prop :=
  ∃ m n, c.current.number? = some m ∧ c.operand.number? = some n ∧
    Number.Overflows (c.operation == .str "divide") m n

/-- No part of the calculation holds an integer that is too long to be written, nor does the result. -/
def IsWritable (h : Heap) (c : Calculation) (result : Value) : Prop :=
  ∀ v ∈ [c.operation, c.current, c.operand, result], (h.view v).isOverlong = false

/-- The line about a result for the journal. -/
def line (h : Heap) (c : Calculation) (result : Value) : Except Fault String := do
  return "math_operation " ++ (← (h.view c.operation).text?) ++ "(" ++ (← (h.view c.current).text?) ++ ", " ++
    (← (h.view c.operand).text?) ++ ") = " ++ (← (h.view result).text?)

end Calculation

/-- The work fails for a value of the right kind. -/
def Refuses (reply : Except Interruption Value × Desk) : Prop :=
  ∃ f : Fault, reply.1 = .error (.fault f) ∧ f.cls = .value

/-- The work comes to a dictionary with the result, and what was asked for. -/
def Answers (reply : Except Interruption Value × Desk) (c : Calculation) (result : Value) : Prop :=
  ∃ a, reply.1 = .ok (.dict a) ∧ reply.2.heap.cell? a =
    some (.dict [(.str "result", result), (.str "operation", c.operation), (.str "operand", c.operand)])

/-! ## The steps of the action -/

/-- A value may be a key unless it has a part that may not. -/
theorem gives_requireKey (h : Heap) (v : Value) :
    Gives h (requireKey v) ((h.view v).unhashable?.elim (.ok ()) fun kind => .error (.unhashable kind)) := by
  unfold requireKey
  split
  · exact gives_pure h ()
  · refine (gives_view h v).bind ?_
    cases (h.view v).unhashable? with
    | none => exact gives_pure h ()
    | some kind => exact gives_fail h (.unhashable kind)

theorem gives_fieldOf {field : Value} (able : CanLookUp h input field) :
    Gives h (fieldOf input field) (.ok (currentOf h input field)) := by
  cases input with
  | dict a =>
      have required := gives_requireKey h field
      rw [able a rfl] at required
      exact required.bind fun _ => rfl
  | _ => exact gives_pure h (Value.int 0)

theorem gives_fieldOf_unable {field : Value} (unable : ¬ CanLookUp h input field) :
    ∃ kind, Gives h (fieldOf input field) (.error (.unhashable kind)) := by
  unfold CanLookUp at unable
  push Not at unable
  obtain ⟨a, rfl, some⟩ := unable
  obtain ⟨kind, unhashable⟩ := Option.ne_none_iff_exists'.mp some
  have required := gives_requireKey h field
  rw [unhashable] at required
  exact ⟨kind, required.stop⟩

/-- The line is written part by part. -/
theorem gives_line (h : Heap) (c : Calculation) (result : Value) :
    Gives h (do
      return "math_operation " ++ (← Eval.text c.operation) ++ "(" ++ (← Eval.text c.current) ++ ", " ++
        (← Eval.text c.operand) ++ ") = " ++ (← Eval.text result)) (c.line h result) :=
  (gives_text h c.operation).seq fun _ => (gives_text h c.current).seq fun _ =>
    (gives_text h c.operand).seq fun _ => (gives_text h result).seq fun _ => gives_pure h _

theorem Calculation.line_cases (h : Heap) (c : Calculation) (result : Value) :
    (c.IsWritable h result ∧ ∃ s, c.line h result = .ok s) ∨
      (¬ c.IsWritable h result ∧ c.line h result = .error .tooManyDigits) := by
  have short (v : Value) (fits : (h.view v).isOverlong = false) : (h.view v).text? = .ok (h.view v).text :=
    if_neg (by rw [fits]; exact Bool.false_ne_true)
  have long (v : Value) (many : (h.view v).isOverlong = true) : (h.view v).text? = .error .tooManyDigits :=
    if_pos many
  unfold Calculation.line Calculation.IsWritable
  cases operation : (h.view c.operation).isOverlong with
  | true => exact .inr ⟨by simp [operation], by rw [long _ operation]; rfl⟩
  | false => cases current : (h.view c.current).isOverlong with
    | true => exact .inr ⟨by simp [current], by rw [short _ operation, long _ current]; rfl⟩
    | false => cases operand : (h.view c.operand).isOverlong with
      | true => exact .inr ⟨by simp [operand], by rw [short _ operation, short _ current, long _ operand]; rfl⟩
      | false =>
          rw [short _ operation, short _ current, short _ operand]
          cases shown : (h.view result).isOverlong with
          | true => exact .inr ⟨by simp [shown], by rw [long _ shown]; rfl⟩
          | false => exact .inl ⟨by simp [operation, current, operand, shown], by rw [short _ shown]; exact ⟨_, rfl⟩⟩

/-- What the action does with a result: it writes a line into the journal and answers. -/
def answer (c : Calculation) (result : Value) : Work Value := do
  let shown ← onHeap do
    return "math_operation " ++ (← Eval.text c.operation) ++ "(" ++ (← Eval.text c.current) ++ ", " ++
      (← Eval.text c.operand) ++ ") = " ++ (← Eval.text result)
  note .debug source shown
  onHeap (Eval.newDict [(.str "result", result), (.str "operation", c.operation), (.str "operand", c.operand)])

/-- What the action does with the value of the field. -/
def calculate (field : Value) (c : Calculation) : Work Value := do
  if !isNumeric c.current then
    let name ← onHeap (Eval.text field)
    let shown ← onHeap (Eval.source c.current)
    fail (.valued ("Field '" ++ name ++ "' is not numeric: " ++ shown))
  else
    match operation? c.operation with
    | none => fail (.valued ("Unknown operation: " ++ (← onHeap (Eval.text c.operation))))
    | some apply =>
      if c.operation == .str "divide" && (← onHeap (Eval.equals c.operand (.int 0))) then
        note .error source "Division by zero attempted"
        fail (.valued "Cannot divide by zero")
      else
        let result ← onHeap (apply c.current c.operand)
        answer c result

/-- The action reads the field and calculates. -/
theorem run_mathOperation (able : CanLookUp d.heap input (fieldIn named)) :
    (mathOperation input named).run d = (calculate (fieldIn named) (calculationOf d.heap input named)).run d :=
  run_reading_bind (gives_fieldOf able)

theorem run_mathOperation_unable (unable : ¬ CanLookUp d.heap input (fieldIn named)) :
    ∃ kind, (mathOperation input named).run d = (.error (.fault (.unhashable kind)), d) := by
  obtain ⟨kind, missing⟩ := gives_fieldOf_unable unable
  exact ⟨kind, run_reading_stop missing⟩

/-- A result that can be written is answered; otherwise the work fails. -/
theorem run_answer (c : Calculation) (result : Value) (d : Desk) :
    (c.IsWritable d.heap result → Answers ((answer c result).run d) c result) ∧
      (¬ c.IsWritable d.heap result → (answer c result).run d = (.error (.fault .tooManyDigits), d)) := by
  have line := gives_line d.heap c result
  unfold answer
  rcases c.line_cases d.heap result with ⟨able, s, shown⟩ | ⟨unable, long⟩
  · rw [shown] at line
    refine ⟨fun _ => ?_, fun unable => absurd able unable⟩
    rw [run_reading_bind line, run_noting_bind, run_newDict]
    exact ⟨_, rfl, Array.getElem?_push_size⟩
  · rw [long] at line
    exact ⟨fun able => absurd able unable, fun _ => run_reading_stop line⟩

/-! ## The operations on values -/

section Operations

variable {operation : Number → Number → Except Fault Number} {otherwise : Eval Value} {a b v : Value} {m n k : Number}
  {h' : Heap} {f : Fault}

theorem arithmetic_eq (left : a.number? = some m) (right : b.number? = some n) :
    Value.arithmetic operation otherwise a b = (lift (operation m n) >>= number) := by
  rw [Value.arithmetic, left, right]

theorem arithmetic_eq_otherwise (right : b.number? = none) : Value.arithmetic operation otherwise a b = otherwise := by
  rw [Value.arithmetic, right]
  cases a.number? <;> rfl

theorem run_arithmetic_error (left : a.number? = some m) (right : b.number? = some n)
    (failed : operation m n = .error f) : (Value.arithmetic operation otherwise a b).run h = (.error f, h) := by
  rw [arithmetic_eq left right, failed]
  rfl

theorem run_arithmetic_ok (left : a.number? = some m) (right : b.number? = some n) (done : operation m n = .ok k) :
    (Value.arithmetic operation otherwise a b).run h = (number k).run h := by
  rw [arithmetic_eq left right, done]
  rfl

/-- A real number as a value is a number. -/
theorem run_number_of_real (real : k.IsReal) : ∃ v h', (number k).run h = (.ok v, h') ∧ isNumeric v = true := by
  cases k with
  | complex re im => exact real.elim
  | int i => exact ⟨.int i, h, rfl, rfl⟩
  | float x =>
      cases missing : x.isNaN with
      | true =>
          refine ⟨.nan h.marks, h.freshMark.2, ?_, rfl⟩
          change (Eval.float x).run h = _
          rw [Eval.float, missing]
          rfl
      | false =>
          refine ⟨.float x, h, ?_, rfl⟩
          change (Eval.float x).run h = _
          rw [Eval.float, missing]
          rfl

theorem number?_of_isNumeric (numeric : isNumeric v = true) : ∃ m, v.number? = some m ∧ m.IsReal := by
  cases v <;> first | exact ⟨_, rfl, trivial⟩ | cases numeric

/-- A value is equal to zero as the number that it counts as is. -/
theorem equals_zero (counted : v.number? = some m) : h.equals v (.int 0) = m.equals (.int 0) := by
  cases v with
  | int i =>
      cases counted
      change (i == 0) = (some (compare i 0) == some Ordering.eq)
      rw [Bool.eq_iff_iff, beq_iff_eq, beq_iff_eq, Option.some_inj, compare_eq_iff_eq]
  | nan mark =>
      cases counted
      exact (by decide +kernel : Number.equals (.float Decimal.missingNumber) (.int 0) = false).symm
  | _ =>
      cases counted
      try rfl

/-- A repeated sequence is no number. -/
theorem not_numeric_of_replicate {i : Int} (sequence : a.isSequence = true)
    (done : (Value.replicate a i).run h = (.ok v, h')) : isNumeric v = false := by
  unfold Value.replicate at done
  split at done
  · cases done
  · cases a with
    | tuple a =>
        change (if i.toNat == 1 then pure (.tuple a)
          else newTuple (List.replicate i.toNat (h.items a)).flatten : Eval Value).run h = _ at done
        split at done
        · cases done
          rfl
        · cases done
          rfl
    | _ =>
        cases sequence
        try
          cases done
          rfl

/-- Beside a number, only numbers and sequences have a meaning for an operation. -/
theorem eq_unsupported_of_numeric (numeric : isNumeric a = true) (other : b.number? = none) :
    Value.add a b = Value.unsupported "+" a b ∧ Value.subtract a b = Value.unsupported "-" a b ∧
      (b.isSequence = false → Value.multiply a b = Value.unsupported "*" a b) ∧
      Value.divide a b = Value.unsupported "/" a b := by
  refine ⟨?_, ?_, fun single => ?_, arithmetic_eq_otherwise other⟩
  · cases a <;> cases numeric <;> exact arithmetic_eq_otherwise other
  · cases a <;> cases numeric <;> exact arithmetic_eq_otherwise other
  · unfold Value.multiply
    rw [arithmetic_eq_otherwise other, single]
    cases a <;> cases numeric <;> rfl

/-- A sequence is repeated so many times as an integer says. -/
theorem multiply_sequence (numeric : isNumeric a = true) (other : b.number? = none) (sequence : b.isSequence = true) :
    Value.multiply a b = (match a.int? with
      | some i => Value.replicate b i
      | none => fail (.typed ("can't multiply sequence by non-int of type '" ++ a.kindOf.name ++ "'"))) := by
  unfold Value.multiply
  rw [arithmetic_eq_otherwise other, sequence]
  cases a <;> cases numeric <;> rfl

/-- What comes out is no number unless the operation comes to a real one. -/
theorem not_numeric_of_arithmetic (left : a.number? = some m) (right : b.number? = some n)
    (unreal : ∀ k, operation m n = .ok k → ¬ k.IsReal)
    (done : (Value.arithmetic operation otherwise a b).run h = (.ok v, h')) : isNumeric v = false := by
  cases outcome : operation m n with
  | error f =>
      rw [run_arithmetic_error left right outcome] at done
      cases done
  | ok k =>
      rw [run_arithmetic_ok left right outcome] at done
      cases k with
      | complex re im =>
          cases done
          rfl
      | int i => exact absurd trivial (unreal _ outcome)
      | float x => exact absurd trivial (unreal _ outcome)

end Operations

section Known

variable {operation a b v : Value} {apply : Value → Value → Eval Value} {m n : Number} {h' : Heap}

/-- Division is one operation; the others combine numbers of all kinds alike, and are exact on integers. -/
theorem operation?_cases (known : operation? operation = some apply) :
    (operation = .str "divide" ∧ apply = Value.divide) ∨
      ((operation == .str "divide") = false ∧ ∃ ints floats pairs, onInts? operation = some ints ∧
        ∀ a b, ∃ otherwise, apply a b = Value.arithmetic (Number.combine ints floats pairs) otherwise a b) := by
  unfold operation? at known
  split at known <;> cases known
  · exact .inr ⟨by decide, _, _, _, rfl, fun a b => ⟨_, rfl⟩⟩
  · exact .inr ⟨by decide, _, _, _, rfl, fun a b => ⟨_, rfl⟩⟩
  · exact .inr ⟨by decide, _, _, _, rfl, fun a b => ⟨_, rfl⟩⟩
  · exact .inl ⟨rfl, rfl⟩

theorem known_of_onInts {f : Int → Int → Int} (whole : onInts? operation = some f) :
    (operation? operation).isSome = true ∧ (operation == .str "divide") = false ∧ ∃ name, operation = .str name := by
  unfold onInts? at whole
  split at whole <;> cases whole <;> exact ⟨rfl, by decide, _, rfl⟩

/-- Real numbers come to a real number, unless one of them is too large for a double. -/
theorem run_apply_of_real (known : operation? operation = some apply) (left : a.number? = some m)
    (right : b.number? = some n) (real : m.IsReal) (real' : n.IsReal)
    (divisible : (operation == .str "divide" && n.equals (.int 0)) = false) :
    (¬ Number.Overflows (operation == .str "divide") m n →
      ∃ v h', (apply a b).run h = (.ok v, h') ∧ isNumeric v = true) ∧
      (Number.Overflows (operation == .str "divide") m n →
        ∃ f : Fault, (apply a b).run h = (.error f, h) ∧ f.cls = .overflow) := by
  rcases operation?_cases known with ⟨rfl, rfl⟩ | ⟨other, ints, floats, pairs, -, form⟩
  · obtain ⟨comes, fails⟩ := Number.divide_of_real real real' divisible
    constructor
    · intro within
      obtain ⟨x, done⟩ := comes within
      have ran : (Value.divide a b).run h = (number (.float x)).run h := run_arithmetic_ok left right done
      rw [ran]
      exact run_number_of_real trivial
    · intro beyond
      obtain ⟨f, failed, cls⟩ := fails beyond
      exact ⟨f, run_arithmetic_error left right failed, cls⟩
  · obtain ⟨otherwise, shape⟩ := form a b
    obtain ⟨comes, fails⟩ := Number.combine_of_real ints floats pairs real real'
    rw [other, shape]
    constructor
    · intro within
      obtain ⟨k, done_real, done⟩ := comes within
      rw [run_arithmetic_ok left right done]
      exact run_number_of_real done_real
    · intro beyond
      exact ⟨.tooLargeForFloat, run_arithmetic_error left right (fails beyond), rfl⟩

/-- Integers come to the exact integer. -/
theorem run_apply_int {f : Int → Int → Int} {j : Int} (known : operation? operation = some apply)
    (whole : onInts? operation = some f) (right : b.int? = some j) (i : Int) :
    (apply (.int i) b).run h = (.ok (.int (f i j)), h) := by
  have counted : b.number? = some (.int j) := by
    cases b <;> cases right <;> rfl
  rcases operation?_cases known with ⟨rfl, -⟩ | ⟨-, ints, floats, pairs, same, form⟩
  · cases whole
  · obtain ⟨otherwise, shape⟩ := form (.int i) b
    obtain rfl : ints = f := Option.some.inj (same.symm.trans whole)
    have combined : Number.combine ints floats pairs (.int i) (.int j) = .ok (.int (ints i j)) := rfl
    rw [shape, run_arithmetic_ok (m := .int i) rfl counted combined]
    rfl

/-- A number and what is no real number never come to a real number. -/
theorem not_numeric_of_apply (known : operation? operation = some apply) (numeric : isNumeric a = true)
    (unreal : ∀ n, b.number? = some n → ¬ n.IsReal) (done : (apply a b).run h = (.ok v, h')) : isNumeric v = false := by
  cases counted : b.number? with
  | none =>
      obtain ⟨added, subtracted, multiplied, divided⟩ := eq_unsupported_of_numeric numeric counted
      unfold operation? at known
      split at known <;> cases known
      · rw [added] at done
        cases done
      · rw [subtracted] at done
        cases done
      · cases sequence : b.isSequence with
        | false =>
            rw [multiplied sequence] at done
            cases done
        | true =>
            rw [multiply_sequence numeric counted sequence] at done
            split at done
            · exact not_numeric_of_replicate sequence done
            · cases done
      · rw [divided] at done
        cases done
  | some n =>
      obtain ⟨m, left, -⟩ := number?_of_isNumeric numeric
      cases n with
      | int j => exact absurd trivial (unreal _ counted)
      | float y => exact absurd trivial (unreal _ counted)
      | complex re im =>
          rcases operation?_cases known with ⟨rfl, rfl⟩ | ⟨-, ints, floats, pairs, -, form⟩
          · exact not_numeric_of_arithmetic left counted (fun k => Number.not_isReal_of_divide) done
          · obtain ⟨otherwise, shape⟩ := form a b
            rw [shape] at done
            exact not_numeric_of_arithmetic left counted (fun k => Number.not_isReal_of_combine) done

end Known

/-! ## The action -/

/-- Work is refused where something that it reads is, or all that follows. -/
theorem refuses_of_reading {α : Type} {e : Eval α} {outcome : Except Fault α} {k : α → Work Value}
    (gives : Gives d.heap e outcome) (failing : ∀ f, outcome = .error f → f.cls = .value)
    (rest : ∀ v, Refuses ((k v).run d)) : Refuses ((onHeap e >>= k).run d) := by
  cases outcome with
  | error f =>
      rw [run_reading_stop gives]
      exact ⟨f, rfl, failing f rfl⟩
  | ok v =>
      rw [run_reading_bind gives]
      exact rest v

theorem refuses_of_text {v : Value} {k : String → Work Value} (rest : ∀ s, Refuses ((k s).run d)) :
    Refuses ((onHeap (Eval.text v) >>= k).run d) := by
  refine refuses_of_reading (gives_text d.heap v) (fun f failed => ?_) rest
  unfold Data.text? at failed
  split at failed <;> cases failed
  rfl

theorem refuses_of_source {v : Value} {k : String → Work Value} (rest : ∀ s, Refuses ((k s).run d)) :
    Refuses ((onHeap (Eval.source v) >>= k).run d) := by
  refine refuses_of_reading (gives_source d.heap v) (fun f failed => ?_) rest
  unfold Data.source? at failed
  split at failed <;> cases failed
  rfl

theorem refuses_valued (message : String) (d : Desk) : Refuses ((Work.fail (.valued message) : Work Value).run d) :=
  ⟨.valued message, rfl, rfl⟩

/-- A field without a number, an unknown operation and a division by zero are refused. -/
theorem refuses_calculate {c : Calculation} (field : Value) (idle : ¬ c.IsPosed d.heap) :
    Refuses ((calculate field c).run d) := by
  unfold calculate
  cases numeric : isNumeric c.current with
  | false => exact refuses_of_text fun name => refuses_of_source fun shown => refuses_valued _ d
  | true =>
      rw [if_neg (by decide)]
      cases known : operation? c.operation with
      | none => exact refuses_of_text fun name => refuses_valued _ d
      | some apply =>
          have zero : (c.operation == .str "divide" && d.heap.equals c.operand (.int 0)) = true := by
            by_contra divisible
            exact idle ⟨numeric, by rw [known]; rfl, Bool.eq_false_iff.mpr divisible⟩
          dsimp only
          rw [run_reading_bind (gives_equals d.heap _ _), if_pos zero, run_noting_bind]
          exact refuses_valued _ _

/-- Anything else is computed, and the result is answered. -/
theorem run_calculate {c : Calculation} (field : Value) (posed : c.IsPosed d.heap) :
    ∃ apply, operation? c.operation = some apply ∧
      (calculate field c).run d = (onHeap (apply c.current c.operand) >>= answer c).run d := by
  obtain ⟨apply, known⟩ := Option.isSome_iff_exists.mp posed.known
  refine ⟨apply, known, ?_⟩
  unfold calculate
  rw [posed.numeric, if_neg (by decide), known]
  dsimp only
  rw [run_reading_bind (gives_equals d.heap _ _), if_neg (Bool.eq_false_iff.mp posed.divisible)]

/-! ## What the action comes to -/

section Outcome

variable {c : Calculation} {field : Value}

/-- A real number comes out for real numbers, unless one of them is too large; and it is answered if it can be
written. -/
theorem run_calculate_of_real (posed : c.IsPosed d.heap) (real : c.IsReal) :
    (¬ c.Overflows → ∃ result, isNumeric result = true ∧
      (Answers ((calculate field c).run d) c result ∨
        ¬ c.IsWritable ((calculate field c).run d).2.heap result ∧ Refuses ((calculate field c).run d))) ∧
      (c.Overflows → ∃ f : Fault, (calculate field c).run d = (.error (.fault f), d) ∧ f.cls = .overflow) := by
  obtain ⟨apply, known, ran⟩ := run_calculate field posed
  obtain ⟨m, left, real_left⟩ := number?_of_isNumeric posed.numeric
  obtain ⟨n, right, real_right⟩ := real
  have divisible := posed.divisible
  rw [equals_zero right] at divisible
  obtain ⟨comes, fails⟩ := run_apply_of_real known left right real_left real_right divisible
  have same : c.Overflows ↔ Number.Overflows (c.operation == .str "divide") m n := by
    constructor
    · rintro ⟨m', n', left', right', beyond⟩
      obtain rfl : m' = m := Option.some.inj (left'.symm.trans left)
      obtain rfl : n' = n := Option.some.inj (right'.symm.trans right)
      exact beyond
    · exact fun beyond => ⟨m, n, left, right, beyond⟩
  rw [same, ran]
  constructor
  · intro within
    obtain ⟨result, h', done, numeric⟩ := comes within
    rw [run_onHeap_bind done]
    obtain ⟨answers, refuses⟩ := run_answer c result { d with heap := h' }
    refine ⟨result, numeric, ?_⟩
    by_cases able : c.IsWritable h' result
    · exact .inl (answers able)
    · rw [refuses able]
      exact .inr ⟨able, .tooManyDigits, rfl, rfl⟩
  · intro beyond
    obtain ⟨f, failed, cls⟩ := fails beyond
    rw [run_onHeap_stop failed]
    exact ⟨f, rfl, cls⟩

theorem Answers.unique {reply : Except Interruption Value × Desk} {result result' : Value}
    (answered : Answers reply c result) (answered' : Answers reply c result') : result = result' := by
  obtain ⟨a, done, there⟩ := answered
  obtain ⟨a', done', there'⟩ := answered'
  cases done.symm.trans done'
  cases there.symm.trans there'
  rfl

/-- No number comes out for any other operand. -/
theorem not_numeric_of_answers (posed : c.IsPosed d.heap) (unreal : ¬ c.IsReal) {result : Value}
    (answered : Answers ((calculate field c).run d) c result) : isNumeric result = false := by
  obtain ⟨apply, known, ran⟩ := run_calculate field posed
  have complex : ∀ n, c.operand.number? = some n → ¬ n.IsReal := fun n counted real => unreal ⟨n, counted, real⟩
  rw [ran] at answered
  rcases done : (apply c.current c.operand).run d.heap with ⟨outcome, h'⟩
  cases outcome with
  | error f =>
      rw [run_onHeap_stop done] at answered
      obtain ⟨a, failed, -⟩ := answered
      cases failed
  | ok v =>
      rw [run_onHeap_bind done] at answered
      obtain ⟨answers, refuses⟩ := run_answer c v { d with heap := h' }
      by_cases able : c.IsWritable h' v
      · rw [answered.unique (answers able)]
        exact not_numeric_of_apply known posed.numeric complex done
      · rw [refuses able] at answered
        obtain ⟨a, failed, -⟩ := answered
        cases failed

theorem isShort_iff {v : Value} {i : Int} (h : Heap) (counted : v.int? = some i) :
    (h.view v).isOverlong = false ↔ IsShort i := by
  cases v with
  | int i =>
      cases counted
      exact decide_eq_false_iff_not.trans Nat.not_lt
  | bool b =>
      cases counted
      exact iff_of_true rfl (by cases b <;> decide)
  | _ => cases counted

/-- The exact integer comes out for integers, if it and they can be written. -/
theorem run_calculate_int {i j : Int} {f : Int → Int → Int} (current : c.current = .int i)
    (operand : c.operand.int? = some j) (whole : onInts? c.operation = some f) :
    (IsShort i ∧ IsShort j ∧ IsShort (f i j) → Answers ((calculate field c).run d) c (.int (f i j))) ∧
      (¬ (IsShort i ∧ IsShort j ∧ IsShort (f i j)) →
        (calculate field c).run d = (.error (.fault .tooManyDigits), d)) := by
  obtain ⟨known, other, name, named⟩ := known_of_onInts whole
  have posed : c.IsPosed d.heap := ⟨by rw [current]; rfl, known, by rw [other]; rfl⟩
  obtain ⟨apply, known, ran⟩ := run_calculate field posed
  have done : (apply c.current c.operand).run d.heap = (.ok (.int (f i j)), d.heap) := by
    rw [current]
    exact run_apply_int known whole operand i
  have writable : c.IsWritable d.heap (.int (f i j)) ↔ IsShort i ∧ IsShort j ∧ IsShort (f i j) := by
    have operation : (d.heap.view c.operation).isOverlong = false := by
      rw [named]
      rfl
    have shown (k : Int) : (d.heap.view (.int k)).isOverlong = false ↔ IsShort k := isShort_iff d.heap rfl
    simp only [Calculation.IsWritable, List.forall_mem_cons, List.not_mem_nil, IsEmpty.forall_iff, implies_true, and_true,
      operation, true_and, isShort_iff d.heap operand, current, shown]
  rw [ran, run_onHeap_bind done, ← writable]
  exact run_answer c _ d

end Outcome

/-- A field that cannot be looked up makes the action fail for its kind.  Otherwise the action refuses whatever it has
nothing to compute for, which are a field without a number, an unknown operation and a division by zero; and it comes to
a number if the operand is a real one, except that numbers too large for a double make it fail by overflow, and that it
refuses numbers too long to be written.  With any other operand it comes to no number.  Integers are added, subtracted
and multiplied exactly, as long as they and the result can be written. -/
theorem mathOperation_outcome (input : Value) (named : Named) (d : Desk) :
    let c := calculationOf d.heap input named
    let reply := (mathOperation input named).run d
    (¬ CanLookUp d.heap input (fieldIn named) → ∃ kind, reply = (.error (.fault (.unhashable kind)), d)) ∧
      (CanLookUp d.heap input (fieldIn named) →
        (¬ c.IsPosed d.heap → Refuses reply) ∧
        (c.IsPosed d.heap → c.IsReal → ¬ c.Overflows → ∃ result, isNumeric result = true ∧
          (Answers reply c result ∨ ¬ c.IsWritable reply.2.heap result ∧ Refuses reply)) ∧
        (c.IsPosed d.heap → c.IsReal → c.Overflows →
          ∃ f : Fault, reply = (.error (.fault f), d) ∧ f.cls = .overflow) ∧
        (c.IsPosed d.heap → ¬ c.IsReal → ∀ result, Answers reply c result → isNumeric result = false) ∧
        ∀ i j f, c.current = .int i → c.operand.int? = some j → onInts? c.operation = some f →
          (IsShort i ∧ IsShort j ∧ IsShort (f i j) → Answers reply c (.int (f i j))) ∧
            (¬ (IsShort i ∧ IsShort j ∧ IsShort (f i j)) → reply = (.error (.fault .tooManyDigits), d))) := by
  intro c reply
  refine ⟨run_mathOperation_unable, fun able => ?_⟩
  have ran : reply = (calculate (fieldIn named) c).run d := run_mathOperation able
  rw [ran]
  refine ⟨refuses_calculate _, fun posed real => (run_calculate_of_real posed real).1,
    fun posed real => (run_calculate_of_real posed real).2, fun posed unreal result => not_numeric_of_answers posed unreal,
    fun i j f current operand whole => run_calculate_int current operand whole⟩

/-- A field with an integer is not multiplied by a text: the text is repeated, which is no number and no refusal. -/
theorem mathOperation_repeats :
    let d : Desk := ⟨⟨#[.dict [(.str "qty", .int 2)]], 0⟩, []⟩
    let named : Named := [("operation", .str "multiply"), ("field", .str "qty"), ("operand", .str "ab")]
    let reply := (mathOperation (.dict 0) named).run d
    Answers reply (calculationOf d.heap (.dict 0) named) (.str "abab") ∧ isNumeric (.str "abab") = false ∧
      ¬ Refuses reply ∧ ∀ result, isNumeric result = true → ¬ Answers reply (calculationOf d.heap (.dict 0) named) result := by
  intro d named reply
  have answered : Answers reply (calculationOf d.heap (.dict 0) named) (.str "abab") := ⟨1, rfl, rfl⟩
  refine ⟨answered, rfl, ?_, fun result numeric other => ?_⟩
  · rintro ⟨f, failed, -⟩
    obtain ⟨a, done, -⟩ := answered
    cases done.symm.trans failed
  · cases answered.unique other
    cases numeric

end WorkflowEngine.Builtin
