import WorkflowEngine.Proofs.Frame.Machine
import WorkflowEngine.Value.Container
import WorkflowEngine.Value.Operator
import WorkflowEngine.Value.Selection

/-!
# Operations on values change no container

Asking something of a value, selecting a part, going through the items, and applying an operator read the
heap and put what they make at fresh addresses.
-/

namespace WorkflowEngine

open Eval

variable {n : Nat} {α : Type}

namespace Eval

theorem keeps_isTrue (v : Value) : Keeps n (isTrue v) := by
  unfold isTrue
  exact keeps_bind keeps_heap fun h => keeps_pure _

theorem keeps_length (v : Value) : Keeps n (length v) := by
  unfold length
  refine keeps_bind keeps_heap fun h => ?_
  split
  · exact keeps_pure _
  · exact keeps_fail _

theorem keeps_requireKey (v : Value) : Keeps n (requireKey v) := by
  unfold requireKey
  split
  · exact keeps_pure ()
  · refine keeps_bind (keeps_view _) fun d => ?_
    split
    · exact keeps_fail _
    · exact keeps_pure ()

theorem keeps_requireKeys (values : List Value) : Keeps n (requireKeys values) := by
  induction values with
  | nil => exact keeps_pure ()
  | cons v rest ih => exact keeps_bind (keeps_requireKey v) fun _ => ih

theorem keeps_setOf (values : List Value) : Keeps n (setOf values) := by
  unfold setOf
  exact keeps_bind (keeps_requireKeys values) fun _ => keeps_bind keeps_heap fun h => keeps_newSet _

theorem keeps_equals (a b : Value) : Keeps n (equals a b) := by
  unfold equals
  exact keeps_bind keeps_heap fun h => keeps_pure _

theorem keeps_text (v : Value) : Keeps n (text v) := by
  unfold text
  exact keeps_bind (keeps_view v) fun d => keeps_lift _

theorem keeps_source (v : Value) : Keeps n (source v) := by
  unfold source
  exact keeps_bind (keeps_view v) fun d => keeps_lift _

end Eval

namespace Value

theorem keeps_itemAt (items : List α) (i : Int) (words : Fault) : Keeps n (itemAt items i words) := by
  unfold itemAt
  split
  · exact keeps_fail _
  · split
    · exact keeps_fail _
    · split
      · exact keeps_pure _
      · exact keeps_fail _

theorem keeps_bound (v : Value) : Keeps n (bound? v) := by
  unfold bound?
  split
  · exact keeps_pure _
  · exact keeps_pure _
  · exact keeps_pure _
  · exact keeps_fail _

theorem keeps_selectRange (items : List α) (lower upper step : Value) :
    Keeps n (selectRange items lower upper step) := by
  unfold selectRange
  refine keeps_bind (keeps_bound step) fun stride => keeps_when (keeps_fail _) fun _ => ?_
  exact keeps_bind (keeps_bound lower) fun first => keeps_bind (keeps_bound upper) fun last => keeps_pure _

/-- Selecting keeps the containers if making the selected part does. -/
theorem keeps_selectFrom (items : List α) {one : α → Eval Value} {many : List α → Eval Value}
    (keepsOne : ∀ item, Keeps n (one item)) (keepsMany : ∀ part, Keeps n (many part)) (absent wrong : Fault)
    (index : Value) : Keeps n (selectFrom items one many absent wrong index) := by
  unfold selectFrom
  split
  · exact keeps_bind (keeps_selectRange items _ _ _) keepsMany
  · exact keeps_bind (keeps_itemAt items _ absent) keepsOne
  · exact keeps_bind (keeps_itemAt items _ absent) keepsOne
  · exact keeps_fail wrong

theorem keeps_select (container index : Value) : Keeps n (select container index) := by
  unfold select
  split
  · exact keeps_selectFrom _ (fun c => keeps_pure _) (fun part => keeps_pure _) _ _ index
  · exact keeps_selectFrom _ (fun b => keeps_pure _) (fun part => keeps_pure _) _ _ index
  · exact keeps_bind (keeps_items _) fun values => keeps_selectFrom values keeps_pure keeps_newList _ _ index
  · exact keeps_bind (keeps_items _) fun values => keeps_selectFrom values keeps_pure keeps_newTuple _ _ index
  · refine keeps_bind (keeps_requireKey index) fun _ => keeps_bind keeps_heap fun h => ?_
    split
    · exact keeps_pure _
    · exact keeps_fail _
  · exact keeps_fail _
  · exact keeps_fail _

end Value

theorem Cursor.keeps_start (v : Value) : Keeps n (Cursor.start v) := by
  unfold start
  split
  · exact keeps_pure _
  · exact keeps_pure _
  · exact keeps_pure _
  · exact keeps_bind (keeps_items _) fun values => keeps_pure _
  · exact keeps_bind keeps_heap fun h => keeps_pure _
  · exact keeps_bind keeps_heap fun h => keeps_pure _
  · exact keeps_fail _

theorem Cursor.keeps_next (cursor : Cursor) : Keeps n cursor.next := by
  unfold next
  split
  · exact keeps_pure _
  · exact keeps_pure _
  · refine keeps_bind (keeps_items _) fun values => ?_
    split <;> exact keeps_pure _
  · refine keeps_bind (keeps_entries _) fun entries => keeps_when (keeps_fail _) fun _ => ?_
    split <;> exact keeps_pure _
  · refine keeps_bind (keeps_items _) fun members => keeps_when (keeps_fail _) fun _ => ?_
    split <;> exact keeps_pure _

theorem Eval.keeps_iterate (v : Value) : Keeps n (iterate v) := by
  unfold iterate
  refine keeps_bind (Cursor.keeps_start v) fun cursor => ?_
  split
  · exact keeps_pure _
  · exact keeps_items _
  · exact keeps_items _
  · exact keeps_bind (keeps_entries _) fun entries => keeps_pure _

namespace Value

variable (a b v : Value)

theorem keeps_unsupported (operator : String) : Keeps n (unsupported operator a b) := by
  exact keeps_fail _

/-- An operation on numbers keeps the containers if what stands for other operands does. -/
theorem keeps_arithmetic (operation : Number → Number → Except Fault Number) {otherwise : Eval Value}
    (keepsOther : Keeps n otherwise) : Keeps n (arithmetic operation otherwise a b) := by
  unfold arithmetic
  split
  · exact keeps_bind (keeps_lift _) keeps_number
  · exact keepsOther

theorem keeps_add : Keeps n (add a b) := by
  refine keeps_arithmetic a b _ ?_
  split
  · exact keeps_pure _
  · exact keeps_fail _
  · exact keeps_pure _
  · exact keeps_fail _
  · exact keeps_bind (keeps_items _) fun left => keeps_bind (keeps_items _) fun right => keeps_newList _
  · exact keeps_fail _
  · exact keeps_bind (keeps_items _) fun left => keeps_bind (keeps_items _) fun right => keeps_newTuple _
  · exact keeps_fail _
  · exact keeps_unsupported a b _

theorem keeps_subtract : Keeps n (subtract a b) := by
  refine keeps_arithmetic a b _ ?_
  split
  · refine keeps_bind keeps_heap fun h => keeps_bind (keeps_items _) fun left => ?_
    exact keeps_bind (keeps_items _) fun right => keeps_newSet _
  · exact keeps_unsupported a b _

theorem keeps_replicate (count : Int) : Keeps n (replicate v count) := by
  unfold replicate
  split
  · exact keeps_fail _
  · dsimp only
    split
    · exact keeps_pure _
    · exact keeps_pure _
    · exact keeps_bind (keeps_items _) fun values => keeps_newList _
    · refine keeps_bind (keeps_items _) fun values => ?_
      split
      · exact keeps_pure _
      · exact keeps_newTuple _
    · exact keeps_pure _

theorem keeps_multiply : Keeps n (multiply a b) := by
  refine keeps_arithmetic a b _ ?_
  split
  · split
    · exact keeps_replicate a _
    · exact keeps_fail _
  · split
    · split
      · exact keeps_replicate b _
      · exact keeps_fail _
    · exact keeps_unsupported a b _

theorem keeps_divide : Keeps n (divide a b) := by
  exact keeps_arithmetic a b _ (keeps_unsupported a b _)

theorem keeps_floorDivide : Keeps n (floorDivide a b) := by
  exact keeps_arithmetic a b _ (keeps_unsupported a b _)

theorem keeps_modulo : Keeps n (modulo a b) := by
  unfold modulo
  split
  · exact keeps_bind (keeps_view b) fun d => keeps_bind (keeps_lift _) fun s => keeps_pure _
  · exact keeps_arithmetic a b _ (keeps_unsupported a b _)

theorem keeps_power : Keeps n (power a b) := by
  exact keeps_arithmetic a b _ (keeps_unsupported a b _)

theorem keeps_integral (operator : String) (onInts : Int → Int → Except Fault Int)
    (onBools : Option (Bool → Bool → Bool)) {otherwise : Eval Value} (keepsOther : Keeps n otherwise) :
    Keeps n (integral operator onInts onBools otherwise a b) := by
  unfold integral
  split
  · exact keeps_pure _
  · split
    · exact keeps_bind (keeps_lift _) fun i => keeps_pure _
    · split
      · exact keeps_unsupported a b _
      · exact keepsOther

theorem keeps_shiftLeft : Keeps n (shiftLeft a b) := by
  exact keeps_integral a b _ _ _ (keeps_unsupported a b _)

theorem keeps_shiftRight : Keeps n (shiftRight a b) := by
  exact keeps_integral a b _ _ _ (keeps_unsupported a b _)

theorem keeps_bitAnd : Keeps n (bitAnd a b) := by
  refine keeps_integral a b _ _ _ ?_
  split
  · exact keeps_bind keeps_heap fun h => keeps_newSet _
  · exact keeps_unsupported a b _

theorem keeps_bitOr : Keeps n (bitOr a b) := by
  refine keeps_integral a b _ _ _ ?_
  split
  · exact keeps_bind keeps_heap fun h => keeps_newSet _
  · exact keeps_bind keeps_heap fun h => keeps_newDict _
  · exact keeps_unsupported a b _

theorem keeps_bitXor : Keeps n (bitXor a b) := by
  refine keeps_integral a b _ _ _ ?_
  split
  · exact keeps_bind keeps_heap fun h => keeps_newSet _
  · exact keeps_unsupported a b _

theorem keeps_onNumber (operator : String) (operation : Number → Except Fault Number) :
    Keeps n (onNumber operator operation v) := by
  unfold onNumber
  split
  · exact keeps_bind (keeps_lift _) keeps_number
  · exact keeps_fail _

theorem keeps_negate : Keeps n v.negate := by
  exact keeps_onNumber v _ _

theorem keeps_keepSign : Keeps n v.keepSign := by
  exact keeps_onNumber v _ _

theorem keeps_invert : Keeps n v.invert := by
  unfold invert
  split
  · exact keeps_pure _
  · exact keeps_fail _

theorem keeps_absolute : Keeps n v.absolute := by
  exact keeps_onNumber v _ _

theorem keeps_compare (c : Comparison) : Keeps n (compare c a b) := by
  unfold compare
  split
  · exact keeps_pure _
  · exact keeps_bind (keeps_view a) fun x => keeps_bind (keeps_view b) fun y => keeps_lift _

theorem keeps_contains : Keeps n (contains a v) := by
  unfold contains
  split
  · split
    · exact keeps_pure _
    · exact keeps_fail _
  · split
    · exact keeps_pure _
    · split
      · split
        · exact keeps_pure _
        · exact keeps_fail _
      · exact keeps_fail _
  · exact keeps_bind keeps_heap fun h => keeps_bind (keeps_items _) fun values => keeps_pure _
  · exact keeps_bind keeps_heap fun h => keeps_bind (keeps_items _) fun values => keeps_pure _
  · have rest (members : Address) : Keeps n (do return (← heap).isMember (← items members) v) :=
      keeps_bind keeps_heap fun h => keeps_bind (keeps_items members) fun values => keeps_pure _
    split
    · exact rest _
    · exact keeps_bind (keeps_requireKey v) fun _ => rest _
  · refine keeps_bind (keeps_requireKey v) fun _ => keeps_bind keeps_heap fun h => ?_
    exact keeps_bind (keeps_entries _) fun entries => keeps_pure _
  · exact keeps_fail _

end Value

end WorkflowEngine
