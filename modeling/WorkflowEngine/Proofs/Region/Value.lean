import WorkflowEngine.Proofs.Region.Machine
import WorkflowEngine.Value.Attribute
import WorkflowEngine.Value.Container
import WorkflowEngine.Value.Operator
import WorkflowEngine.Value.Selection

/-!
# Operations on free values

Asking something of a free value, selecting a part, going through the items, and applying an operator read
the heap, and what they yield is made of the parts of their operands.
-/

namespace WorkflowEngine

open Eval

variable {reserved : Address → Prop} {h : Heap} {α : Type} [Naming α]

instance : Naming Char := .nothing Char
instance : Naming UInt8 := .nothing UInt8
instance : Naming Kind := .nothing Kind

instance : Naming Cursor where
  All Q
    | .fixed rest => Naming.All Q rest
    | .list a _ => Q .list a
    | .dict a _ _ => Q .dict a
    | .set a _ _ => Q .set a
  mono {Q Q' cursor} weaker all := by
    cases cursor with
    | fixed rest => exact Naming.mono weaker all
    | list a index => exact weaker _ a all
    | dict a index size => exact weaker _ a all
    | set a index size => exact weaker _ a all

namespace Held

theorem settle {values : List Value} (held : Held reserved h values) : Held reserved h (settle values) := by
  unfold Eval.settle
  split
  · exact held.sublist fun v listed => List.mem_mergeSort.mp listed
  · exact held

theorem distinct {values kept : List Value} (held : Held reserved h values) (before : Held reserved h kept) :
    Held reserved h (h.distinct kept values) := by
  induction values generalizing kept with
  | nil => exact before.reverse
  | cons v rest ih =>
      obtain ⟨first, others⟩ := List.forall_mem_cons.mp held
      unfold Heap.distinct
      split
      · exact ih others before
      · exact ih others (Held.cons first before)

theorem lookup {entries : List (Value × Value)} {key v : Value} (held : Held reserved h entries)
    (found : h.lookup entries key = .some v) : Held reserved h v := by
  obtain ⟨entry, there, rfl⟩ := Option.map_eq_some_iff.mp found
  exact (held entry (List.mem_of_find?_eq_some there)).2

theorem setEntry {entries : List (Value × Value)} {key v : Value} (held : Held reserved h entries)
    (heldKey : Held reserved h key) (heldValue : Held reserved h v) : Held reserved h (h.setEntry entries key v) := by
  unfold Heap.setEntry
  split
  · refine held.map fun entry heldEntry => ?_
    split
    · exact ⟨heldEntry.1, heldValue⟩
    · exact heldEntry
  · exact held.append (Held.cons ⟨heldKey, heldValue⟩ Held.nil)

theorem setEntries {entries added : List (Value × Value)} (held : Held reserved h entries)
    (heldAdded : Held reserved h added) : Held reserved h (h.setEntries entries added) := by
  unfold Heap.setEntries
  induction added generalizing entries with
  | nil => exact held
  | cons entry rest ih =>
      obtain ⟨first, others⟩ := List.forall_mem_cons.mp heldAdded
      exact ih (held.setEntry first.1 first.2) others

theorem dropEntry {entries : List (Value × Value)} (held : Held reserved h entries) (key : Value) :
    Held reserved h (h.dropEntry entries key) :=
  held.filter _

theorem keys {entries : List (Value × Value)} (held : Held reserved h entries) :
    Held reserved h (entries.map Prod.fst) :=
  held.map fun _ heldEntry => heldEntry.1

/-- What looks up names among entries finds what they hold. -/
theorem named {entries : List (String × α)} {name : String} {v : α} (held : Held reserved h entries)
    (found : entries.lookup name = .some v) : Held reserved h v := by
  obtain ⟨front, back, listed, -⟩ := List.lookup_eq_some_iff.mp found
  refine (held (name, v) ?_).2
  rw [listed]
  exact List.mem_append_right _ List.mem_cons_self

end Held

namespace Eval

theorem reads_isTrue (v : Value) : Reads reserved h (isTrue v) := by
  unfold isTrue
  exact reads_heap fun _ => reads_pure trivial

theorem reads_length (v : Value) : Reads reserved h (length v) := by
  unfold length
  refine reads_heap fun _ => ?_
  split
  · exact reads_pure trivial
  · exact reads_fail _

theorem reads_requireKey (v : Value) : Reads reserved h (requireKey v) := by
  unfold requireKey
  split
  · exact reads_pure trivial
  · refine reads_bind (reads_view _) fun d _ => ?_
    split
    · exact reads_fail _
    · exact reads_pure trivial

theorem reads_requireKeys (values : List Value) : Reads reserved h (requireKeys values) := by
  induction values with
  | nil => exact reads_pure trivial
  | cons v rest ih => exact reads_bind (reads_requireKey v) fun _ _ => ih

theorem spares_setOf {values : List Value} (held : Held reserved h values) : Spares reserved h (setOf values) := by
  unfold setOf
  refine spares_read (reads_requireKeys values) fun _ _ => spares_heap fun _ => ?_
  exact spares_newSet (held.distinct Held.nil).settle

theorem reads_equals (a b : Value) : Reads reserved h (equals a b) := by
  unfold equals
  exact reads_heap fun _ => reads_pure trivial

theorem reads_text (v : Value) : Reads reserved h (text v) := by
  unfold text
  exact reads_bind (reads_view v) fun d _ => reads_lift fun _ _ => trivial

theorem reads_source (v : Value) : Reads reserved h (source v) := by
  unfold source
  exact reads_bind (reads_view v) fun d _ => reads_lift fun _ _ => trivial

end Eval

namespace Value

theorem reads_itemAt {items : List α} (held : Held reserved h items) (i : Int) (words : Fault) :
    Reads reserved h (itemAt items i words) := by
  unfold itemAt
  split
  · exact reads_fail _
  · split
    · exact reads_fail _
    · split
      · rename_i item there
        exact reads_pure (held item (List.mem_of_getElem? there))
      · exact reads_fail _

theorem reads_bound (v : Value) : Reads reserved h (bound? v) := by
  unfold bound?
  split
  · exact reads_pure Held.none
  · exact reads_pure fun _ _ => trivial
  · exact reads_pure fun _ _ => trivial
  · exact reads_fail _

omit [Naming α] in
theorem mem_of_mem_rangeItems {items : List α} {lower upper : Option Int} {step : Int} {item : α}
    (listed : item ∈ rangeItems items lower upper step) : item ∈ items := by
  unfold rangeItems at listed
  split at listed
  · exact List.mem_of_mem_take (List.mem_of_mem_drop listed)
  · obtain ⟨i, -, there⟩ := List.mem_filterMap.mp listed
    rw [List.getElem?_toArray] at there
    exact List.mem_of_getElem? there

theorem reads_selectRange {items : List α} (held : Held reserved h items) (lower upper step : Value) :
    Reads reserved h (selectRange items lower upper step) := by
  unfold selectRange
  refine reads_bind (reads_bound step) fun stride _ => reads_when (reads_fail _) fun _ => ?_
  refine reads_bind (reads_bound lower) fun first _ => reads_bind (reads_bound upper) fun last _ => reads_pure ?_
  exact held.sublist fun item => mem_of_mem_rangeItems

/-- Selecting spares the reserved containers if making the selected part does. -/
theorem spares_selectFrom {items : List α} (held : Held reserved h items) {one : α → Eval Value}
    {many : List α → Eval Value} (sparesOne : ∀ item, Held reserved h item → Spares reserved h (one item))
    (sparesMany : ∀ part, Held reserved h part → Spares reserved h (many part)) (absent wrong : Fault) (index : Value) :
    Spares reserved h (selectFrom items one many absent wrong index) := by
  unfold selectFrom
  split
  · exact spares_read (reads_selectRange held _ _ _) sparesMany
  · exact spares_read (reads_itemAt held _ absent) sparesOne
  · exact spares_read (reads_itemAt held _ absent) sparesOne
  · exact spares_fail wrong

theorem spares_select {container : Value} (held : Held reserved h container) (index : Value) :
    Spares reserved h (select container index) := by
  unfold select
  split
  · exact spares_selectFrom (fun _ _ => trivial) (fun c _ => by exact spares_pure trivial)
      (fun part _ => by exact spares_pure trivial) _ _ index
  · exact spares_selectFrom (fun _ _ => trivial) (fun b _ => by exact spares_pure trivial)
      (fun part _ => by exact spares_pure trivial) _ _ index
  · refine spares_read (reads_items held.2) fun values heldValues => ?_
    exact spares_selectFrom heldValues (fun v heldItem => spares_pure heldItem)
      (fun part heldPart => spares_newList heldPart) _ _ index
  · refine spares_read (reads_items held.2) fun values heldValues => ?_
    exact spares_selectFrom heldValues (fun v heldItem => spares_pure heldItem)
      (fun part heldPart => spares_newTuple heldPart) _ _ index
  · refine spares_read (reads_requireKey index) fun _ _ => spares_heap fun sound => ?_
    split
    · rename_i v found
      exact spares_pure ((sound.entries held.2).lookup found)
    · exact spares_fail _
  · exact spares_fail _
  · exact spares_fail _

/-- A part of a free value is free. -/
theorem held_part {v found : Value} {name : String} (held : Held reserved h v) (there : v.part? name = some found) :
    Held reserved h found := by
  unfold part? at there
  repeat' split at there
  all_goals
    cases there <;>
      first
      | trivial
      | exact held.1
      | exact held.2.1
      | exact held.2.2

theorem held_attribute {v found : Value} {name : String} (held : Held reserved h v)
    (there : v.attribute? name = some found) : Held reserved h found := by
  unfold attribute? at there
  split at there
  · unfold ofType? at there
    split at there
    · cases there
      trivial
    · split at there
      · cases there
        split <;> trivial
      · cases there
  · split at there
    · rename_i part
      cases there
      exact held_part held part
    · split at there
      · cases there
        change Value.All _ (if Kind.typeMethods.contains name then _ else _)
        split
        · trivial
        · exact held
      · cases there

end Value

theorem Cursor.reads_start {v : Value} (held : Held reserved h v) : Reads reserved h (Cursor.start v) := by
  unfold start
  split
  · exact reads_pure fun c listed => by
      obtain ⟨_, _, rfl⟩ := List.mem_map.mp listed
      trivial
  · exact reads_pure fun b listed => by
      obtain ⟨_, _, rfl⟩ := List.mem_map.mp listed
      trivial
  · exact reads_pure held
  · exact reads_bind (reads_items held.2) fun values heldValues => reads_pure heldValues
  · exact reads_heap fun _ => reads_pure held
  · exact reads_heap fun _ => reads_pure held
  · exact reads_fail _

theorem Cursor.reads_next {cursor : Cursor} (held : Held reserved h cursor) : Reads reserved h cursor.next := by
  unfold next
  split
  · exact reads_pure Held.none
  · obtain ⟨first, others⟩ := List.forall_mem_cons.mp held
    exact reads_pure (Held.some ⟨first, others⟩)
  · refine reads_bind (reads_items held.2) fun values heldValues => ?_
    split
    · rename_i v there
      exact reads_pure (Held.some ⟨heldValues v (List.mem_of_getElem? there), held⟩)
    · exact reads_pure Held.none
  · refine reads_bind (reads_entries held.2) fun entries heldEntries => reads_when (reads_fail _) fun _ => ?_
    split
    · rename_i entry there
      exact reads_pure (Held.some ⟨(heldEntries entry (List.mem_of_getElem? there)).1, held⟩)
    · exact reads_pure Held.none
  · refine reads_bind (reads_items held.2) fun members heldMembers => reads_when (reads_fail _) fun _ => ?_
    split
    · rename_i v there
      exact reads_pure (Held.some ⟨heldMembers v (List.mem_of_getElem? there), held⟩)
    · exact reads_pure Held.none

theorem Eval.reads_iterate {v : Value} (held : Held reserved h v) : Reads reserved h (iterate v) := by
  unfold iterate
  refine reads_bind (Cursor.reads_start held) fun cursor heldCursor => ?_
  split
  · exact reads_pure heldCursor
  · exact reads_items heldCursor.2
  · exact reads_items heldCursor.2
  · exact reads_bind (reads_entries heldCursor.2) fun entries heldEntries => reads_pure heldEntries.keys

namespace Value

variable {a b v : Value}

theorem spares_unsupported (operator : String) (a b : Value) : Spares reserved h (unsupported operator a b) := by
  exact spares_fail _

/-- An operation on numbers spares the reserved containers if what stands for other operands does. -/
theorem spares_arithmetic (operation : Number → Number → Except Fault Number) {otherwise : Eval Value}
    (sparesOther : Spares reserved h otherwise) : Spares reserved h (arithmetic operation otherwise a b) := by
  unfold arithmetic
  split
  · exact spares_read (reads_lift fun _ _ => trivial) fun x _ => spares_number x
  · exact sparesOther

theorem spares_add (left : Held reserved h a) (right : Held reserved h b) : Spares reserved h (add a b) := by
  refine spares_arithmetic _ ?_
  split
  · exact spares_pure trivial
  · exact spares_fail _
  · exact spares_pure trivial
  · exact spares_fail _
  · refine spares_read (reads_items left.2) fun xs heldLeft => spares_read (reads_items right.2) fun ys heldRight => ?_
    exact spares_newList (heldLeft.append heldRight)
  · exact spares_fail _
  · refine spares_read (reads_items left.2) fun xs heldLeft => spares_read (reads_items right.2) fun ys heldRight => ?_
    exact spares_newTuple (heldLeft.append heldRight)
  · exact spares_fail _
  · exact spares_unsupported _ a b

theorem held_without {xs : List Value} (held : Held reserved h xs) (ys : List Value) :
    Held reserved h (without h xs ys) :=
  held.filter _

theorem spares_subtract (left : Held reserved h a) (right : Held reserved h b) : Spares reserved h (subtract a b) := by
  refine spares_arithmetic _ ?_
  split
  · refine spares_heap fun _ => spares_read (reads_items left.2) fun xs heldLeft => ?_
    exact spares_read (reads_items right.2) fun ys _ => spares_newSet (held_without heldLeft ys)
  · exact spares_unsupported _ a b

theorem held_repeated {values : List Value} (held : Held reserved h values) (count : Nat) :
    Held reserved h (List.replicate count values).flatten := by
  intro v listed
  obtain ⟨part, member, there⟩ := List.mem_flatten.mp listed
  rw [List.eq_of_mem_replicate member] at there
  exact held v there

theorem spares_replicate (held : Held reserved h v) (count : Int) : Spares reserved h (replicate v count) := by
  unfold replicate
  split
  · exact spares_fail _
  · dsimp only
    split
    · exact spares_pure trivial
    · exact spares_pure trivial
    · exact spares_read (reads_items held.2) fun values heldValues => spares_newList (held_repeated heldValues _)
    · refine spares_read (reads_items held.2) fun values heldValues => ?_
      split
      · exact spares_pure held
      · exact spares_newTuple (held_repeated heldValues _)
    · exact spares_pure held

theorem spares_multiply (left : Held reserved h a) (right : Held reserved h b) : Spares reserved h (multiply a b) := by
  refine spares_arithmetic _ ?_
  split
  · split
    · exact spares_replicate left _
    · exact spares_fail _
  · split
    · split
      · exact spares_replicate right _
      · exact spares_fail _
    · exact spares_unsupported _ a b

theorem spares_divide (a b : Value) : Spares reserved h (divide a b) := by
  exact spares_arithmetic _ (spares_unsupported _ a b)

theorem spares_floorDivide (a b : Value) : Spares reserved h (floorDivide a b) := by
  exact spares_arithmetic _ (spares_unsupported _ a b)

theorem spares_modulo (a b : Value) : Spares reserved h (modulo a b) := by
  unfold modulo
  split
  · refine spares_read (reads_view b) fun d _ => spares_read (reads_lift fun _ _ => trivial) fun s _ => ?_
    exact spares_pure trivial
  · exact spares_arithmetic _ (spares_unsupported _ a b)

theorem spares_power (a b : Value) : Spares reserved h (power a b) := by
  exact spares_arithmetic _ (spares_unsupported _ a b)

theorem spares_integral (operator : String) (onInts : Int → Int → Except Fault Int)
    (onBools : Option (Bool → Bool → Bool)) {otherwise : Eval Value} (sparesOther : Spares reserved h otherwise) :
    Spares reserved h (integral operator onInts onBools otherwise a b) := by
  unfold integral
  split
  · exact spares_pure trivial
  · split
    · exact spares_read (reads_lift fun _ _ => trivial) fun i _ => spares_pure trivial
    · split
      · exact spares_unsupported operator _ _
      · exact sparesOther

theorem spares_shiftLeft (a b : Value) : Spares reserved h (shiftLeft a b) := by
  exact spares_integral _ _ _ (spares_unsupported _ a b)

theorem spares_shiftRight (a b : Value) : Spares reserved h (shiftRight a b) := by
  exact spares_integral _ _ _ (spares_unsupported _ a b)

theorem spares_bitAnd (left : Held reserved h a) (b : Value) : Spares reserved h (bitAnd a b) := by
  refine spares_integral _ _ _ ?_
  split
  · refine spares_heap fun sound => spares_newSet ?_
    exact ((sound.items left.2).filter _).settle
  · exact spares_unsupported _ _ _

theorem spares_bitOr (left : Held reserved h a) (right : Held reserved h b) : Spares reserved h (bitOr a b) := by
  refine spares_integral _ _ _ ?_
  split
  · refine spares_heap fun sound => spares_newSet (Held.settle ?_)
    exact (sound.items left.2).append (held_without (sound.items right.2) _)
  · refine spares_heap fun sound => spares_newDict ?_
    exact (sound.entries left.2).setEntries (sound.entries right.2)
  · exact spares_unsupported _ _ _

theorem spares_bitXor (left : Held reserved h a) (right : Held reserved h b) : Spares reserved h (bitXor a b) := by
  refine spares_integral _ _ _ ?_
  split
  · refine spares_heap fun sound => spares_newSet (Held.settle ?_)
    exact (held_without (sound.items left.2) _).append (held_without (sound.items right.2) _)
  · exact spares_unsupported _ _ _

theorem spares_onNumber (operator : String) (operation : Number → Except Fault Number) (v : Value) :
    Spares reserved h (onNumber operator operation v) := by
  unfold onNumber
  split
  · exact spares_read (reads_lift fun _ _ => trivial) fun x _ => spares_number x
  · exact spares_fail _

theorem spares_negate (v : Value) : Spares reserved h v.negate := by
  exact spares_onNumber _ _ v

theorem spares_keepSign (v : Value) : Spares reserved h v.keepSign := by
  exact spares_onNumber _ _ v

theorem spares_invert (v : Value) : Spares reserved h v.invert := by
  unfold invert
  split
  · exact spares_pure trivial
  · exact spares_fail _

theorem spares_absolute (v : Value) : Spares reserved h v.absolute := by
  exact spares_onNumber _ _ v

theorem reads_compare (a b : Value) (c : Comparison) : Reads reserved h (compare c a b) := by
  unfold compare
  split
  · exact reads_pure trivial
  · refine reads_bind (reads_view a) fun x _ => reads_bind (reads_view b) fun y _ => ?_
    exact reads_lift fun _ _ => trivial

theorem reads_contains (held : Held reserved h a) (v : Value) : Reads reserved h (contains a v) := by
  unfold contains
  split
  · split
    · exact reads_pure trivial
    · exact reads_fail _
  · split
    · exact reads_pure trivial
    · split
      · split
        · exact reads_pure trivial
        · exact reads_fail _
      · exact reads_fail _
  · exact reads_heap fun _ => reads_bind (reads_items held.2) fun values _ => reads_pure trivial
  · exact reads_heap fun _ => reads_bind (reads_items held.2) fun values _ => reads_pure trivial
  · rename_i members
    have rest : Reads reserved h (do return (← heap).isMember (← items members) v) :=
      reads_heap fun _ => reads_bind (reads_items held.2) fun values _ => reads_pure trivial
    split
    · exact rest
    · exact reads_bind (reads_requireKey v) fun _ _ => rest
  · refine reads_bind (reads_requireKey v) fun _ _ => reads_heap fun _ => ?_
    exact reads_bind (reads_entries held.2) fun entries _ => reads_pure trivial
  · exact reads_fail _

end Value

end WorkflowEngine
