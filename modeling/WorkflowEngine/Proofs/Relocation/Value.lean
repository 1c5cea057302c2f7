import WorkflowEngine.Proofs.Relocation.Machine
import WorkflowEngine.Value.Attribute
import WorkflowEngine.Value.Container
import WorkflowEngine.Value.Operator
import WorkflowEngine.Value.Selection

/-!
# Operations on moved values

Moved values are asked for the same, select the same parts, are gone through in the same order and are combined by
operators alike.
-/

namespace WorkflowEngine

open Eval
open Relocation (Fixes)

variable {r : Relocation}

instance : Movable Cursor where
  moved r
    | .fixed rest => .fixed (r.move rest)
    | .list a index => .list (r.address a) index
    | .dict a index size => .dict (r.address a) index size
    | .set a index size => .set (r.address a) index size

namespace Relocation

variable {α β : Type} [Movable α] [Movable β]

theorem move_filter {p p' : α → Bool} (same : ∀ x, p' (r.move x) = p x) (xs : List α) :
    (r.move xs).filter p' = r.move (xs.filter p) := by
  rw [r.move_list, r.move_list, List.filter_map]
  exact congrArg (List.map r.move) (congrArg (List.filter · xs) (funext same))

theorem any_move {p p' : α → Bool} (same : ∀ x, p' (r.move x) = p x) (xs : List α) : (r.move xs).any p' = xs.any p := by
  rw [r.move_list, List.any_map]
  exact congrArg xs.any (funext same)

theorem all_move {p p' : α → Bool} (same : ∀ x, p' (r.move x) = p x) (xs : List α) : (r.move xs).all p' = xs.all p := by
  rw [r.move_list, List.all_map]
  exact congrArg xs.all (funext same)

theorem find?_move {p p' : α → Bool} (same : ∀ x, p' (r.move x) = p x) (xs : List α) :
    (r.move xs).find? p' = r.move (xs.find? p) := by
  rw [r.move_list, List.find?_map]
  exact congrArg (Option.map r.move) (congrArg (List.find? · xs) (funext same))

theorem findIdx?_move {p p' : α → Bool} (same : ∀ x, p' (r.move x) = p x) (xs : List α) :
    (r.move xs).findIdx? p' = xs.findIdx? p := by
  rw [r.move_list, List.findIdx?_map]
  exact congrArg (List.findIdx? · xs) (funext same)

theorem countP_move {p p' : α → Bool} (same : ∀ x, p' (r.move x) = p x) (xs : List α) :
    (r.move xs).countP p' = xs.countP p := by
  rw [r.move_list, List.countP_map]
  exact congrArg (List.countP · xs) (funext same)

theorem map_fst_move (pairs : List (α × β)) : (r.move pairs).map Prod.fst = r.move (pairs.map Prod.fst) := by
  simp [r.move_list]

theorem map_snd_move (pairs : List (α × β)) : (r.move pairs).map Prod.snd = r.move (pairs.map Prod.snd) := by
  simp [r.move_list]

theorem lookup_move (entries : List (String × α)) (name : String) :
    (r.move entries).lookup name = r.move (entries.lookup name) := by
  induction entries with
  | nil => rfl
  | cons e rest ih =>
      rw [r.move_cons, List.lookup_cons, List.lookup_cons, r.fst_move, r.move_fixed e.1, ih]
      cases name == e.1 <;> rfl

/-- What stands in where nothing is there is moved as well. -/
theorem getD_move (found : Option α) (fallback : α) : (r.move found).getD (r.move fallback) = r.move (found.getD fallback) := by
  cases found <;> rfl

end Relocation

namespace Heap.Moves

variable {h h' : Heap}

theorem length? (moves : h.Moves r h') (v : Value) : h'.length? (r.move v) = h.length? v := by
  cases v with
  | list a => exact congrArg some (moves.size a)
  | tuple a => exact congrArg some (moves.size a)
  | set a => exact congrArg some (moves.size a)
  | dict a => exact congrArg some (moves.size a)
  | _ => rfl

theorem isTrue (moves : h.Moves r h') (v : Value) : h'.isTrue (r.move v) = h.isTrue v := by
  cases v with
  | list a => exact congrArg (· != 0) (moves.size a)
  | tuple a => exact congrArg (· != 0) (moves.size a)
  | set a => exact congrArg (· != 0) (moves.size a)
  | dict a => exact congrArg (· != 0) (moves.size a)
  | _ => rfl

theorem sameKey (moves : h.Moves r h') (a b : Value) : h'.sameKey (r.move a) (r.move b) = h.sameKey a b := by
  have views : Data.same (h'.view (r.move a)) (h'.view (r.move b)) = Data.same (h.view a) (h.view b) := by
    rw [moves.view, moves.view, Data.same_move]
  cases a with
  | str s => cases b with
    | str t => rfl
    | int i => rfl
    | _ => exact views
  | int i => cases b with
    | str t => rfl
    | int j => rfl
    | _ => exact views
  | _ => exact views

theorem equals (moves : h.Moves r h') (a b : Value) : h'.equals (r.move a) (r.move b) = h.equals a b := by
  have views : Data.equals (h'.view (r.move a)) (h'.view (r.move b)) = Data.equals (h.view a) (h.view b) := by
    rw [moves.view, moves.view, Data.equals_move]
  cases a with
  | str s => cases b with
    | str t => rfl
    | _ => exact views
  | int i => cases b with
    | int j => rfl
    | _ => exact views
  | _ => exact views

variable (entries added : List (Value × Value)) (items : List Value) (key value v : Value)

theorem lookup (moves : h.Moves r h') : h'.lookup (r.move entries) (r.move key) = r.move (h.lookup entries key) := by
  unfold Heap.lookup
  rw [Relocation.find?_move (p := fun e => h.sameKey e.1 key) fun e => moves.sameKey e.1 key]
  cases entries.find? fun e => h.sameKey e.1 key <;> rfl

theorem setEntry (moves : h.Moves r h') :
    h'.setEntry (r.move entries) (r.move key) (r.move value) = r.move (h.setEntry entries key value) := by
  unfold Heap.setEntry
  rw [Relocation.any_move (p := fun e => h.sameKey e.1 key) fun e => moves.sameKey e.1 key]
  split
  · rw [r.move_list, r.move_list, List.map_map, List.map_map]
    refine List.map_congr_left fun e _ => ?_
    simp only [Function.comp_apply, r.fst_move, moves.sameKey]
    split <;> rfl
  · simp

theorem setEntries (moves : h.Moves r h') :
    h'.setEntries (r.move entries) (r.move added) = r.move (h.setEntries entries added) := by
  unfold Heap.setEntries
  induction added generalizing entries with
  | nil => rfl
  | cons e rest ih =>
      rw [r.move_cons, List.foldl_cons, List.foldl_cons, r.fst_move, r.snd_move, moves.setEntry]
      exact ih _

theorem dropEntry (moves : h.Moves r h') : h'.dropEntry (r.move entries) (r.move key) = r.move (h.dropEntry entries key) :=
  Relocation.move_filter (p := fun e : Value × Value => !h.sameKey e.1 key) (fun e => congrArg not (moves.sameKey e.1 key)) entries

theorem isMember (moves : h.Moves r h') : h'.isMember (r.move items) (r.move v) = h.isMember items v :=
  Relocation.any_move (fun item => moves.sameKey item v) items

theorem distinct (moves : h.Moves r h') (kept : List Value) :
    h'.distinct (r.move kept) (r.move items) = r.move (h.distinct kept items) := by
  induction items generalizing kept with
  | nil => exact (r.move_reverse kept).symm
  | cons item rest ih =>
      rw [r.move_cons, Heap.distinct, Heap.distinct, moves.isMember]
      split
      · exact ih kept
      · exact ih (item :: kept)

theorem without (moves : h.Moves r h') (others : List Value) :
    Value.without h' (r.move items) (r.move others) = r.move (Value.without h items others) :=
  Relocation.move_filter (p := fun item => !h.isMember others item)
    (fun item => congrArg not (moves.isMember others item)) items

theorem isSame (moves : h.Moves r h') (a b : Value) : Value.isSame h' (r.move a) (r.move b) = Value.isSame h a b := by
  have same : (r.move a == r.move b) = (a == b) := r.beq_move a b
  cases a with
  | tuple x => cases b with
    | tuple y =>
        have addresses : (r.address x == r.address y) = (x == y) := decide_eq_decide.mpr r.address_injective.eq_iff
        change (r.address x == r.address y || (h'.size (r.address x) == 0 && h'.size (r.address y) == 0)) = _
        rw [addresses, moves.size, moves.size]
        rfl
    | _ => exact same
  | method owner name => cases b with
    | method owner' name' => rfl
    | _ => exact same
  | slice lower upper step => cases b with
    | slice lower' upper' step' => rfl
    | _ => exact same
  | float x => cases b with
    | float y => rfl
    | _ => exact same
  | _ => exact same

end Heap.Moves

namespace Eval

theorem settle_move (items : List Value) : settle (r.move items) = r.move (settle items) := by
  unfold settle
  rw [Relocation.all_move (p := fun v => v.nat?.isSome) fun v => congrArg Option.isSome (r.nat?_move v)]
  split
  · rw [r.move_list, r.move_list]
    refine (List.map_mergeSort fun a _ b _ => ?_).symm
    rw [r.nat?_move, r.nat?_move]
  · rfl

theorem follows_isTrue (v : Value) : Follows r (isTrue v) (isTrue (r.move v)) :=
  follows_heap fun _ _ moves => follows_pure (moves.isTrue v)

theorem follows_length (v : Value) : Follows r (length v) (length (r.move v)) := by
  refine follows_heap fun h h' moves => ?_
  rw [moves.length?, r.kindOf_move]
  cases h.length? v with
  | some n => exact follows_pure rfl
  | none => exact follows_fail _

/-- What a value shows decides whether it may be a key. -/
theorem follows_refuseUnhashable (v : Value) :
    Follows r
      (do
        match (← view v).unhashable? with
        | some kind => fail (.unhashable kind)
        | none => pure ())
      (do
        match (← view (r.move v)).unhashable? with
        | some kind => fail (.unhashable kind)
        | none => pure ()) := by
  refine follows_bind (follows_view v) fun d => ?_
  rw [Data.unhashable?_move]
  cases d.unhashable? with
  | some kind => exact follows_fail _
  | none => exact follows_pure rfl

theorem follows_requireKey (v : Value) : Follows r (requireKey v) (requireKey (r.move v)) := by
  have viewed : Follows r _ _ := follows_refuseUnhashable v
  cases v with
  | str s => exact follows_pure rfl
  | _ => exact viewed

theorem follows_requireKeys (values : List Value) : Follows r (requireKeys values) (requireKeys (r.move values)) := by
  induction values with
  | nil => exact follows_pure rfl
  | cons v rest ih => exact follows_bind_fixed (follows_requireKey v) fun _ => ih

theorem follows_setOf (values : List Value) : Follows r (setOf values) (setOf (r.move values)) := by
  refine follows_bind_fixed (follows_requireKeys values) fun _ => follows_heap fun h h' moves => ?_
  rw [← r.move_nil, moves.distinct, settle_move]
  exact follows_newSet _

theorem follows_equals (a b : Value) : Follows r (equals a b) (equals (r.move a) (r.move b)) :=
  follows_heap fun _ _ moves => follows_pure (moves.equals a b)

theorem follows_text (v : Value) : Follows r (text v) (text (r.move v)) := by
  refine follows_bind (follows_view v) fun d => ?_
  rw [Data.text?_move]
  exact follows_lift_fixed _

theorem follows_source (v : Value) : Follows r (source v) (source (r.move v)) := by
  refine follows_bind (follows_view v) fun d => ?_
  rw [Data.source?_move]
  exact follows_lift_fixed _

end Eval

namespace Value

section Selection

variable {α : Type} [Movable α]

theorem follows_itemAt (items : List α) (i : Int) (words : Fault) :
    Follows r (itemAt items i words) (itemAt (r.move items) i words) := by
  unfold itemAt
  rw [r.length_move]
  split
  · exact follows_fail _
  · split
    · exact follows_fail _
    · rename_i place _
      rw [r.getElem?_move]
      cases items[place]? with
      | none => exact follows_fail _
      | some item => exact follows_pure rfl

theorem follows_bound (v : Value) : Follows r (bound? v) (bound? (r.move v)) := by
  cases v with
  | null => exact follows_pure rfl
  | int i => exact follows_pure rfl
  | bool b => exact follows_pure rfl
  | _ => exact follows_fail _

theorem rangeItems_move (items : List α) (lower upper : Option Int) (step : Int) :
    rangeItems (r.move items) lower upper step = r.move (rangeItems items lower upper step) := by
  unfold rangeItems
  rw [r.length_move]
  split
  · simp [r.move_list]
  · simp [r.move_list, List.map_filterMap]

theorem follows_selectRange (items : List α) (lower upper step : Value) :
    Follows r (selectRange items lower upper step) (selectRange (r.move items) (r.move lower) (r.move upper) (r.move step)) := by
  unfold selectRange
  refine follows_bind_fixed (follows_bound step) fun stride => follows_when (follows_fail _) fun _ => ?_
  refine follows_bind_fixed (follows_bound lower) fun first => follows_bind_fixed (follows_bound upper) fun last => ?_
  exact follows_pure (rangeItems_move items first last _)

theorem follows_selectFrom {items : List α} {one one' : α → Eval Value} {many many' : List α → Eval Value}
    (ones : ∀ item, Follows r (one item) (one' (r.move item)))
    (manys : ∀ part, Follows r (many part) (many' (r.move part))) (absent wrong : Fault) (index : Value) :
    Follows r (selectFrom items one many absent wrong index)
      (selectFrom (r.move items) one' many' absent wrong (r.move index)) := by
  cases index with
  | slice lower upper step => exact follows_bind (follows_selectRange items lower upper step) manys
  | int i => exact follows_bind (follows_itemAt items i absent) ones
  | bool b => exact follows_bind (follows_itemAt items _ absent) ones
  | _ => exact follows_fail wrong

/-- What names no containers is selected alike. -/
theorem follows_selectFrom_fixed [Fixes α] {items : List α} {one : α → Eval Value} {many : List α → Eval Value}
    (ones : ∀ item, Follows r (one item) (one item)) (manys : ∀ part, Follows r (many part) (many part))
    (absent wrong : Fault) (index : Value) :
    Follows r (selectFrom items one many absent wrong index) (selectFrom items one many absent wrong (r.move index)) := by
  have ones' (item : α) : Follows r (one item) (one (r.move item)) := by rw [r.move_fixed]; exact ones item
  have manys' (part : List α) : Follows r (many part) (many (r.move part)) := by rw [r.move_fixed]; exact manys part
  have follows : Follows r _ (selectFrom (r.move items) one many absent wrong (r.move index)) :=
    follows_selectFrom ones' manys' absent wrong index
  rwa [r.move_fixed items] at follows

theorem follows_select (container index : Value) :
    Follows r (select container index) (select (r.move container) (r.move index)) := by
  have kind : (r.move index).kindOf = index.kindOf := r.kindOf_move index
  cases container with
  | str s =>
      change Follows r _ (selectFrom s.toList _ _ _ _ (r.move index))
      rw [kind]
      exact follows_selectFrom_fixed (fun _ => follows_pure rfl) (fun _ => follows_pure rfl) _ _ index
  | bytes bs =>
      change Follows r _ (selectFrom bs _ _ _ (wrongIndex "byte" (r.move index)) (r.move index))
      rw [wrongIndex, kind]
      exact follows_selectFrom_fixed (fun _ => follows_pure rfl) (fun _ => follows_pure rfl) _ _ index
  | list a =>
      refine follows_bind (follows_items a) fun items => ?_
      rw [wrongIndex, wrongIndex, kind]
      exact follows_selectFrom (fun _ => follows_pure rfl) follows_newList _ _ index
  | tuple a =>
      refine follows_bind (follows_items a) fun items => ?_
      rw [wrongIndex, wrongIndex, kind]
      exact follows_selectFrom (fun _ => follows_pure rfl) follows_newTuple _ _ index
  | dict a =>
      refine follows_bind_fixed (follows_requireKey index) fun _ => follows_heap fun h h' moves => ?_
      rw [moves.entries, moves.lookup]
      cases h.lookup (h.entries a) index with
      | some v => exact follows_pure rfl
      | none =>
          refine follows_fail_of_alike ⟨rfl, ?_⟩
          rw [moves.view]
          exact Data.source_move r _
  | _ => exact follows_fail _

end Selection

theorem part?_move (v : Value) (name : String) : (r.move v).part? name = r.move (v.part? name) := by
  unfold part?
  rw [r.int?_move]
  cases v.int? with
  | some i =>
      dsimp only
      repeat' split
      all_goals rfl
  | none => cases v with
    | float x =>
        change (if _ then _ else if _ then _ else _) = r.move (if _ then _ else if _ then _ else _)
        rw [r.move_ite, r.move_ite]
        rfl
    | nan m =>
        change (if _ then _ else if _ then _ else _) = r.move (if _ then _ else if _ then _ else _)
        rw [r.move_ite, r.move_ite]
        rfl
    | complex re im =>
        change (if _ then _ else if _ then _ else _) = r.move (if _ then _ else if _ then _ else _)
        rw [r.move_ite, r.move_ite]
        rfl
    | slice lower upper step =>
        change (if _ then _ else if _ then _ else if _ then _ else _) =
          r.move (if _ then _ else if _ then _ else if _ then _ else _)
        rw [r.move_ite, r.move_ite, r.move_ite]
        rfl
    | _ => rfl

theorem ofType?_move (k : Kind) (name : String) : r.move (ofType? k name) = ofType? k name := by
  unfold ofType?
  repeat' split
  all_goals rfl

/-- The parts and the methods of a value move with it. -/
theorem partOrMethod?_move (v : Value) (name : String) :
    (match (r.move v).part? name with
      | some found => some found
      | none =>
        if (r.move v).kindOf.methods.contains name then
          some (.method (if Kind.typeMethods.contains name then .type (r.move v).kindOf else r.move v) name)
        else none) =
      r.move (match v.part? name with
      | some found => some found
      | none =>
        if v.kindOf.methods.contains name then
          some (.method (if Kind.typeMethods.contains name then .type v.kindOf else v) name)
        else none) := by
  rw [part?_move, r.kindOf_move]
  cases v.part? name with
  | some found => rfl
  | none =>
      dsimp only
      rw [r.move_none]
      dsimp only
      split
      · split <;> rfl
      · rfl

theorem attribute?_move (v : Value) (name : String) : (r.move v).attribute? name = r.move (v.attribute? name) := by
  have own := partOrMethod?_move (r := r) v name
  cases v with
  | type k => exact (ofType?_move k name).symm
  | _ => exact own

end Value

theorem Cursor.follows_start (v : Value) : Follows r (Cursor.start v) (Cursor.start (r.move v)) := by
  cases v with
  | str s =>
      refine follows_pure (congrArg Cursor.fixed ?_)
      rw [r.move_list, List.map_map]
      rfl
  | bytes bs =>
      refine follows_pure (congrArg Cursor.fixed ?_)
      rw [r.move_list, List.map_map]
      rfl
  | list a => exact follows_pure rfl
  | tuple a => exact follows_bind (follows_items a) fun items => follows_pure rfl
  | dict a => exact follows_heap fun _ _ moves => follows_pure (congrArg (Cursor.dict _ 0) (moves.size a))
  | set a => exact follows_heap fun _ _ moves => follows_pure (congrArg (Cursor.set _ 0) (moves.size a))
  | _ => exact follows_fail _

theorem Cursor.follows_next (cursor : Cursor) : Follows r cursor.next (r.move cursor).next := by
  cases cursor with
  | fixed rest => cases rest <;> exact follows_pure rfl
  | list a index =>
      refine follows_bind (follows_items a) fun items => ?_
      rw [r.getElem?_move]
      cases items[index]? with
      | some v => exact follows_pure rfl
      | none => exact follows_pure rfl
  | dict a index size =>
      refine follows_bind (follows_entries a) fun entries => ?_
      rw [r.length_move]
      refine follows_when (follows_fail _) fun _ => ?_
      rw [r.getElem?_move]
      cases entries[index]? with
      | some e => exact follows_pure rfl
      | none => exact follows_pure rfl
  | set a index size =>
      refine follows_bind (follows_items a) fun items => ?_
      rw [r.length_move]
      refine follows_when (follows_fail _) fun _ => ?_
      rw [r.getElem?_move]
      cases items[index]? with
      | some e => exact follows_pure rfl
      | none => exact follows_pure rfl

theorem Eval.follows_iterate (v : Value) : Follows r (iterate v) (iterate (r.move v)) := by
  refine follows_bind (Cursor.follows_start v) fun cursor => ?_
  cases cursor with
  | fixed rest => exact follows_pure rfl
  | list a index => exact follows_items a
  | set a index size => exact follows_items a
  | dict a index size =>
      refine follows_bind (follows_entries a) fun entries => follows_pure ?_
      exact Relocation.map_fst_move entries

namespace Value

variable (a b v : Value)

theorem follows_unsupported (operator : String) :
    Follows r (unsupported operator a b) (unsupported operator (r.move a) (r.move b)) := by
  unfold unsupported
  rw [r.kindOf_move, r.kindOf_move]
  exact follows_fail _

/-- Operations on numbers follow each other if what stands for other operands does. -/
theorem follows_arithmetic (operation : Number → Number → Except Fault Number) {otherwise otherwise' : Eval Value}
    (other : Follows r otherwise otherwise') :
    Follows r (arithmetic operation otherwise a b) (arithmetic operation otherwise' (r.move a) (r.move b)) := by
  unfold arithmetic
  rw [r.number?_move, r.number?_move]
  split
  · exact follows_bind_fixed (follows_lift_fixed _) fun x => follows_number x
  · exact other

theorem follows_add : Follows r (add a b) (add (r.move a) (r.move b)) := by
  refine follows_arithmetic a b _ ?_
  cases a with
  | str s => cases b with
    | str t => exact follows_pure rfl
    | _ => exact follows_fail _
  | bytes s => cases b with
    | bytes t => exact follows_pure rfl
    | _ => exact follows_fail _
  | list x => cases b with
    | list y =>
        refine follows_bind (follows_items x) fun xs => follows_bind (follows_items y) fun ys => ?_
        rw [← r.move_append]
        exact follows_newList _
    | _ => exact follows_fail _
  | tuple x => cases b with
    | tuple y =>
        refine follows_bind (follows_items x) fun xs => follows_bind (follows_items y) fun ys => ?_
        rw [← r.move_append]
        exact follows_newTuple _
    | _ => exact follows_fail _
  | _ => exact follows_unsupported _ b "+"

theorem follows_subtract : Follows r (subtract a b) (subtract (r.move a) (r.move b)) := by
  refine follows_arithmetic a b _ ?_
  cases a with
  | set x => cases b with
    | set y =>
        refine follows_heap fun h h' moves => ?_
        refine follows_bind (follows_items x) fun xs => follows_bind (follows_items y) fun ys => ?_
        rw [moves.without]
        exact follows_newSet _
    | _ => exact follows_unsupported _ _ "-"
  | _ => exact follows_unsupported _ b "-"

@[simp]
theorem isSequence_move : (r.move v).isSequence = v.isSequence := by
  cases v <;> rfl

theorem move_flatten_replicate (n : Nat) (values : List Value) :
    (List.replicate n (r.move values)).flatten = r.move (List.replicate n values).flatten := by
  rw [r.move_list, r.move_list, List.map_flatten, List.map_replicate]

theorem follows_replicate (count : Int) : Follows r (replicate v count) (replicate (r.move v) count) := by
  unfold replicate
  split
  · exact follows_fail _
  · cases v with
    | list a =>
        refine follows_bind (follows_items a) fun values => ?_
        rw [move_flatten_replicate]
        exact follows_newList _
    | tuple a =>
        refine follows_bind (follows_items a) fun values => ?_
        rw [move_flatten_replicate]
        split
        · exact follows_pure rfl
        · exact follows_newTuple _
    | _ => exact follows_pure rfl

theorem follows_multiply : Follows r (multiply a b) (multiply (r.move a) (r.move b)) := by
  refine follows_arithmetic a b _ ?_
  rw [isSequence_move, isSequence_move, r.int?_move, r.int?_move, r.kindOf_move, r.kindOf_move]
  split
  · cases b.int? with
    | some i => exact follows_replicate a i
    | none => exact follows_fail _
  · split
    · cases a.int? with
      | some i => exact follows_replicate b i
      | none => exact follows_fail _
    · exact follows_unsupported a b "*"

theorem follows_divide : Follows r (divide a b) (divide (r.move a) (r.move b)) :=
  follows_arithmetic a b _ (follows_unsupported a b "/")

theorem follows_floorDivide : Follows r (floorDivide a b) (floorDivide (r.move a) (r.move b)) :=
  follows_arithmetic a b _ (follows_unsupported a b "//")

theorem follows_modulo : Follows r (modulo a b) (modulo (r.move a) (r.move b)) := by
  have numbers : Follows r (arithmetic Number.modulo (unsupported "%" a b) a b)
      (arithmetic Number.modulo (unsupported "%" (r.move a) (r.move b)) (r.move a) (r.move b)) :=
    follows_arithmetic a b _ (follows_unsupported a b "%")
  cases a with
  | str s =>
      refine follows_bind (follows_view b) fun d => ?_
      rw [Layout.percent_move]
      exact follows_bind_fixed (follows_lift_fixed _) fun _ => follows_pure rfl
  | _ => exact numbers

theorem follows_power : Follows r (power a b) (power (r.move a) (r.move b)) :=
  follows_arithmetic a b _ (follows_unsupported a b "** or pow()")

/-- Integers are worked on as such, and other numbers are refused. -/
theorem follows_onInts (operator : String) (onInts : Int → Int → Except Fault Int) {otherwise otherwise' : Eval Value}
    (other : Follows r otherwise otherwise') :
    Follows r
      (match a.int?, b.int? with
      | some i, some j => do return .int (← lift (onInts i j))
      | _, _ =>
        match a.number?, b.number? with
        | some _, some _ => unsupported operator a b
        | _, _ => otherwise)
      (match (r.move a).int?, (r.move b).int? with
      | some i, some j => do return .int (← lift (onInts i j))
      | _, _ =>
        match (r.move a).number?, (r.move b).number? with
        | some _, some _ => unsupported operator (r.move a) (r.move b)
        | _, _ => otherwise') := by
  rw [r.int?_move, r.int?_move, r.number?_move, r.number?_move]
  split
  · exact follows_bind_fixed (follows_lift_fixed _) fun _ => follows_pure rfl
  · split
    · exact follows_unsupported a b operator
    · exact other

theorem follows_integral (operator : String) (onInts : Int → Int → Except Fault Int) (onBools : Option (Bool → Bool → Bool))
    {otherwise otherwise' : Eval Value} (other : Follows r otherwise otherwise') :
    Follows r (integral operator onInts onBools otherwise a b)
      (integral operator onInts onBools otherwise' (r.move a) (r.move b)) := by
  have ints := follows_onInts a b operator onInts other
  cases onBools with
  | none => exact ints
  | some f => cases a with
    | bool x => cases b with
      | bool y => exact follows_pure rfl
      | _ => exact ints
    | _ => exact ints

theorem follows_shiftLeft : Follows r (shiftLeft a b) (shiftLeft (r.move a) (r.move b)) :=
  follows_integral a b _ _ _ (follows_unsupported a b "<<")

theorem follows_shiftRight : Follows r (shiftRight a b) (shiftRight (r.move a) (r.move b)) :=
  follows_integral a b _ _ _ (follows_unsupported a b ">>")

theorem follows_bitAnd : Follows r (bitAnd a b) (bitAnd (r.move a) (r.move b)) := by
  refine follows_integral a b _ _ _ ?_
  cases a with
  | set x => cases b with
    | set y =>
        refine follows_heap fun h h' moves => ?_
        dsimp only
        rw [moves.items, moves.items,
          Relocation.move_filter (p := fun v => h.isMember (h.items y) v) (moves.isMember (h.items y)), settle_move]
        exact follows_newSet _
    | _ => exact follows_unsupported _ _ "&"
  | _ => exact follows_unsupported _ b "&"

theorem follows_bitOr : Follows r (bitOr a b) (bitOr (r.move a) (r.move b)) := by
  refine follows_integral a b _ _ _ ?_
  cases a with
  | set x => cases b with
    | set y =>
        refine follows_heap fun h h' moves => ?_
        rw [moves.items, moves.items, moves.without, ← r.move_append, settle_move]
        exact follows_newSet _
    | _ => exact follows_unsupported _ _ "|"
  | dict x => cases b with
    | dict y =>
        refine follows_heap fun h h' moves => ?_
        rw [moves.entries, moves.entries, moves.setEntries]
        exact follows_newDict _
    | _ => exact follows_unsupported _ _ "|"
  | _ => exact follows_unsupported _ b "|"

theorem follows_bitXor : Follows r (bitXor a b) (bitXor (r.move a) (r.move b)) := by
  refine follows_integral a b _ _ _ ?_
  cases a with
  | set x => cases b with
    | set y =>
        refine follows_heap fun h h' moves => ?_
        dsimp only
        rw [moves.items, moves.items, moves.without, moves.without, ← r.move_append, settle_move]
        exact follows_newSet _
    | _ => exact follows_unsupported _ _ "^"
  | _ => exact follows_unsupported _ b "^"

theorem follows_onNumber (operator : String) (operation : Number → Except Fault Number) :
    Follows r (onNumber operator operation v) (onNumber operator operation (r.move v)) := by
  unfold onNumber
  rw [r.number?_move, r.kindOf_move]
  cases v.number? with
  | some n => exact follows_bind_fixed (follows_lift_fixed _) fun x => follows_number x
  | none => exact follows_fail _

theorem follows_negate : Follows r v.negate (r.move v).negate :=
  follows_onNumber v _ _

theorem follows_keepSign : Follows r v.keepSign (r.move v).keepSign :=
  follows_onNumber v _ _

theorem follows_absolute : Follows r v.absolute (r.move v).absolute :=
  follows_onNumber v _ _

theorem follows_invert : Follows r v.invert (r.move v).invert := by
  unfold invert
  rw [r.int?_move, r.kindOf_move]
  cases v.int? with
  | some i => exact follows_pure rfl
  | none => exact follows_fail _

theorem follows_compare (c : Comparison) : Follows r (compare c a b) (compare c (r.move a) (r.move b)) := by
  have views : Follows r (do lift (Data.compareBy c (← view a) (← view b)))
      (do lift (Data.compareBy c (← view (r.move a)) (← view (r.move b)))) := by
    refine follows_bind (follows_view a) fun x => follows_bind (follows_view b) fun y => ?_
    rw [Data.compareBy_move]
    exact follows_lift_fixed _
  cases a with
  | int i => cases b with
    | int j => exact follows_pure rfl
    | _ => exact views
  | _ => exact views

/-- Bytes may be asked for an integer that is a byte. -/
theorem follows_containsByte (bytes : List UInt8) :
    Follows r
      (match v.int? with
      | some i =>
        if 0 ≤ i && i < 256 then pure (bytes.any fun b => Int.ofNat b.toNat == i)
        else fail (.valued "byte must be in range(0, 256)")
      | none => fail (.typed ("a bytes-like object is required, not '" ++ v.kindOf.name ++ "'")))
      (match (r.move v).int? with
      | some i =>
        if 0 ≤ i && i < 256 then pure (bytes.any fun b => Int.ofNat b.toNat == i)
        else fail (.valued "byte must be in range(0, 256)")
      | none => fail (.typed ("a bytes-like object is required, not '" ++ (r.move v).kindOf.name ++ "'"))) := by
  rw [r.int?_move, r.kindOf_move]
  cases v.int? with
  | some i =>
      dsimp only
      split
      · exact follows_pure rfl
      · exact follows_fail _
  | none => exact follows_fail _

theorem follows_contains : Follows r (contains a v) (contains (r.move a) (r.move v)) := by
  cases a with
  | str s => cases v with
    | str t => exact follows_pure rfl
    | _ => exact follows_fail _
  | bytes bs =>
      have byte : Follows r _ _ := follows_containsByte v bs
      cases v with
      | bytes part => exact follows_pure rfl
      | _ => exact byte
  | list x =>
      refine follows_heap fun h h' moves => follows_bind (follows_items x) fun items => ?_
      exact follows_pure (moves.isMember items v)
  | tuple x =>
      refine follows_heap fun h h' moves => follows_bind (follows_items x) fun items => ?_
      exact follows_pure (moves.isMember items v)
  | set x =>
      have rest : Follows r (do return (← heap).isMember (← items x) v)
          (do return (← heap).isMember (← items (r.address x)) (r.move v)) :=
        follows_heap fun h h' moves => follows_bind (follows_items x) fun items => follows_pure (moves.isMember items v)
      cases v with
      | set y => exact rest
      | _ => exact follows_bind_fixed (follows_requireKey _) fun _ => rest
  | dict x =>
      refine follows_bind_fixed (follows_requireKey v) fun _ => follows_heap fun h h' moves => ?_
      refine follows_bind (follows_entries x) fun entries => follows_pure ?_
      rw [moves.lookup, r.isSome_move]
      rfl
  | _ => exact follows_fail _

end Value

end WorkflowEngine
