import WorkflowEngine.Call.Aggregate
import WorkflowEngine.Call.Conversion
import WorkflowEngine.Proofs.Relocation.Value

/-!
# Conversions and aggregates of moved values

Types that are called with moved arguments make moved values, and the best item, the sum and the order of moved items
are those of the items, moved.
-/

namespace WorkflowEngine

open Eval

variable {r : Relocation}

instance : Movable Arguments where
  moved r a := ⟨r.move a.positional, r.move a.named⟩

namespace Arguments

variable (a : Arguments) (routine : String)

theorem follows_single : Follows r (a.single routine) ((r.move a).single routine) := by
  obtain ⟨positional, named⟩ := a
  change Follows r _ (single routine ⟨r.move positional, r.move named⟩)
  unfold single
  dsimp only
  rw [r.isEmpty_move]
  split
  · exact follows_fail _
  · match positional with
    | [] => exact follows_fail _
    | [v] => exact follows_pure rfl
    | _ :: _ :: _ =>
        rw [r.move_cons, r.move_cons]
        simp only [List.length_cons, r.length_move]
        exact follows_fail _

theorem follows_optional : Follows r (a.optional routine) ((r.move a).optional routine) := by
  obtain ⟨positional, named⟩ := a
  change Follows r _ (optional routine ⟨r.move positional, r.move named⟩)
  unfold optional
  dsimp only
  rw [r.isEmpty_move]
  split
  · exact follows_fail _
  · match positional with
    | [] => exact follows_pure rfl
    | [v] => exact follows_pure rfl
    | _ :: _ :: _ =>
        rw [r.move_cons, r.move_cons]
        simp only [List.length_cons, r.length_move]
        exact follows_fail _

theorem unknownName?_move (parameters : List String) (named : List (String × Value)) :
    unknownName? parameters (r.move named) = unknownName? parameters named := by
  unfold unknownName?
  rw [Relocation.find?_move (p := fun e : String × Value => !parameters.contains e.1) fun _ => rfl]
  cases named.find? fun e => !parameters.contains e.1 <;> rfl

theorem follows_bind (positionalOnly : Nat) (parameters : List String) :
    Follows r (a.bind routine positionalOnly parameters) ((r.move a).bind routine positionalOnly parameters) := by
  obtain ⟨positional, named⟩ := a
  change Follows r _ (bind routine positionalOnly parameters ⟨r.move positional, r.move named⟩)
  unfold bind
  simp only [r.length_move, r.isEmpty_move, Relocation.lookup_move, r.isSome_move, unknownName?_move, r.getElem?_move]
  split
  · exact follows_fail _
  · generalize List.find? _ _ = clash
    cases clash with
    | some clash => exact follows_fail _
    | none =>
        generalize unknownName? _ _ = unknown
        cases unknown with
        | some name => exact follows_fail _
        | none =>
            refine follows_pure ?_
            rw [r.move_list, List.map_map]
            refine List.map_congr_left fun entry _ => ?_
            rw [Function.comp_apply]
            cases positional[entry.2]? with
            | some v => rfl
            | none =>
                rw [r.move_none, r.move_ite]
                rfl

theorem follows_bindOne (parameter : String) :
    Follows r (a.bindOne routine parameter) ((r.move a).bindOne routine parameter) := by
  obtain ⟨positional, named⟩ := a
  change Follows r _ (bindOne routine parameter ⟨r.move positional, r.move named⟩)
  unfold bindOne
  dsimp only
  rw [unknownName?_move]
  cases unknownName? [parameter] named with
  | some name => exact follows_fail _
  | none => match positional, named with
    | [v], [] => exact follows_pure rfl
    | [], _ :: _ => exact follows_pure rfl
    | [], [] => exact follows_fail _
    | [_], _ :: _ => exact follows_fail _
    | _ :: _ :: _, _ :: _ => exact follows_fail _
    | _ :: _ :: _, [] =>
        rw [r.move_cons, r.move_cons, r.move_nil]
        simp only [List.length_cons, r.length_move]
        exact follows_fail _

end Arguments

namespace Conversion

variable (a : Arguments) (v : Value)

theorem follows_indexOf : Follows r (indexOf v) (indexOf (r.move v)) := by
  unfold indexOf
  rw [r.int?_move, r.kindOf_move]
  cases v.int? with
  | some i => exact follows_pure rfl
  | none => exact follows_fail _

theorem follows_optionalText (routine parameter : String) (given : Option Value) :
    Follows r (optionalText routine parameter given) (optionalText routine parameter (r.move given)) := by
  rcases given with _ | v
  · exact follows_pure rfl
  · cases v with
    | str s => exact follows_pure rfl
    | _ => exact follows_fail _

theorem follows_toText : Follows r (toText a) (toText (r.move a)) := by
  refine follows_bind (Arguments.follows_bind a _ _ _) fun given => ?_
  match given with
  | [object, encoding, errors] =>
      refine follows_bind_fixed (follows_optionalText _ _ encoding) fun encoding => ?_
      refine follows_bind_fixed (follows_optionalText _ _ errors) fun errors => ?_
      rcases object with _ | v
      · exact follows_pure rfl
      · rw [r.move_some]
        dsimp only
        split
        · exact follows_bind_fixed (follows_text v) fun _ => follows_pure rfl
        · cases v with
          | bytes bs => exact follows_bind_fixed (follows_lift_fixed _) fun _ => follows_pure rfl
          | _ => exact follows_fail _
  | [] => exact follows_pure rfl
  | [_] => exact follows_pure rfl
  | [_, _] => exact follows_pure rfl
  | _ :: _ :: _ :: _ :: _ => exact follows_pure rfl

theorem follows_parseInt (base : Nat) (spelled : String) :
    Follows r (parseInt base spelled v) (parseInt base spelled (r.move v)) := by
  unfold parseInt
  split
  · dsimp only
    split
    · split
      · exact follows_pure rfl
      · exact follows_fail _
    · exact follows_pure rfl
  · exact follows_bind_fixed (follows_source v) fun shown => follows_fail _

/-- Numbers that are integers count as such. -/
theorem follows_intOf :
    Follows r
      (match v.int? with
      | some i => return Value.int i
      | none =>
        fail (.typed ("int() argument must be a string, a bytes-like object or a real number, not '" ++
          v.kindOf.name ++ "'")))
      (match (r.move v).int? with
      | some i => return Value.int i
      | none =>
        fail (.typed ("int() argument must be a string, a bytes-like object or a real number, not '" ++
          (r.move v).kindOf.name ++ "'"))) := by
  rw [r.int?_move, r.kindOf_move]
  cases v.int? with
  | some i => exact follows_pure rfl
  | none => exact follows_fail _

theorem follows_toInt : Follows r (toInt a) (toInt (r.move a)) := by
  refine follows_bind (Arguments.follows_bind a _ _ _) fun given => ?_
  match given with
  | [none, none] => exact follows_pure rfl
  | [none, some _] => exact follows_fail _
  | [some v, none] =>
      have number : Follows r _ _ := follows_intOf v
      cases v with
      | str s => exact follows_parseInt (.str s) _ _
      | bytes bs => exact follows_parseInt (.bytes bs) _ _
      | float x => exact follows_bind_fixed (follows_lift_fixed _) fun i => follows_pure rfl
      | nan m => exact follows_bind_fixed (follows_lift_fixed _) fun i => follows_pure rfl
      | _ => exact number
  | [some v, some b] =>
      refine follows_bind_fixed (follows_indexOf b) fun base => ?_
      split
      · exact follows_fail _
      · cases v with
        | str s => exact follows_parseInt (.str s) _ _
        | bytes bs => exact follows_parseInt (.bytes bs) _ _
        | _ => exact follows_fail _
  | [] => exact follows_pure rfl
  | [none] => exact follows_pure rfl
  | [some _] => exact follows_pure rfl
  | none :: none :: _ :: _ => exact follows_pure rfl
  | none :: some _ :: _ :: _ => exact follows_pure rfl
  | some _ :: none :: _ :: _ => exact follows_pure rfl
  | some _ :: some _ :: _ :: _ => exact follows_pure rfl

/-- Numbers that are real become floating. -/
theorem follows_floatOf :
    Follows r
      (match v.number? with
      | some (.int i) => do return Value.float (← lift (Number.floatOfInt i))
      | some (.float x) => Eval.float x
      | _ => fail (.typed ("float() argument must be a string or a real number, not '" ++ v.kindOf.name ++ "'")))
      (match (r.move v).number? with
      | some (.int i) => do return Value.float (← lift (Number.floatOfInt i))
      | some (.float x) => Eval.float x
      | _ => fail (.typed ("float() argument must be a string or a real number, not '" ++ (r.move v).kindOf.name ++ "'"))) := by
  rw [r.number?_move, r.kindOf_move]
  rcases v.number? with _ | i | x | ⟨re, im⟩
  · exact follows_fail _
  · exact follows_bind_fixed (follows_lift_fixed _) fun _ => follows_pure rfl
  · exact follows_float x
  · exact follows_fail _

theorem follows_toFloat : Follows r (toFloat a) (toFloat (r.move a)) := by
  unfold toFloat
  refine follows_bind (Arguments.follows_optional a _) fun given => ?_
  rcases given with _ | v
  · exact follows_pure rfl
  · have number : Follows r _ _ := follows_floatOf v
    rw [r.move_some]
    dsimp only
    cases v with
    | str s =>
        rw [r.move_str]
        dsimp only
        cases Decimal.readFloat? s with
        | some x => exact follows_float x
        | none => exact follows_bind_fixed (follows_source (.str s)) fun _ => follows_fail _
    | bytes bs =>
        rw [r.move_bytes]
        dsimp only
        cases Decimal.readFloat? (plainBytes bs) with
        | some x => exact follows_float x
        | none => exact follows_bind_fixed (follows_source (.bytes bs)) fun _ => follows_fail _
    | nan m => exact follows_pure rfl
    | _ => exact number

theorem follows_toBool : Follows r (toBool a) (toBool (r.move a)) := by
  refine follows_bind (Arguments.follows_optional a _) fun given => ?_
  rcases given with _ | v
  · exact follows_pure rfl
  · exact follows_bind_fixed (follows_isTrue v) fun _ => follows_pure rfl

theorem follows_toList : Follows r (toList a) (toList (r.move a)) := by
  refine follows_bind (Arguments.follows_optional a _) fun given => ?_
  rcases given with _ | v
  · exact follows_newList []
  · exact follows_bind (follows_iterate v) follows_newList

theorem follows_toTuple : Follows r (toTuple a) (toTuple (r.move a)) := by
  refine follows_bind (Arguments.follows_optional a _) fun given => ?_
  rcases given with _ | v
  · exact follows_newTuple []
  · cases v with
    | tuple t => exact follows_pure rfl
    | _ => exact follows_bind (follows_iterate _) follows_newTuple

theorem follows_toSet : Follows r (toSet a) (toSet (r.move a)) := by
  refine follows_bind (Arguments.follows_optional a _) fun given => ?_
  rcases given with _ | v
  · exact follows_newSet []
  · exact follows_bind (follows_iterate v) follows_setOf

theorem follows_itemsOf : Follows r (itemsOf? v) (itemsOf? (r.move v)) := by
  cases v with
  | str s => exact follows_bind (follows_iterate (.str s)) fun _ => follows_pure rfl
  | bytes bs => exact follows_bind (follows_iterate (.bytes bs)) fun _ => follows_pure rfl
  | list x => exact follows_bind (follows_items x) fun _ => follows_pure rfl
  | tuple x => exact follows_bind (follows_items x) fun _ => follows_pure rfl
  | set x => exact follows_bind (follows_items x) fun _ => follows_pure rfl
  | dict x =>
      refine follows_bind (follows_entries x) fun entries => follows_pure ?_
      rw [Relocation.map_fst_move]
      rfl
  | _ => exact follows_pure rfl

theorem follows_addPairs (index : Nat) (done : List (Value × Value)) (pairs : List Value) :
    Follows r (addPairs index done pairs) (addPairs index (r.move done) (r.move pairs)) := by
  induction pairs generalizing index done with
  | nil => exact follows_pure rfl
  | cons pair rest ih =>
      refine follows_bind (follows_itemsOf pair) fun parts => ?_
      match parts with
      | none => exact follows_fail _
      | some [key, value] =>
          refine follows_bind_fixed (follows_requireKey key) fun _ => follows_heap fun h h' moves => ?_
          rw [moves.setEntry]
          exact ih _ _
      | some [] => exact follows_fail _
      | some [_] => exact follows_fail _
      | some (_ :: _ :: _ :: _) =>
          rw [r.move_some, r.move_cons, r.move_cons, r.move_cons]
          simp only [List.length_cons, r.length_move]
          exact follows_fail _

theorem follows_extend (done : List (Value × Value)) : Follows r (extend done v) (extend (r.move done) (r.move v)) := by
  cases v with
  | dict x =>
      refine follows_heap fun h h' moves => follows_bind (follows_entries x) fun entries => ?_
      exact follows_pure (moves.setEntries done entries)
  | _ => exact follows_bind (follows_iterate _) fun pairs => follows_addPairs 0 done pairs

/-- Named values as entries. -/
theorem map_named_move (named : List (String × Value)) :
    (r.move named).map (fun e => (Value.str e.1, e.2)) = r.move (named.map fun e => (Value.str e.1, e.2)) := by
  rw [r.move_list, r.move_list, List.map_map, List.map_map]
  rfl

theorem follows_toDict : Follows r (toDict a) (toDict (r.move a)) := by
  obtain ⟨positional, named⟩ := a
  have rest (start : List (Value × Value)) : Follows r
      (do newDict ((← heap).setEntries start (named.map fun e => (.str e.1, e.2))))
      (do newDict ((← heap).setEntries (r.move start) ((r.move named).map fun e => (.str e.1, e.2)))) := by
    refine follows_heap fun h h' moves => ?_
    rw [map_named_move, moves.setEntries]
    exact follows_newDict _
  match positional with
  | [] => exact follows_bind (follows_pure rfl) rest
  | [v] => exact follows_bind (follows_extend v []) rest
  | v :: w :: more =>
      have moved : r.move (⟨v :: w :: more, named⟩ : Arguments) =
          ⟨r.move v :: r.move w :: r.move more, r.move named⟩ := rfl
      rw [moved]
      simp only [toDict, List.length_cons, r.length_move]
      exact follows_bind (follows_fail _) rest

/-- Types that are called with moved arguments make moved values. -/
theorem follows_make (k : Kind) : Follows r (make k a) (make k (r.move a)) := by
  cases k with
  | str => exact follows_toText a
  | int => exact follows_toInt a
  | float => exact follows_toFloat a
  | bool => exact follows_toBool a
  | list => exact follows_toList a
  | tuple => exact follows_toTuple a
  | set => exact follows_toSet a
  | dict => exact follows_toDict a
  | _ => exact follows_fail _

end Conversion

namespace Aggregate

variable {apply : Apply}

/-- Applying a moved key to a moved item follows. -/
def Apply.Follows (r : Relocation) (apply : Apply) : Prop :=
  ∀ key item, Eval.Follows r (apply key item) (apply (r.move key) (r.move item))

theorem follows_keyOf (follows : apply.Follows r) (key : Option Value) (item : Value) :
    Eval.Follows r (keyOf apply key item) (keyOf apply (r.move key) (r.move item)) := by
  rcases key with _ | f
  · exact follows_pure rfl
  · cases f with
    | null => exact follows_pure rfl
    | _ => exact follows _ item

theorem follows_bestFrom (follows : apply.Follows r) (key : Option Value) (c : Comparison) (fuel : Nat)
    (best : Option (Value × Value)) (cursor : Cursor) :
    Eval.Follows r (bestFrom apply key c fuel best cursor)
      (bestFrom apply (r.move key) c fuel (r.move best) (r.move cursor)) := by
  induction fuel generalizing best cursor with
  | zero => exact follows_pure rfl
  | succ fuel ih =>
      refine Eval.follows_bind (Cursor.follows_next cursor) fun found => ?_
      rcases found with _ | ⟨item, cursor⟩
      · exact follows_pure rfl
      · refine Eval.follows_bind (follows_keyOf follows key item) fun k => ?_
        rcases best with _ | ⟨other, k'⟩
        · exact ih (some (item, k)) cursor
        · refine follows_bind_fixed (Value.follows_compare k k' c) fun better => ?_
          cases better with
          | true => exact ih (some (item, k)) cursor
          | false => exact ih (some (other, k')) cursor

theorem follows_cursorFor (key : Option Value) (v : Value) :
    Eval.Follows r (cursorFor key v) (cursorFor (r.move key) (r.move v)) := by
  have fixed : Eval.Follows r (do return Cursor.fixed (← iterate v)) (do return Cursor.fixed (← iterate (r.move v))) :=
    Eval.follows_bind (follows_iterate v) fun _ => follows_pure rfl
  rcases key with _ | f
  · exact fixed
  · cases f with
    | method owner name => exact Cursor.follows_start v
    | descriptor owner name => exact Cursor.follows_start v
    | _ => exact fixed

/-- The best item behind a cursor, or what stands for it where there is none. -/
theorem follows_bestOr (follows : apply.Follows r) (routine : String) (key fallback : Option Value) (c : Comparison)
    (cursor : Cursor) :
    Eval.Follows r
      (do
        match ← bestFrom apply key c walkLimit none cursor with
        | some (item, _) => return item
        | none =>
          match fallback with
          | some v => return v
          | none => fail (.valued (routine ++ "() arg is an empty sequence")))
      (do
        match ← bestFrom apply (r.move key) c walkLimit none (r.move cursor) with
        | some (item, _) => return item
        | none =>
          match r.move fallback with
          | some v => return v
          | none => fail (.valued (routine ++ "() arg is an empty sequence"))) := by
  refine Eval.follows_bind (follows_bestFrom follows key c walkLimit none cursor) fun found => ?_
  rcases found with _ | ⟨item, k⟩
  · cases fallback with
    | some v => exact follows_pure rfl
    | none => exact follows_fail _
  · exact follows_pure rfl

theorem follows_best (follows : apply.Follows r) (routine : String) (c : Comparison) (a : Arguments) :
    Eval.Follows r (best apply routine c a) (best apply routine c (r.move a)) := by
  obtain ⟨positional, named⟩ := a
  change Eval.Follows r _ (best apply routine c ⟨r.move positional, r.move named⟩)
  simp only [best, r.length_move, r.isEmpty_move]
  split
  · exact follows_fail _
  · refine Eval.follows_bind (Arguments.follows_bind ⟨[], named⟩ _ _ _) fun bound => ?_
    match bound with
    | [key, fallback] =>
        have chosen := follows_bestOr follows routine key fallback c
        rw [r.move_cons, r.move_cons, r.move_nil]
        dsimp only
        rw [r.isSome_move]
        split
        · exact follows_fail _
        · match positional with
          | [v] => exact Eval.follows_bind (follows_cursorFor key v) chosen
          | [] => exact Eval.follows_bind (follows_pure rfl) chosen
          | _ :: _ :: _ => exact Eval.follows_bind (follows_pure rfl) chosen
    | [] => exact follows_pure rfl
    | [_] => exact follows_pure rfl
    | _ :: _ :: _ :: _ => exact follows_pure rfl

theorem follows_sumFrom (total : Value) (items : List Value) :
    Eval.Follows r (sumFrom total items) (sumFrom (r.move total) (r.move items)) := by
  induction items generalizing total with
  | nil => exact follows_pure rfl
  | cons item rest ih => exact Eval.follows_bind (Value.follows_add total item) ih

theorem follows_sum (a : Arguments) : Eval.Follows r (sum a) (sum (r.move a)) := by
  obtain ⟨positional, named⟩ := a
  change Eval.Follows r _ (sum ⟨r.move positional, r.move named⟩)
  simp only [sum, r.isEmpty_move]
  split
  · exact follows_fail _
  · refine Eval.follows_bind (Arguments.follows_bind ⟨positional, named⟩ _ _ _) fun bound => ?_
    match bound with
    | [some v, start] =>
        refine Eval.follows_bind (follows_iterate v) fun values => ?_
        rcases start with _ | s
        · exact follows_sumFrom (.int 0) values
        · cases s with
          | str s => exact follows_fail _
          | bytes bs => exact follows_fail _
          | _ => exact follows_sumFrom _ values
    | [none, _] => exact follows_pure rfl
    | [] => exact follows_pure rfl
    | [none] => exact follows_pure rfl
    | [some _] => exact follows_pure rfl
    | none :: _ :: _ :: _ => exact follows_pure rfl
    | some _ :: _ :: _ :: _ => exact follows_pure rfl

theorem follows_keysOf (follows : apply.Follows r) (key : Option Value) (done : List (Data × Value)) (items : List Value) :
    Eval.Follows r (keysOf apply key done items) (keysOf apply (r.move key) (r.move done) (r.move items)) := by
  induction items generalizing done with
  | nil => exact follows_pure (r.move_reverse done).symm
  | cons item rest ih =>
      refine Eval.follows_bind (follows_keyOf follows key item) fun k => ?_
      exact Eval.follows_bind (follows_view k) fun shown => ih ((shown, item) :: done)

/-- Moved items that are compared by moved keys are put in the same order. -/
theorem sort_move (pairs : List (Data × Value)) :
    Sorting.sort (fun x y : Data × Value => Data.compareBy .less x.1 y.1) (r.move pairs) =
      r.move (Sorting.sort (fun x y : Data × Value => Data.compareBy .less x.1 y.1) pairs) := by
  rw [r.move_list, Sorting.sort_map fun x y => Data.compareBy_move r .less x.1 y.1]
  cases Sorting.sort (fun x y : Data × Value => Data.compareBy .less x.1 y.1) pairs <;> rfl

theorem follows_sorted (follows : apply.Follows r) (a : Arguments) :
    Eval.Follows r (sorted apply a) (sorted apply (r.move a)) := by
  obtain ⟨positional, named⟩ := a
  match positional with
  | [v] =>
      refine Eval.follows_bind (follows_iterate v) fun values => ?_
      refine Eval.follows_bind (Arguments.follows_bind ⟨[], named⟩ _ _ _) fun bound => ?_
      match bound with
      | [key, reverse] =>
          have rest (falling : Bool) : Eval.Follows r
              (do
                let pairs ← keysOf apply key [] values
                let less (x y : Data × Value) := Data.compareBy .less x.1 y.1
                if falling then
                  newList ((← lift (Sorting.sort less pairs.reverse)).reverse.map Prod.snd)
                else newList ((← lift (Sorting.sort less pairs)).map Prod.snd))
              (do
                let pairs ← keysOf apply (r.move key) [] (r.move values)
                let less (x y : Data × Value) := Data.compareBy .less x.1 y.1
                if falling then
                  newList ((← lift (Sorting.sort less pairs.reverse)).reverse.map Prod.snd)
                else newList ((← lift (Sorting.sort less pairs)).map Prod.snd)) := by
            refine Eval.follows_bind (follows_keysOf follows key [] values) fun pairs => ?_
            dsimp only
            split
            · rw [← r.move_reverse]
              refine Eval.follows_bind (follows_lift (sort_move pairs.reverse)) fun out => ?_
              rw [← r.move_reverse, Relocation.map_snd_move]
              exact follows_newList _
            · refine Eval.follows_bind (follows_lift (sort_move pairs)) fun out => ?_
              rw [Relocation.map_snd_move]
              exact follows_newList _
          rcases reverse with _ | v
          · exact follows_bind_fixed (follows_pure rfl) rest
          · refine follows_bind_fixed (Conversion.follows_indexOf v) fun i => ?_
            exact follows_bind_fixed (follows_pure rfl) rest
      | [] => exact follows_newList values
      | [_] => exact follows_newList values
      | _ :: _ :: _ :: _ => exact follows_newList values
  | [] => exact follows_fail _
  | v :: w :: more =>
      have moved : r.move (⟨v :: w :: more, named⟩ : Arguments) =
          ⟨r.move v :: r.move w :: r.move more, r.move named⟩ := rfl
      rw [moved]
      simp only [sorted, List.length_cons, r.length_move]
      exact follows_fail _

/-- What is done without places, or with some, goes by whether places are given. -/
theorem follows_places {none_ none' : Eval Value} {some_ some' : Value → Eval Value} (places : Option Value)
    (without : Eval.Follows r none_ none') (within : ∀ p, Eval.Follows r (some_ p) (some' (r.move p))) :
    Eval.Follows r
      (match places.filter (· != .null) with
      | none => none_
      | some p => some_ p)
      (match (r.move places).filter (· != .null) with
      | none => none'
      | some p => some' p) := by
  rcases places with _ | p
  · exact without
  · have same : (r.move p != .null) = (p != .null) := congrArg not (r.beq_move p .null)
    simp only [r.move_some, Option.filter, same]
    by_cases given : (p != .null) = true
    · simp only [given]
      exact within p
    · simp only [given]
      exact without

/-- Integers are rounded as such. -/
theorem follows_roundInt (v : Value) (places : Option Value) :
    Eval.Follows r
      (match v.int? with
      | some i =>
        match places.filter (· != .null) with
        | none => return Value.int i
        | some p => return Value.int (Number.roundInt i (← Conversion.indexOf p))
      | none => fail (.typed ("type " ++ v.kindOf.name ++ " doesn't define __round__ method")))
      (match (r.move v).int? with
      | some i =>
        match (r.move places).filter (· != .null) with
        | none => return Value.int i
        | some p => return Value.int (Number.roundInt i (← Conversion.indexOf p))
      | none => fail (.typed ("type " ++ (r.move v).kindOf.name ++ " doesn't define __round__ method"))) := by
  rw [r.int?_move, r.kindOf_move]
  cases v.int? with
  | none => exact follows_fail _
  | some i =>
      exact follows_places places (follows_pure rfl) fun p =>
        follows_bind_fixed (Conversion.follows_indexOf p) fun _ => follows_pure rfl

theorem follows_round (a : Arguments) : Eval.Follows r (round a) (round (r.move a)) := by
  refine Eval.follows_bind (Arguments.follows_bind a _ _ _) fun bound => ?_
  match bound with
  | [some v, places] =>
      have counted : Eval.Follows r _ _ := follows_roundInt v places
      cases v with
      | float x =>
          refine follows_places places ?_ fun p => ?_
          · exact follows_bind_fixed (follows_lift_fixed _) fun _ => follows_pure rfl
          · refine follows_bind_fixed (Conversion.follows_indexOf p) fun n => ?_
            exact follows_bind_fixed (follows_lift_fixed _) follows_float
      | nan m =>
          refine follows_places places ?_ fun p => ?_
          · exact follows_bind_fixed (follows_lift_fixed _) fun _ => follows_pure rfl
          · exact follows_bind_fixed (Conversion.follows_indexOf p) fun _ => follows_pure rfl
      | _ => exact counted
  | [none, _] => exact follows_fail _
  | [] => exact follows_fail _
  | [none] => exact follows_fail _
  | [some _] => exact follows_fail _
  | none :: _ :: _ :: _ => exact follows_fail _
  | some _ :: _ :: _ :: _ => exact follows_fail _

end Aggregate

end WorkflowEngine
