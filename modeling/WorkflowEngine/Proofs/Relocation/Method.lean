import WorkflowEngine.Call.Routine
import WorkflowEngine.Proofs.Relocation.Call

/-!
# Methods of moved values

A method of a moved value changes the container at its new place as the method changes the one at the old place, and
yields what that one yields, moved.  Keys are applied in the same way, so that all calls of moved values follow.
-/

namespace WorkflowEngine

open Eval

variable {r : Relocation}

namespace Method

variable (a : Address) (v : Value)

theorem follows_noArguments (owner : Kind) (name : String) : Follows r (noArguments owner name) (noArguments owner name) :=
  follows_fail _

theorem follows_wants (name words : String) : Follows r (wants name words) (wants name words) :=
  follows_fail _

theorem follows_indexOf (owner : String) (values : List Value) :
    Follows r (indexOf owner values v) (indexOf owner (r.move values) (r.move v)) := by
  refine follows_heap fun h h' moves => ?_
  rw [Relocation.findIdx?_move fun item => moves.sameKey item v]
  cases values.findIdx? fun item => h.sameKey item v with
  | some i => exact follows_pure rfl
  | none =>
      dsimp only
      split
      · exact follows_bind_fixed (follows_source v) fun _ => follows_fail _
      · exact follows_fail _

theorem follows_countOf (values : List Value) : Follows r (countOf values v) (countOf (r.move values) (r.move v)) := by
  refine follows_heap fun h h' moves => follows_pure ?_
  rw [Relocation.countP_move fun item => moves.sameKey item v]
  rfl

/-- A container is changed, and a value is yielded. -/
theorem follows_change (c : Cell) : Follows r
    (do
      write a c
      return v)
    (do
      write (r.address a) (r.move c)
      return r.move v) :=
  follows_bind_fixed (follows_write a c) fun _ => follows_pure rfl

theorem eraseIdx_move (values : List Value) (i : Nat) : (r.move values).eraseIdx i = r.move (values.eraseIdx i) := by
  rw [r.move_list, r.move_list, List.eraseIdx_map]

theorem follows_ofList (name : String) : Follows r (ofList a name v) (ofList (r.address a) name (r.move v)) := by
  refine follows_bind (follows_items a) fun values => ?_
  split
  · have longer : r.move values ++ [r.move v] = r.move (values ++ [v]) := (r.move_append values [v]).symm
    rw [longer]
    exact follows_change a .null (.list _)
  · refine follows_bind (follows_iterate v) fun added => ?_
    rw [← r.move_append]
    exact follows_change a .null (.list _)
  · exact follows_countOf v values
  · exact follows_indexOf v "list" values
  · refine follows_heap fun h h' moves => ?_
    rw [Relocation.findIdx?_move fun item => moves.sameKey item v]
    cases values.findIdx? fun item => h.sameKey item v with
    | some i =>
        dsimp only
        rw [eraseIdx_move]
        exact follows_change a .null (.list _)
    | none => exact follows_fail _
  · refine follows_bind_fixed (Conversion.follows_indexOf v) fun i => ?_
    rw [r.isEmpty_move, r.length_move]
    split
    · exact follows_fail _
    · refine follows_bind (Value.follows_itemAt values i _) fun item => ?_
      rw [eraseIdx_move]
      exact follows_change a item (.list _)
  · exact follows_wants _ _
  · exact follows_fail _
  · exact follows_noArguments _ _

theorem follows_ofDict (name : String) : Follows r (ofDict a name v) (ofDict (r.address a) name (r.move v)) := by
  refine follows_bind (follows_entries a) fun entries => ?_
  split
  · refine follows_bind_fixed (follows_requireKey v) fun _ => follows_heap fun h h' moves => follows_pure ?_
    rw [moves.lookup]
    exact Relocation.getD_move (h.lookup entries v) .null
  · refine follows_bind_fixed (follows_requireKey v) fun _ => follows_heap fun h h' moves => ?_
    rw [moves.lookup, moves.dropEntry]
    cases h.lookup entries v with
    | some found => exact follows_change a found (.dict _)
    | none =>
        refine follows_fail_of_alike ⟨rfl, ?_⟩
        rw [moves.view]
        exact Data.source_move r _
  · refine follows_bind_fixed (follows_requireKey v) fun _ => follows_heap fun h h' moves => ?_
    rw [moves.lookup]
    cases h.lookup entries v with
    | some found => exact follows_pure rfl
    | none =>
        have added : h'.setEntry (r.move entries) (r.move v) .null = r.move (h.setEntry entries v .null) :=
          moves.setEntry entries v .null
        rw [r.move_none]
        dsimp only
        rw [added]
        exact follows_change a .null (.dict _)
  · refine follows_bind (Conversion.follows_extend v entries) fun changed => ?_
    exact follows_change a .null (.dict changed)
  · exact follows_noArguments _ _

theorem follows_ofSet (name : String) : Follows r (ofSet a name v) (ofSet (r.address a) name (r.move v)) := by
  refine follows_bind (follows_items a) fun members => follows_heap fun h h' moves => ?_
  have keeping (values : List Value) : Follows r
      (do
        write a (.set (settle values))
        return Value.null)
      (do
        write (r.address a) (.set (settle (r.move values)))
        return Value.null) := by
    rw [settle_move]
    exact follows_change a .null (.set _)
  have others : (r.move members).filter (fun item => !h'.sameKey item (r.move v)) =
      r.move (members.filter fun item => !h.sameKey item v) :=
    Relocation.move_filter (p := fun item => !h.sameKey item v) (fun item => congrArg not (moves.sameKey item v)) members
  dsimp only
  split
  · refine follows_bind_fixed (follows_requireKey v) fun _ => ?_
    rw [moves.isMember]
    split
    · exact follows_pure rfl
    · have longer : r.move members ++ [r.move v] = r.move (members ++ [v]) := (r.move_append members [v]).symm
      rw [longer]
      exact keeping _
  · refine follows_bind_fixed (follows_requireKey v) fun _ => ?_
    rw [others]
    exact keeping _
  · refine follows_bind_fixed (follows_requireKey v) fun _ => ?_
    rw [moves.isMember, others, moves.view]
    split
    · exact keeping _
    · exact follows_fail_of_alike ⟨rfl, Data.source_move r _⟩
  · exact follows_noArguments _ _
  · exact follows_noArguments _ _
  · exact follows_noArguments _ _
  · refine follows_bind (follows_iterate v) fun given => ?_
    refine follows_bind_fixed (follows_requireKeys given) fun _ => follows_heap fun t t' moves => ?_
    have single : t'.distinct [] (r.move given) = r.move (t.distinct [] given) := Heap.Moves.distinct given moves []
    have common : (r.move members).filter (fun item => t'.isMember (r.move given) item) =
        r.move (members.filter fun item => t.isMember given item) :=
      Relocation.move_filter (fun item => moves.isMember given item) members
    have held : (r.move given).all (fun item => t'.isMember (r.move members) item) =
        given.all fun item => t.isMember members item :=
      Relocation.all_move (fun item => moves.isMember members item) given
    rw [single, common, moves.without, moves.without, held, ← r.move_append, ← r.move_append, r.isEmpty_move, r.length_move,
      r.length_move, settle_move, settle_move, settle_move, settle_move]
    split
    · exact follows_newSet _
    · exact follows_newSet _
    · exact follows_newSet _
    · exact follows_newSet _
    · exact follows_change a .null (.set _)
    · exact follows_change a .null (.set _)
    · exact follows_change a .null (.set _)
    · exact follows_change a .null (.set _)
    · exact follows_pure rfl
    · exact follows_pure rfl
    · exact follows_pure rfl
    · exact follows_noArguments _ _

theorem follows_texts (values : List String) : Follows r (texts values) (texts values) := by
  have same : r.move (values.map Value.str) = values.map Value.str := by
    rw [r.move_list, List.map_map]
    rfl
  have made := follows_newList (r := r) (values.map Value.str)
  rwa [same] at made

theorem follows_needText (message : String) : Follows r (needText message v) (needText message (r.move v)) := by
  cases v with
  | str s => exact follows_pure rfl
  | _ => exact follows_fail _

theorem follows_joined (s : String) (index : Nat) (done : List String) (values : List Value) :
    Follows r (joined s index done values) (joined s index done (r.move values)) := by
  induction values generalizing index done with
  | nil => exact follows_pure rfl
  | cons item rest ih => cases item with
    | str t => exact ih (index + 1) (t :: done)
    | _ => exact follows_fail _

theorem follows_ofText (s name : String) : Follows r (ofText s name v) (ofText s name (r.move v)) := by
  unfold ofText
  dsimp only
  split
  · refine follows_bind_fixed (follows_needText v _) fun part => ?_
    split <;> exact follows_pure rfl
  · exact follows_bind_fixed (follows_needText v _) fun part => follows_pure rfl
  · refine follows_bind_fixed (follows_needText v _) fun part => ?_
    split
    · exact follows_pure rfl
    · exact follows_fail _
  · exact follows_bind_fixed (follows_needText v _) fun part => follows_pure rfl
  · exact follows_bind_fixed (follows_needText v _) fun part => follows_pure rfl
  · cases v with
    | null => exact follows_texts _
    | str part =>
        rw [r.move_str]
        split
        · exact follows_texts _
        · exact follows_fail _
        · exact follows_texts _
        · exact follows_fail _
    | _ => exact follows_fail _
  · refine follows_bind (Conversion.follows_itemsOf v) fun values => ?_
    cases values with
    | some values => exact follows_joined s 0 [] values
    | none => exact follows_fail _
  · exact follows_bind_fixed (follows_needText v _) fun part => follows_pure rfl
  · exact follows_bind_fixed (follows_needText v _) fun part => follows_pure rfl
  · exact follows_wants _ _
  · split
    · cases v with
      | null => exact follows_pure rfl
      | str set => exact follows_pure rfl
      | _ => exact follows_fail _
    · split
      · refine follows_bind_fixed (Conversion.follows_indexOf v) fun width => ?_
        exact follows_when (follows_fail _) fun _ => follows_when (follows_fail _) fun _ => follows_pure rfl
      · exact follows_noArguments _ _

theorem follows_ofPlainText (s name : String) : Follows r (ofPlainText s name) (ofPlainText s name) := by
  unfold ofPlainText
  dsimp only
  split
  case h_7 => exact follows_texts _
  case h_19 =>
    split
    · exact follows_pure rfl
    · exact follows_fail _
  all_goals exact follows_pure rfl

/-- Moved values that are put in order by what they show are the values in order, moved. -/
theorem sort_shown {h h' : Heap} (moves : h.Moves r h') (values : List Value) :
    Sorting.sort (fun x y : Data × Value => Data.compareBy .less x.1 y.1)
        ((r.move values).map fun v => (h'.view v, v)) =
      r.move (Sorting.sort (fun x y : Data × Value => Data.compareBy .less x.1 y.1)
        (values.map fun v => (h.view v, v))) := by
  have shown : (r.move values).map (fun v => (h'.view v, v)) = r.move (values.map fun v => (h.view v, v)) := by
    rw [r.move_list, r.move_list, List.map_map, List.map_map]
    exact List.map_congr_left fun v _ => Prod.ext (moves.view v) rfl
  rw [shown, Aggregate.sort_move]

theorem follows_ofPlainList (name : String) : Follows r (ofPlainList a name) (ofPlainList (r.address a) name) := by
  refine follows_bind (follows_items a) fun values => ?_
  split
  · exact follows_newList values
  · exact follows_change a .null (.list [])
  · rw [← r.move_reverse]
    exact follows_change a .null (.list _)
  · have last : (r.move values).getLast? = r.move values.getLast? := List.getLast?_map
    have front : (r.move values).dropLast = r.move values.dropLast := (List.map_dropLast).symm
    rw [last, front]
    cases values.getLast? with
    | some item => exact follows_change a item (.list _)
    | none => exact follows_fail _
  · refine follows_heap fun h h' moves => ?_
    refine follows_bind (follows_lift (sort_shown moves values)) fun sorted => ?_
    rw [Relocation.map_snd_move]
    exact follows_change a .null (.list _)
  · exact follows_fail _
  · exact follows_fail _
  · exact follows_fail _

theorem follows_ofPlainDict (name : String) : Follows r (ofPlainDict a name) (ofPlainDict (r.address a) name) := by
  refine follows_bind (follows_entries a) fun entries => ?_
  split
  · exact follows_newDict entries
  · exact follows_change a .null (.dict [])
  · have last : (r.move entries).getLast? = r.move entries.getLast? := List.getLast?_map
    have front : (r.move entries).dropLast = r.move entries.dropLast := (List.map_dropLast).symm
    rw [last, front]
    rcases entries.getLast? with _ | ⟨key, value⟩
    · exact follows_fail _
    · exact follows_bind_fixed (follows_write a (.dict _)) fun _ => follows_newTuple [key, value]
  · exact follows_fail _
  · exact follows_fail _
  · exact follows_fail _
  · exact follows_pure rfl
  · exact follows_pure rfl

theorem follows_ofPlainSet (name : String) : Follows r (ofPlainSet a name) (ofPlainSet (r.address a) name) := by
  refine follows_bind (follows_items a) fun members => ?_
  split
  · exact follows_change a .null (.set [])
  · cases members with
    | nil => exact follows_fail _
    | cons item rest => exact follows_change a item (.set rest)
  · split
    · exact follows_newSet members
    · split
      · exact follows_pure rfl
      · exact follows_fail _

/-- A method that is called on a moved value with a moved argument follows. -/
theorem follows_callBound (owner : Value) (name : String) :
    Follows r (callBound owner name v) (callBound (r.move owner) name (r.move v)) := by
  cases owner with
  | str s => exact follows_ofText v s name
  | list a => exact follows_ofList a v name
  | dict a => exact follows_ofDict a v name
  | set a => exact follows_ofSet a v name
  | tuple a =>
      change Follows r (if _ then _ else _) (if _ then _ else _)
      split
      · exact follows_bind (follows_items a) fun values => follows_countOf v values
      · exact follows_bind (follows_items a) fun values => follows_indexOf v "tuple" values
  | type k => cases k with
    | dict =>
        change Follows r (if _ then _ else _) (if _ then _ else _)
        split
        · refine follows_bind (follows_iterate v) fun keys => ?_
          refine follows_bind_fixed (follows_requireKeys keys) fun _ => follows_heap fun h h' moves => ?_
          have named : (r.move keys).map (fun key => (key, Value.null)) = r.move (keys.map fun key => (key, Value.null)) := by
            rw [r.move_list, r.move_list, List.map_map, List.map_map]
            rfl
          rw [named, ← r.move_nil, moves.setEntries]
          exact follows_newDict _
        · exact follows_noArguments _ _
    | _ => exact follows_noArguments _ _
  | _ => exact follows_fail _

/-- The methods of integers that go by the value alone. -/
theorem follows_intMethod (kind : Kind) (name : String) :
    Follows r
      (match v.int? with
      | some i =>
        if name == "bit_length" then pure (Value.int (if i == 0 then 0 else i.natAbs.log2 + 1)) else pure (Value.int i)
      | none =>
        if name == "index" then fail (.typed "index expected at least 1 argument, got 0")
        else fail (.typed (kind.name ++ "." ++ name ++ "() takes exactly one argument (0 given)")))
      (match (r.move v).int? with
      | some i =>
        if name == "bit_length" then pure (Value.int (if i == 0 then 0 else i.natAbs.log2 + 1)) else pure (Value.int i)
      | none =>
        if name == "index" then fail (.typed "index expected at least 1 argument, got 0")
        else fail (.typed (kind.name ++ "." ++ name ++ "() takes exactly one argument (0 given)"))) := by
  rw [r.int?_move]
  cases v.int? with
  | some i =>
      dsimp only
      split <;> exact follows_pure rfl
  | none =>
      dsimp only
      split <;> exact follows_fail _

theorem follows_callUnbound (kind : Kind) (name : String) :
    Follows r (callUnbound kind name v) (callUnbound kind name (r.move v)) := by
  unfold callUnbound
  rw [r.kindOf_move]
  dsimp only
  split
  · exact follows_fail _
  · have counted : Follows r _ _ := follows_intMethod v kind name
    cases v with
    | str s => exact follows_ofPlainText s name
    | list a => exact follows_ofPlainList a name
    | dict a => exact follows_ofPlainDict a name
    | float x => exact follows_pure rfl
    | nan m => exact follows_pure rfl
    | set a => exact follows_ofPlainSet a name
    | _ => exact counted

end Method

variable {apply : Aggregate.Apply} (a : Arguments)

namespace Routine

theorem follows_plain (v : Value) : Follows r (plain v) (plain (r.move v)) := by
  refine follows_bind (follows_view v) fun d => ?_
  rw [Data.plain_move]
  exact follows_lift_fixed _

theorem follows_call (follows : apply.Follows r) (routine : Routine) :
    Follows r (routine.call apply a) (routine.call apply (r.move a)) := by
  cases routine with
  | length =>
      refine follows_bind (Arguments.follows_single a _) fun v => ?_
      exact follows_bind_fixed (follows_length v) fun _ => follows_pure rfl
  | absolute => exact follows_bind (Arguments.follows_single a _) Value.follows_absolute
  | minimum => exact Aggregate.follows_best follows _ _ a
  | maximum => exact Aggregate.follows_best follows _ _ a
  | rounding => exact Aggregate.follows_round a
  | total => exact Aggregate.follows_sum a
  | sorting => exact Aggregate.follows_sorted follows a
  | lowering =>
      refine follows_bind (Arguments.follows_bindOne a _ _) fun v => ?_
      exact follows_bind_fixed (follows_plain v) fun _ => follows_pure rfl
  | raising =>
      refine follows_bind (Arguments.follows_bindOne a _ _) fun v => ?_
      exact follows_bind_fixed (follows_plain v) fun _ => follows_pure rfl
  | trimming =>
      refine follows_bind (Arguments.follows_bindOne a _ _) fun v => ?_
      exact follows_bind_fixed (follows_plain v) fun _ => follows_pure rfl
  | doubling => exact follows_bind (Arguments.follows_bindOne a _ _) fun v => Value.follows_multiply v (.int 2)

end Routine

namespace Value

/-- A call of a moved value with moved arguments follows if applying keys does. -/
theorem follows_callWith (follows : apply.Follows r) (callee : Value) :
    Follows r (callee.callWith apply a) ((r.move callee).callWith apply (r.move a)) := by
  obtain ⟨positional, named⟩ := a
  change Follows r _ ((r.move callee).callWith apply ⟨r.move positional, r.move named⟩)
  cases callee with
  | routine routine => exact Routine.follows_call ⟨positional, named⟩ follows routine
  | type k => exact Conversion.follows_make ⟨positional, named⟩ k
  | method owner name => match positional with
    | [v] => exact Method.follows_callBound v owner name
    | [] => exact follows_fail _
    | _ :: _ :: _ => exact follows_fail _
  | descriptor kind name =>
      change Follows r (if _ then _ else _) (if _ then _ else _)
      split
      · exact follows_fail _
      · match positional with
        | [v] => exact Method.follows_callUnbound v kind name
        | [] => exact follows_fail _
        | _ :: _ :: _ => exact follows_fail _
  | _ => exact follows_fail _

theorem follows_applyKey : Aggregate.Apply.Follows r applyKey := by
  intro key item
  have nothing : Aggregate.Apply.Follows r applyNothing := fun _ _ => follows_pure rfl
  have one : Arguments.one (r.move item) = r.move (Arguments.one item) := rfl
  unfold applyKey
  rw [one]
  exact follows_callWith (.one item) nothing key

end Value

end WorkflowEngine
