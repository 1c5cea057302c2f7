import WorkflowEngine.Proofs.Frame.Call

/-!
# Methods that change their value

Some methods of lists, dictionaries and sets change the value they are bound to, or the value they are
called on, in place.  They change no other container, and all other methods change none.
-/

namespace WorkflowEngine

open Eval

variable {n : Nat}

namespace Method

/-- The methods that change the value they are bound to, given one argument. -/
def changingBound : Kind → List String
  | .list => ["append", "extend", "remove", "pop"]
  | .dict => ["pop", "setdefault", "update"]
  | .set =>
    ["add", "discard", "remove", "update", "intersection_update", "difference_update", "symmetric_difference_update"]
  | _ => []

/-- The methods that change the value that they are called on, given nothing else. -/
def changingUnbound : Kind → List String
  | .list => ["clear", "reverse", "pop", "sort"]
  | .dict => ["clear", "popitem"]
  | .set => ["clear", "pop"]
  | _ => []

variable {a : Address} {name : String}

/-- The methods of a list change no container but the list, and only some of them do. -/
theorem keeps_ofList (above : name ∈ changingBound .list → n ≤ a) (v : Value) : Keeps n (ofList a name v) := by
  unfold ofList
  refine keeps_bind (keeps_items a) fun values => ?_
  split
  · exact keeps_bind (keeps_write (above (by decide)) _) fun _ => keeps_pure _
  · refine keeps_bind (keeps_iterate v) fun added => ?_
    exact keeps_bind (keeps_write (above (by decide)) _) fun _ => keeps_pure _
  · exact keeps_countOf v values
  · exact keeps_indexOf v _ values
  · refine keeps_bind keeps_heap fun h => ?_
    split
    · exact keeps_bind (keeps_write (above (by decide)) _) fun _ => keeps_pure _
    · exact keeps_fail _
  · refine keeps_bind (Conversion.keeps_indexOf v) fun i => ?_
    split
    · exact keeps_fail _
    · refine keeps_bind (Value.keeps_itemAt values i _) fun item => ?_
      exact keeps_bind (keeps_write (above (by decide)) _) fun _ => keeps_pure _
  · exact keeps_wants _ _
  · exact keeps_fail _
  · exact keeps_noArguments _ _

theorem keeps_ofDict (above : name ∈ changingBound .dict → n ≤ a) (v : Value) : Keeps n (ofDict a name v) := by
  unfold ofDict
  refine keeps_bind (keeps_entries a) fun entries => ?_
  split
  · exact keeps_bind (keeps_requireKey v) fun _ => keeps_bind keeps_heap fun h => keeps_pure _
  · refine keeps_bind (keeps_requireKey v) fun _ => keeps_bind keeps_heap fun h => ?_
    split
    · exact keeps_bind (keeps_write (above (by decide)) _) fun _ => keeps_pure _
    · exact keeps_fail _
  · refine keeps_bind (keeps_requireKey v) fun _ => keeps_bind keeps_heap fun h => ?_
    split
    · exact keeps_pure _
    · exact keeps_bind (keeps_write (above (by decide)) _) fun _ => keeps_pure _
  · refine keeps_bind (Conversion.keeps_extend v entries) fun changed => ?_
    exact keeps_bind (keeps_write (above (by decide)) _) fun _ => keeps_pure _
  · exact keeps_noArguments _ _

theorem keeps_ofSet (above : name ∈ changingBound .set → n ≤ a) (v : Value) : Keeps n (ofSet a name v) := by
  unfold ofSet
  refine keeps_bind (keeps_items a) fun members => keeps_bind keeps_heap fun h => ?_
  have keeping (member : name ∈ changingBound .set) (values : List Value) : Keeps n (do
      write a (.set (settle values))
      return Value.null) :=
    keeps_bind (keeps_write (above member) _) fun _ => keeps_pure _
  dsimp only
  split
  · refine keeps_bind (keeps_requireKey v) fun _ => ?_
    split
    · exact keeps_pure _
    · exact keeping (by decide) _
  · exact keeps_bind (keeps_requireKey v) fun _ => keeping (by decide) _
  · refine keeps_bind (keeps_requireKey v) fun _ => ?_
    split
    · exact keeping (by decide) _
    · exact keeps_fail _
  · exact keeps_noArguments _ _
  · exact keeps_noArguments _ _
  · exact keeps_noArguments _ _
  · -- The others look at the items of the argument first, and branch on their names once more.
    refine keeps_bind (keeps_iterate v) fun others => keeps_bind (keeps_requireKeys others) fun _ => ?_
    refine keeps_bind keeps_heap fun h => ?_
    split
    · exact keeps_newSet _
    · exact keeps_newSet _
    · exact keeps_newSet _
    · exact keeps_newSet _
    · exact keeping (by decide) _
    · exact keeping (by decide) _
    · exact keeping (by decide) _
    · exact keeping (by decide) _
    · exact keeps_pure _
    · exact keeps_pure _
    · exact keeps_pure _
    · exact keeps_noArguments _ _

theorem keeps_ofPlainList (above : name ∈ changingUnbound .list → n ≤ a) : Keeps n (ofPlainList a name) := by
  unfold ofPlainList
  refine keeps_bind (keeps_items a) fun values => ?_
  split
  · exact keeps_newList _
  · exact keeps_bind (keeps_write (above (by decide)) _) fun _ => keeps_pure _
  · exact keeps_bind (keeps_write (above (by decide)) _) fun _ => keeps_pure _
  · split
    · exact keeps_bind (keeps_write (above (by decide)) _) fun _ => keeps_pure _
    · exact keeps_fail _
  · refine keeps_bind keeps_heap fun h => keeps_bind (keeps_lift _) fun sorted => ?_
    exact keeps_bind (keeps_write (above (by decide)) _) fun _ => keeps_pure _
  · exact keeps_fail _
  · exact keeps_fail _
  · exact keeps_fail _

theorem keeps_ofPlainDict (above : name ∈ changingUnbound .dict → n ≤ a) : Keeps n (ofPlainDict a name) := by
  unfold ofPlainDict
  refine keeps_bind (keeps_entries a) fun entries => ?_
  split
  · exact keeps_newDict _
  · exact keeps_bind (keeps_write (above (by decide)) _) fun _ => keeps_pure _
  · split
    · exact keeps_bind (keeps_write (above (by decide)) _) fun _ => keeps_newTuple _
    · exact keeps_fail _
  · exact keeps_fail _
  · exact keeps_fail _
  · exact keeps_fail _
  · exact keeps_pure _
  · exact keeps_pure _

theorem keeps_ofPlainSet (above : name ∈ changingUnbound .set → n ≤ a) : Keeps n (ofPlainSet a name) := by
  unfold ofPlainSet
  refine keeps_bind (keeps_items a) fun members => ?_
  split
  · exact keeps_bind (keeps_write (above (by decide)) _) fun _ => keeps_pure _
  · split
    · exact keeps_bind (keeps_write (above (by decide)) _) fun _ => keeps_pure _
    · exact keeps_fail _
  · split
    · exact keeps_newSet _
    · split
      · exact keeps_pure _
      · exact keeps_fail _

variable {owner v : Value}

/-- A method that is called on its value changes no other container. -/
theorem keeps_callBound (above : ∀ a, owner.address? = some a → name ∈ changingBound owner.kindOf → n ≤ a) :
    Keeps n (callBound owner name v) := by
  unfold callBound
  split
  · exact keeps_ofText name v _
  · exact keeps_ofList (above _ rfl) v
  · exact keeps_ofDict (above _ rfl) v
  · exact keeps_ofSet (above _ rfl) v
  · split
    · exact keeps_bind (keeps_items _) fun values => keeps_countOf v values
    · exact keeps_bind (keeps_items _) fun values => keeps_indexOf v _ values
  · split
    · refine keeps_bind (keeps_iterate v) fun keys => keeps_bind (keeps_requireKeys keys) fun _ => ?_
      exact keeps_bind keeps_heap fun h => keeps_newDict _
    · exact keeps_noArguments name _
  · exact keeps_noArguments name _

/-- A method of a kind changes no container but the one it is called on. -/
theorem keeps_callUnbound {kind : Kind}
    (above : ∀ a, v.address? = some a → v.kindOf = kind → name ∈ changingUnbound kind → n ≤ a) :
    Keeps n (callUnbound kind name v) := by
  unfold callUnbound
  dsimp only
  split
  · exact keeps_fail _
  · rename_i fits
    split
    · exact keeps_ofPlainText name _
    · have same : Kind.list = kind := by simpa [Value.kindOf] using fits
      exact keeps_ofPlainList fun changing => above _ rfl same (same ▸ changing)
    · have same : Kind.dict = kind := by simpa [Value.kindOf] using fits
      exact keeps_ofPlainDict fun changing => above _ rfl same (same ▸ changing)
    · exact keeps_pure _
    · exact keeps_pure _
    · have same : Kind.set = kind := by simpa [Value.kindOf] using fits
      exact keeps_ofPlainSet fun changing => above _ rfl same (same ▸ changing)
    · split
      · split
        · exact keeps_pure _
        · exact keeps_pure _
      · split
        · exact keeps_fail _
        · exact keeps_fail _

end Method

end WorkflowEngine
