import WorkflowEngine.Call.Routine
import WorkflowEngine.Proofs.Frame.Method
import WorkflowEngine.Proofs.Region.Call

/-!
# Methods of free values

A method that changes its value in place puts in only what it is given, and what it yields comes out of the
value or is made anew.  So calls of all values spare the reserved containers where the arguments are free.
-/

namespace WorkflowEngine

open Eval

variable {reserved : Address → Prop} {h : Heap}

namespace Method

variable {a : Address} {v : Value}

theorem spares_noArguments (owner : Kind) (name : String) : Spares reserved h (noArguments owner name) := by
  exact spares_fail _

theorem spares_wants (name words : String) : Spares reserved h (wants name words) := by
  exact spares_fail _

theorem reads_indexOf (owner : String) (values : List Value) (v : Value) :
    Reads reserved h (indexOf owner values v) := by
  unfold indexOf
  refine reads_heap fun _ => ?_
  split
  · exact reads_pure trivial
  · split
    · exact reads_bind (reads_source v) fun shown _ => reads_fail _
    · exact reads_fail _

theorem reads_countOf (values : List Value) (v : Value) : Reads reserved h (countOf values v) := by
  unfold countOf
  exact reads_heap fun _ => reads_pure trivial

/-- A container is changed, and nothing is yielded. -/
theorem spares_change {c : Cell} (free : h.Free reserved c.kind a) (held : Held reserved h c) :
    Spares reserved h (do
      write a c
      return Value.null) :=
  spares_bind (spares_write free held) fun _ _ _ _ => spares_pure trivial

/-- A container is changed, and a value that was free before is yielded. -/
theorem spares_take {c : Cell} (free : h.Free reserved c.kind a) (held : Held reserved h c) (heldValue : Held reserved h v) :
    Spares reserved h (do
      write a c
      return v) :=
  spares_bind (spares_write free held) fun _ _ grown _ => spares_pure (Held.grown heldValue grown)

theorem held_eraseIdx {values : List Value} (held : Held reserved h values) (i : Nat) :
    Held reserved h (values.eraseIdx i) :=
  held.sublist (List.eraseIdx_subset)

theorem spares_ofList (free : h.Free reserved .list a) (name : String) (held : Held reserved h v) :
    Spares reserved h (ofList a name v) := by
  unfold ofList
  refine spares_read (reads_items free.2) fun values heldValues => ?_
  split
  · exact spares_change (c := .list _) free (heldValues.append (Held.cons held Held.nil))
  · refine spares_read (reads_iterate held) fun added heldAdded => ?_
    exact spares_change (c := .list _) free (heldValues.append heldAdded)
  · exact (reads_countOf values v).spares
  · exact (reads_indexOf _ values v).spares
  · refine spares_heap fun _ => ?_
    split
    · exact spares_change (c := .list _) free (held_eraseIdx heldValues _)
    · exact spares_fail _
  · refine spares_read (Conversion.reads_indexOf v) fun i _ => ?_
    split
    · exact spares_fail _
    · refine spares_read (Value.reads_itemAt heldValues i _) fun item heldItem => ?_
      exact spares_take (c := .list _) free (held_eraseIdx heldValues _) heldItem
  · exact spares_wants _ _
  · exact spares_fail _
  · exact spares_noArguments _ _

theorem spares_ofDict (free : h.Free reserved .dict a) (name : String) (held : Held reserved h v) :
    Spares reserved h (ofDict a name v) := by
  unfold ofDict
  refine spares_read (reads_entries free.2) fun entries heldEntries => ?_
  split
  · refine spares_read (reads_requireKey v) fun _ _ => spares_heap fun _ => spares_pure ?_
    cases found : h.lookup entries v with
    | none => trivial
    | some item => exact heldEntries.lookup found
  · refine spares_read (reads_requireKey v) fun _ _ => spares_heap fun _ => ?_
    split
    · rename_i item found
      exact spares_take (c := .dict _) free (heldEntries.dropEntry v) (heldEntries.lookup found)
    · exact spares_fail _
  · refine spares_read (reads_requireKey v) fun _ _ => spares_heap fun _ => ?_
    split
    · rename_i item found
      exact spares_pure (heldEntries.lookup found)
    · exact spares_change (c := .dict _) free (heldEntries.setEntry held trivial)
  · refine spares_read (Conversion.reads_extend heldEntries held) fun changed heldChanged => ?_
    exact spares_change (c := .dict _) free heldChanged
  · exact spares_noArguments _ _

theorem spares_ofSet (free : h.Free reserved .set a) (name : String) (held : Held reserved h v) :
    Spares reserved h (ofSet a name v) := by
  unfold ofSet
  refine spares_read (reads_items free.2) fun members heldMembers => spares_heap fun _ => ?_
  have keeping {values : List Value} (heldValues : Held reserved h values) : Spares reserved h (do
      write a (.set (settle values))
      return Value.null) :=
    spares_change (c := .set _) free heldValues.settle
  dsimp only
  split
  · refine spares_read (reads_requireKey v) fun _ _ => ?_
    split
    · exact spares_pure trivial
    · exact keeping (heldMembers.append (Held.cons held Held.nil))
  · exact spares_read (reads_requireKey v) fun _ _ => keeping (heldMembers.filter _)
  · refine spares_read (reads_requireKey v) fun _ _ => ?_
    split
    · exact keeping (heldMembers.filter _)
    · exact spares_fail _
  · exact spares_noArguments _ _
  · exact spares_noArguments _ _
  · exact spares_noArguments _ _
  · refine spares_read (reads_iterate held) fun others heldOthers => ?_
    refine spares_read (reads_requireKeys others) fun _ _ => spares_heap fun _ => ?_
    have added : Held reserved h (Value.without h (h.distinct [] others) members) :=
      Value.held_without (heldOthers.distinct Held.nil) members
    have common : Held reserved h (members.filter fun item => h.isMember others item) := heldMembers.filter _
    have difference : Held reserved h (Value.without h members others) := Value.held_without heldMembers others
    split
    · exact spares_newSet (heldMembers.append added).settle
    · exact spares_newSet common.settle
    · exact spares_newSet difference.settle
    · exact spares_newSet (difference.append added).settle
    · exact keeping (heldMembers.append added)
    · exact keeping common
    · exact keeping difference
    · exact keeping (difference.append added)
    · exact spares_pure trivial
    · exact spares_pure trivial
    · exact spares_pure trivial
    · exact spares_noArguments _ _

theorem spares_texts (values : List String) : Spares reserved h (texts values) := by
  refine spares_newList fun v listed => ?_
  obtain ⟨s, -, rfl⟩ := List.mem_map.mp listed
  trivial

theorem reads_needText (message : String) (v : Value) : Reads reserved h (needText message v) := by
  unfold needText
  split
  · exact reads_pure trivial
  · exact reads_fail _

theorem reads_joined (s : String) (index : Nat) (done : List String) (values : List Value) :
    Reads reserved h (joined s index done values) := by
  fun_induction joined with
  | case1 => exact reads_pure trivial
  | case2 _ _ _ _ ih => exact ih
  | case3 => exact reads_fail _

theorem spares_ofText (s name : String) (held : Held reserved h v) : Spares reserved h (ofText s name v) := by
  unfold ofText
  dsimp only
  split
  · refine spares_read (reads_needText _ v) fun part _ => ?_
    split <;> exact spares_pure trivial
  · exact spares_read (reads_needText _ v) fun part _ => spares_pure trivial
  · refine spares_read (reads_needText _ v) fun part _ => ?_
    split
    · exact spares_pure trivial
    · exact spares_fail _
  · exact spares_read (reads_needText _ v) fun part _ => spares_pure trivial
  · exact spares_read (reads_needText _ v) fun part _ => spares_pure trivial
  · split
    · exact spares_texts _
    · exact spares_fail _
    · exact spares_texts _
    · exact spares_fail _
  · refine spares_read (Conversion.reads_itemsOf held) fun values _ => ?_
    split
    · exact (reads_joined s 0 [] _).spares
    · exact spares_fail _
  · exact spares_read (reads_needText _ v) fun part _ => spares_pure trivial
  · exact spares_read (reads_needText _ v) fun part _ => spares_pure trivial
  · exact spares_wants _ _
  · split
    · split
      · exact spares_pure trivial
      · exact spares_pure trivial
      · exact spares_fail _
    · split
      · refine spares_read (Conversion.reads_indexOf v) fun width _ => Reads.spares ?_
        exact reads_when (reads_fail _) fun _ => reads_when (reads_fail _) fun _ => reads_pure trivial
      · exact spares_noArguments _ _

theorem spares_ofPlainText (s name : String) : Spares reserved h (ofPlainText s name) := by
  unfold ofPlainText
  dsimp only
  split
  case h_7 => exact spares_texts _
  case h_19 =>
    split
    · exact spares_pure trivial
    · exact spares_fail _
  all_goals exact spares_pure trivial

theorem spares_ofPlainList (free : h.Free reserved .list a) (name : String) :
    Spares reserved h (ofPlainList a name) := by
  unfold ofPlainList
  refine spares_read (reads_items free.2) fun values heldValues => ?_
  split
  · exact spares_newList heldValues
  · exact spares_change (c := .list _) free Held.nil
  · exact spares_change (c := .list _) free heldValues.reverse
  · split
    · rename_i item last
      exact spares_take (c := .list _) free (heldValues.sublist (List.dropLast_subset _))
        (heldValues item (List.mem_of_getLast? last))
    · exact spares_fail _
  · refine spares_heap fun _ => ?_
    dsimp only
    refine spares_read (reads_lift (α := List (Data × Value)) fun sorted out => ?_) fun sorted heldSorted => ?_
    · refine Held.sublist ?_ (Sorting.perm_of_sort out).subset
      exact heldValues.map fun v heldValue => ⟨trivial, heldValue⟩
    · exact spares_change (c := .list _) free (heldSorted.map fun _ heldPair => heldPair.2)
  · exact spares_fail _
  · exact spares_fail _
  · exact spares_fail _

theorem spares_ofPlainDict (free : h.Free reserved .dict a) (name : String) :
    Spares reserved h (ofPlainDict a name) := by
  unfold ofPlainDict
  refine spares_read (reads_entries free.2) fun entries heldEntries => ?_
  split
  · exact spares_newDict heldEntries
  · exact spares_change (c := .dict _) free Held.nil
  · split
    · rename_i key value last
      obtain ⟨heldKey, heldValue⟩ := heldEntries (key, value) (List.mem_of_getLast? last)
      refine spares_bind (spares_write (c := .dict _) free (heldEntries.sublist (List.dropLast_subset _))) ?_
      intro h' _ grown _
      exact spares_newTuple (Held.cons (Held.grown heldKey grown) (Held.cons (Held.grown heldValue grown) Held.nil))
    · exact spares_fail _
  · exact spares_fail _
  · exact spares_fail _
  · exact spares_fail _
  · exact spares_pure trivial
  · exact spares_pure free

theorem spares_ofPlainSet (free : h.Free reserved .set a) (name : String) :
    Spares reserved h (ofPlainSet a name) := by
  unfold ofPlainSet
  refine spares_read (reads_items free.2) fun members heldMembers => ?_
  split
  · exact spares_change (c := .set _) free Held.nil
  · split
    · obtain ⟨first, others⟩ := List.forall_mem_cons.mp heldMembers
      exact spares_take (c := .set _) free others first
    · exact spares_fail _
  · split
    · exact spares_newSet heldMembers
    · split
      · exact spares_pure trivial
      · exact spares_fail _

variable {owner : Value}

/-- A method that is called on a free value with a free argument spares the reserved containers. -/
theorem spares_callBound (heldOwner : Held reserved h owner) (name : String) (held : Held reserved h v) :
    Spares reserved h (callBound owner name v) := by
  unfold callBound
  split
  · exact spares_ofText _ name held
  · exact spares_ofList heldOwner name held
  · exact spares_ofDict heldOwner name held
  · exact spares_ofSet heldOwner name held
  · split
    · exact spares_read (reads_items heldOwner.2) fun values _ => (reads_countOf values v).spares
    · exact spares_read (reads_items heldOwner.2) fun values _ => (reads_indexOf _ values v).spares
  · split
    · refine spares_read (reads_iterate held) fun keys heldKeys => spares_read (reads_requireKeys keys) fun _ _ => ?_
      refine spares_heap fun _ => spares_newDict (Held.nil.setEntries ?_)
      exact heldKeys.map fun key heldKey => ⟨heldKey, trivial⟩
    · exact spares_noArguments _ name
  · exact spares_noArguments _ name

theorem spares_callUnbound (kind : Kind) (name : String) (held : Held reserved h v) :
    Spares reserved h (callUnbound kind name v) := by
  unfold callUnbound
  dsimp only
  split
  · exact spares_fail _
  · split
    · exact spares_ofPlainText _ name
    · exact spares_ofPlainList held name
    · exact spares_ofPlainDict held name
    · exact spares_pure trivial
    · exact spares_pure trivial
    · exact spares_ofPlainSet held name
    · split
      · split
        · exact spares_pure trivial
        · exact spares_pure trivial
      · split
        · exact spares_fail _
        · exact spares_fail _

end Method

variable {apply : Aggregate.Apply} {a : Arguments}

namespace Routine

theorem reads_plain (v : Value) : Reads reserved h (plain v) := by
  unfold plain
  exact reads_bind (reads_view v) fun d _ => reads_lift fun _ _ => trivial

theorem spares_call (spares : apply.Spares reserved) (r : Routine) (held : Held reserved h a) :
    Spares reserved h (r.call apply a) := by
  unfold call
  split
  · refine spares_read (Arguments.reads_single held _) fun v _ => spares_read (reads_length v) fun count _ => ?_
    exact spares_pure trivial
  · exact spares_read (Arguments.reads_single held _) fun v _ => Value.spares_absolute v
  · exact Aggregate.spares_best spares _ _ held
  · exact Aggregate.spares_best spares _ _ held
  · exact Aggregate.spares_round held
  · exact Aggregate.spares_sum held
  · exact Aggregate.spares_sorted spares held
  · refine spares_read (Arguments.reads_bindOne held _ _) fun v _ => spares_read (reads_plain v) fun s _ => ?_
    exact spares_pure trivial
  · refine spares_read (Arguments.reads_bindOne held _ _) fun v _ => spares_read (reads_plain v) fun s _ => ?_
    exact spares_pure trivial
  · refine spares_read (Arguments.reads_bindOne held _ _) fun v _ => spares_read (reads_plain v) fun s _ => ?_
    exact spares_pure trivial
  · refine spares_read (Arguments.reads_bindOne held _ _) fun v heldValue => ?_
    exact Value.spares_multiply heldValue trivial

end Routine

namespace Value

/-- A call of a free value with free arguments spares the reserved containers if applying keys does. -/
theorem spares_callWith (spares : apply.Spares reserved) {callee : Value} (heldCallee : Held reserved h callee)
    (held : Held reserved h a) : Spares reserved h (callee.callWith apply a) := by
  unfold callWith
  split
  · exact Routine.spares_call spares _ held
  · exact Conversion.spares_make _ held
  · split
    · rename_i owner name _ v given
      have heldOwner : Held reserved h owner := heldCallee
      have positional := held.1
      rw [given] at positional
      exact Method.spares_callBound heldOwner name (positional v List.mem_cons_self)
    · exact spares_fail _
  · split
    · exact spares_fail _
    · split
      · rename_i v given
        have positional := held.1
        rw [given] at positional
        exact Method.spares_callUnbound _ _ (positional v List.mem_cons_self)
      · exact spares_fail _
  · exact spares_fail _

theorem spares_applyKey : Aggregate.Apply.Spares reserved applyKey := by
  intro h key item heldKey held
  refine spares_callWith ?_ heldKey (Arguments.held_one held)
  exact fun _ heldItem => spares_pure heldItem

end Value

end WorkflowEngine
