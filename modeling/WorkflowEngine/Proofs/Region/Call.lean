import WorkflowEngine.Call.Aggregate
import WorkflowEngine.Call.Conversion
import WorkflowEngine.Proofs.Data.Sorting
import WorkflowEngine.Proofs.Frame.Call
import WorkflowEngine.Proofs.Region.Value

/-!
# Conversions and aggregates of free values

Types are called and items are compared, added and put in order.  What comes out is made of the arguments, of
their items and of what the keys yield.
-/

namespace WorkflowEngine

open Eval

variable {reserved : Address → Prop} {h : Heap} {a : Arguments} {v : Value}

instance : Naming Arguments where
  All Q a := Naming.All Q a.positional ∧ Naming.All Q a.named
  mono weaker all := ⟨Naming.mono weaker all.1, Naming.mono weaker all.2⟩

namespace Arguments

theorem reads_single (held : Held reserved h a) (routine : String) : Reads reserved h (a.single routine) := by
  unfold single
  split
  · exact reads_fail _
  · split
    · rename_i v given
      have positional := held.1
      rw [given] at positional
      exact reads_pure (positional v List.mem_cons_self)
    · exact reads_fail _

theorem reads_optional (held : Held reserved h a) (routine : String) : Reads reserved h (a.optional routine) := by
  unfold optional
  split
  · exact reads_fail _
  · split
    · exact reads_pure Held.none
    · rename_i v given
      have positional := held.1
      rw [given] at positional
      exact reads_pure (Held.some (positional v List.mem_cons_self))
    · exact reads_fail _

/-- What parameters are bound to are arguments. -/
theorem reads_bind (held : Held reserved h a) (routine : String) (positionalOnly : Nat) (parameters : List String) :
    Reads reserved h (a.bind routine positionalOnly parameters) := by
  unfold bind
  dsimp only
  split
  · exact reads_fail _
  · split
    · exact reads_fail _
    · split
      · exact reads_fail _
      · refine reads_pure fun found listed => ?_
        obtain ⟨entry, -, rfl⟩ := List.mem_map.mp listed
        split
        · rename_i v there
          exact Held.some (held.1 v (List.mem_of_getElem? there))
        · split
          · exact Held.none
          · exact fun v there => Held.named held.2 there

theorem reads_bindOne (held : Held reserved h a) (routine parameter : String) :
    Reads reserved h (a.bindOne routine parameter) := by
  unfold bindOne
  dsimp only
  split
  · exact reads_fail _
  · obtain ⟨positional, named⟩ := held
    split
    · rename_i v given _
      rw [given] at positional
      exact reads_pure (positional v List.mem_cons_self)
    · rename_i name v rest _ given
      rw [given] at named
      exact reads_pure (named (name, v) List.mem_cons_self).2
    · exact reads_fail _
    · exact reads_fail _
    · exact reads_fail _

theorem held_one (held : Held reserved h v) : Held reserved h (one v) :=
  ⟨Held.cons held Held.nil, Held.nil⟩

end Arguments

namespace Conversion

theorem reads_indexOf (v : Value) : Reads reserved h (indexOf v) := by
  unfold indexOf
  split
  · exact reads_pure trivial
  · exact reads_fail _

theorem reads_optionalText (routine parameter : String) (given : Option Value) :
    Reads reserved h (optionalText routine parameter given) := by
  unfold optionalText
  split
  · exact reads_pure Held.none
  · exact reads_pure fun _ _ => trivial
  · exact reads_fail _

theorem spares_toText (held : Held reserved h a) : Spares reserved h (toText a) := by
  unfold toText
  refine spares_read (Arguments.reads_bind held _ _ _) fun given _ => ?_
  split
  · rename_i object encoding errors
    refine spares_read (reads_optionalText _ _ _) fun encoding _ => ?_
    refine spares_read (reads_optionalText _ _ _) fun errors _ => ?_
    split
    · exact spares_pure trivial
    · split
      · exact spares_read (reads_text _) fun shown _ => spares_pure trivial
      · split
        · exact spares_read (reads_lift fun _ _ => trivial) fun decoded _ => spares_pure trivial
        · exact spares_fail _
        · exact spares_fail _
  · exact spares_pure trivial

theorem reads_parseInt (base : Nat) (spelled : String) (v : Value) : Reads reserved h (parseInt base spelled v) := by
  unfold parseInt
  split
  · dsimp only
    split
    · split
      · exact reads_pure trivial
      · exact reads_fail _
    · exact reads_pure trivial
  · exact reads_bind (reads_source v) fun shown _ => reads_fail _

theorem spares_toInt (held : Held reserved h a) : Spares reserved h (toInt a) := by
  unfold toInt
  refine spares_read (Arguments.reads_bind held _ _ _) fun given _ => ?_
  split
  · exact spares_pure trivial
  · exact spares_fail _
  · split
    · exact (reads_parseInt _ _ _).spares
    · exact (reads_parseInt _ _ _).spares
    · exact spares_read (reads_lift fun _ _ => trivial) fun i _ => spares_pure trivial
    · exact spares_read (reads_lift fun _ _ => trivial) fun i _ => spares_pure trivial
    · split
      · exact spares_pure trivial
      · exact spares_fail _
  · refine spares_read (reads_indexOf _) fun base _ => ?_
    split
    · exact spares_fail _
    · split
      · exact (reads_parseInt _ _ _).spares
      · exact (reads_parseInt _ _ _).spares
      · exact spares_fail _
  · exact spares_pure trivial

theorem spares_toFloat (held : Held reserved h a) : Spares reserved h (toFloat a) := by
  unfold toFloat
  refine spares_read (Arguments.reads_optional held _) fun given _ => ?_
  split
  · exact spares_pure trivial
  · dsimp only
    split
    · split
      · exact spares_float _
      · exact spares_read (reads_source _) fun shown _ => spares_fail _
    · split
      · exact spares_float _
      · exact spares_read (reads_source _) fun shown _ => spares_fail _
    · exact spares_pure trivial
    · split
      · exact spares_read (reads_lift fun _ _ => trivial) fun x _ => spares_pure trivial
      · exact spares_float _
      · exact spares_fail _

theorem spares_toBool (held : Held reserved h a) : Spares reserved h (toBool a) := by
  unfold toBool
  refine spares_read (Arguments.reads_optional held _) fun given _ => ?_
  split
  · exact spares_pure trivial
  · exact spares_read (reads_isTrue _) fun holds _ => spares_pure trivial

theorem spares_toList (held : Held reserved h a) : Spares reserved h (toList a) := by
  unfold toList
  refine spares_read (Arguments.reads_optional held _) fun given heldGiven => ?_
  split
  · exact spares_newList Held.nil
  · exact spares_read (reads_iterate (heldGiven _ rfl)) fun values heldValues => spares_newList heldValues

theorem spares_toTuple (held : Held reserved h a) : Spares reserved h (toTuple a) := by
  unfold toTuple
  refine spares_read (Arguments.reads_optional held _) fun given heldGiven => ?_
  split
  · exact spares_newTuple Held.nil
  · exact spares_pure (heldGiven _ rfl)
  · exact spares_read (reads_iterate (heldGiven _ rfl)) fun values heldValues => spares_newTuple heldValues

theorem spares_toSet (held : Held reserved h a) : Spares reserved h (toSet a) := by
  unfold toSet
  refine spares_read (Arguments.reads_optional held _) fun given heldGiven => ?_
  split
  · exact spares_newSet Held.nil
  · exact spares_read (reads_iterate (heldGiven _ rfl)) fun values heldValues => spares_setOf heldValues

theorem reads_itemsOf (held : Held reserved h v) : Reads reserved h (itemsOf? v) := by
  unfold itemsOf?
  split
  · exact reads_bind (reads_iterate held) fun values heldValues => reads_pure heldValues.some
  · exact reads_bind (reads_iterate held) fun values heldValues => reads_pure heldValues.some
  · exact reads_bind (reads_items held.2) fun values heldValues => reads_pure heldValues.some
  · exact reads_bind (reads_items held.2) fun values heldValues => reads_pure heldValues.some
  · exact reads_bind (reads_items held.2) fun values heldValues => reads_pure heldValues.some
  · exact reads_bind (reads_entries held.2) fun entries heldEntries => reads_pure heldEntries.keys.some
  · exact reads_pure Held.none

theorem reads_addPairs (index : Nat) {done : List (Value × Value)} (before : Held reserved h done)
    {pairs : List Value} (held : Held reserved h pairs) : Reads reserved h (addPairs index done pairs) := by
  induction pairs generalizing index done with
  | nil => exact reads_pure before
  | cons pair rest ih =>
      obtain ⟨first, others⟩ := List.forall_mem_cons.mp held
      refine Eval.reads_bind (reads_itemsOf first) fun parts heldParts => ?_
      split
      · exact reads_fail _
      · rename_i key value
        have both := heldParts _ rfl
        refine Eval.reads_bind (reads_requireKey _) fun _ _ => reads_heap fun _ => ih _ ?_ others
        exact before.setEntry (both key List.mem_cons_self) (both value (List.mem_cons_of_mem _ List.mem_cons_self))
      · exact reads_fail _

theorem reads_extend {done : List (Value × Value)} (before : Held reserved h done) (held : Held reserved h v) :
    Reads reserved h (extend done v) := by
  unfold extend
  split
  · refine reads_heap fun _ => Eval.reads_bind (reads_entries held.2) fun entries heldEntries => reads_pure ?_
    exact before.setEntries heldEntries
  · exact Eval.reads_bind (reads_iterate held) fun pairs heldPairs => reads_addPairs _ before heldPairs

/-- Named values as entries. -/
theorem held_entries {named : List (String × Value)} (held : Held reserved h named) :
    Held reserved h (named.map fun entry => (Value.str entry.1, entry.2)) :=
  held.map fun _ heldEntry => ⟨trivial, heldEntry.2⟩

theorem spares_toDict (held : Held reserved h a) : Spares reserved h (toDict a) := by
  have rest {start : List (Value × Value)} (heldStart : Held reserved h start) : Spares reserved h (do
      newDict ((← heap).setEntries start (a.named.map fun entry => (.str entry.1, entry.2)))) :=
    spares_heap fun _ => spares_newDict (heldStart.setEntries (held_entries held.2))
  unfold toDict
  split
  · exact spares_read (reads_pure Held.nil) fun start heldStart => rest heldStart
  · rename_i v given
    have positional := held.1
    rw [given] at positional
    exact spares_read (reads_extend Held.nil (positional v List.mem_cons_self)) fun start heldStart => rest heldStart
  · exact spares_read (reads_fail _) fun start heldStart => rest heldStart

/-- Calling a type makes a value of free values. -/
theorem spares_make (k : Kind) (held : Held reserved h a) : Spares reserved h (make k a) := by
  unfold make
  split
  · exact spares_toText held
  · exact spares_toInt held
  · exact spares_toFloat held
  · exact spares_toBool held
  · exact spares_toList held
  · exact spares_toTuple held
  · exact spares_toSet held
  · exact spares_toDict held
  · exact spares_fail _

end Conversion

namespace Aggregate

variable {apply : Apply}

/-- Applying keys to items spares the reserved containers, whatever has become of the heap. -/
def Apply.Spares (reserved : Address → Prop) (apply : Apply) : Prop :=
  ∀ {h : Heap} {key item : Value}, Held reserved h key → Held reserved h item →
    Eval.Spares reserved h (apply key item)

theorem spares_keyOf (spares : apply.Spares reserved) {key : Option Value} (heldKey : Held reserved h key)
    (held : Held reserved h v) : Eval.Spares reserved h (keyOf apply key v) := by
  unfold keyOf
  split
  · exact spares_pure held
  · exact spares_pure held
  · exact spares (heldKey _ rfl) held

theorem spares_bestFrom (spares : apply.Spares reserved) {key : Option Value} (c : Comparison) (fuel : Nat)
    {best : Option (Value × Value)} {cursor : Cursor} (heldKey : Held reserved h key) (heldBest : Held reserved h best)
    (held : Held reserved h cursor) : Eval.Spares reserved h (bestFrom apply key c fuel best cursor) := by
  induction fuel generalizing h best cursor with
  | zero => exact spares_pure heldBest
  | succ fuel ih =>
      unfold bestFrom
      refine spares_read (Cursor.reads_next held) fun found heldFound => ?_
      split
      · exact spares_pure heldBest
      · rename_i item cursor
        obtain ⟨heldItem, heldCursor⟩ := heldFound _ rfl
        refine Eval.spares_bind (spares_keyOf spares heldKey heldItem) fun h' k grown heldK => ?_
        have later : Held reserved h' (some (item, k)) := Held.some ⟨Held.grown heldItem grown, heldK⟩
        split
        · exact ih (heldKey.grown grown) later (Held.grown heldCursor grown)
        · refine spares_read (Value.reads_compare _ _ _) fun better _ => ?_
          split
          · exact ih (heldKey.grown grown) later (Held.grown heldCursor grown)
          · exact ih (heldKey.grown grown) (heldBest.grown grown) (Held.grown heldCursor grown)

theorem reads_cursorFor (key : Option Value) (held : Held reserved h v) : Reads reserved h (cursorFor key v) := by
  unfold cursorFor
  split
  · exact Cursor.reads_start held
  · exact Cursor.reads_start held
  · exact reads_bind (reads_iterate held) fun values heldValues => reads_pure heldValues

theorem spares_best (spares : apply.Spares reserved) (routine : String) (c : Comparison) (held : Held reserved h a) :
    Eval.Spares reserved h (best apply routine c a) := by
  unfold best
  extract_lets several
  split
  · exact spares_fail _
  · refine spares_read (Arguments.reads_bind (a := ⟨[], a.named⟩) ⟨Held.nil, held.2⟩ _ _ _) fun bound heldBound => ?_
    split
    · rename_i key fallback
      have heldKey := heldBound key List.mem_cons_self
      have heldFallback := heldBound fallback (List.mem_cons_of_mem _ List.mem_cons_self)
      extract_lets choose
      have chosen {cursor : Cursor} (heldCursor : Held reserved h cursor) : Eval.Spares reserved h (choose cursor) := by
        refine Eval.spares_bind (spares_bestFrom spares c walkLimit heldKey Held.none heldCursor) ?_
        intro h' found grown heldFound
        split
        · exact spares_pure (heldFound _ rfl).1
        · split
          · exact spares_pure (Held.grown (heldFallback _ rfl) grown)
          · exact spares_fail _
      split
      · exact spares_fail _
      · split
        · rename_i v given
          have positional := held.1
          rw [given] at positional
          exact spares_read (reads_cursorFor key (positional v List.mem_cons_self)) fun cursor => chosen
        · exact spares_read (reads_pure held.1) fun cursor => chosen
    · exact spares_pure trivial

theorem spares_sumFrom (total : Value) (heldTotal : Held reserved h total) {items : List Value}
    (held : Held reserved h items) : Eval.Spares reserved h (sumFrom total items) := by
  induction items generalizing h total with
  | nil => exact spares_pure heldTotal
  | cons item rest ih =>
      obtain ⟨first, others⟩ := List.forall_mem_cons.mp held
      refine Eval.spares_bind (Value.spares_add heldTotal first) fun h' sum grown heldSum => ?_
      exact ih sum heldSum (Held.grown others grown)

theorem spares_sum (held : Held reserved h a) : Eval.Spares reserved h (sum a) := by
  unfold sum
  split
  · exact spares_fail _
  · refine spares_read (Arguments.reads_bind held _ _ _) fun bound heldBound => ?_
    split
    · rename_i v start
      have heldStart := heldBound start (List.mem_cons_of_mem _ List.mem_cons_self)
      refine spares_read (reads_iterate (heldBound _ List.mem_cons_self v rfl)) fun values heldValues => ?_
      split
      · exact spares_sumFrom (.int 0) trivial heldValues
      · exact spares_fail _
      · exact spares_fail _
      · exact spares_sumFrom _ (heldStart _ rfl) heldValues
    · exact spares_pure trivial

theorem spares_keysOf (spares : apply.Spares reserved) {key : Option Value} (heldKey : Held reserved h key)
    {done : List (Data × Value)} (before : Held reserved h done) {items : List Value} (held : Held reserved h items) :
    Eval.Spares reserved h (keysOf apply key done items) := by
  induction items generalizing h done with
  | nil => exact spares_pure before.reverse
  | cons item rest ih =>
      obtain ⟨first, others⟩ := List.forall_mem_cons.mp held
      refine Eval.spares_bind (spares_keyOf spares heldKey first) fun h' k grown _ => ?_
      refine spares_read (reads_view k) fun shown _ => ih (heldKey.grown grown) ?_ (Held.grown others grown)
      exact Held.cons ⟨trivial, Held.grown first grown⟩ (before.grown grown)

theorem spares_sorted (spares : apply.Spares reserved) (held : Held reserved h a) :
    Eval.Spares reserved h (sorted apply a) := by
  unfold sorted
  split
  · rename_i v given
    have positional := held.1
    rw [given] at positional
    refine spares_read (reads_iterate (positional v List.mem_cons_self)) fun values heldValues => ?_
    refine spares_read (Arguments.reads_bind (a := ⟨[], a.named⟩) ⟨Held.nil, held.2⟩ _ _ _) fun bound heldBound => ?_
    split
    · rename_i key reverse
      have heldKey := heldBound key List.mem_cons_self
      have rest (falling : Bool) : Eval.Spares reserved h (do
          let pairs ← keysOf apply key [] values
          let less (x y : Data × Value) := Data.compareBy .less x.1 y.1
          if falling then
            newList ((← lift (Sorting.sort less pairs.reverse)).reverse.map Prod.snd)
          else newList ((← lift (Sorting.sort less pairs)).map Prod.snd)) := by
        refine Eval.spares_bind (spares_keysOf spares heldKey Held.nil heldValues) fun h' pairs _ heldPairs => ?_
        dsimp only
        split
        · refine spares_read (reads_lift fun out sorted => heldPairs.reverse.sublist (Sorting.perm_of_sort sorted).subset) ?_
          exact fun out heldOut => spares_newList (heldOut.reverse.map fun _ heldPair => heldPair.2)
        · refine spares_read (reads_lift fun out sorted => heldPairs.sublist (Sorting.perm_of_sort sorted).subset) ?_
          exact fun out heldOut => spares_newList (heldOut.map fun _ heldPair => heldPair.2)
      split
      · exact spares_read (reads_pure trivial) fun falling _ => rest falling
      · refine spares_read (Conversion.reads_indexOf _) fun i _ => ?_
        exact spares_read (reads_pure trivial) fun falling _ => rest falling
    · exact spares_newList heldValues
  · exact spares_fail _

theorem spares_round (held : Held reserved h a) : Eval.Spares reserved h (round a) := by
  unfold round
  refine spares_read (Arguments.reads_bind held _ _ _) fun bound _ => ?_
  split
  · dsimp only
    split
    · split
      · exact spares_read (reads_lift fun _ _ => trivial) fun i _ => spares_pure trivial
      · refine spares_read (Conversion.reads_indexOf _) fun places _ => ?_
        exact spares_read (reads_lift fun _ _ => trivial) fun x _ => spares_float x
    · split
      · exact spares_read (reads_lift fun _ _ => trivial) fun i _ => spares_pure trivial
      · exact spares_read (Conversion.reads_indexOf _) fun places _ => spares_pure trivial
    · split
      · split
        · exact spares_pure trivial
        · exact spares_read (Conversion.reads_indexOf _) fun places _ => spares_pure trivial
      · exact spares_fail _
  · exact spares_fail _

end Aggregate

end WorkflowEngine
