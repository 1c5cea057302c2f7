import WorkflowEngine.Call.Method
import WorkflowEngine.Proofs.Frame.Value

/-!
# Calls that change no container

Binding arguments and calling types change nothing that is there.  Of the methods only a few change the
value that they belong to, and they change nothing else.
-/

namespace WorkflowEngine

open Eval

variable {n : Nat}

namespace Arguments

variable (a : Arguments) (routine : String)

theorem keeps_single : Keeps n (a.single routine) := by
  unfold single
  split
  · exact keeps_fail _
  · split
    · exact keeps_pure _
    · exact keeps_fail _

theorem keeps_optional : Keeps n (a.optional routine) := by
  unfold optional
  split
  · exact keeps_fail _
  · split
    · exact keeps_pure _
    · exact keeps_pure _
    · exact keeps_fail _

theorem keeps_bind (positionalOnly : Nat) (parameters : List String) :
    Keeps n (a.bind routine positionalOnly parameters) := by
  unfold Arguments.bind
  dsimp only
  split
  · exact keeps_fail _
  · split
    · exact keeps_fail _
    · split
      · exact keeps_fail _
      · exact keeps_pure _

theorem keeps_bindOne (parameter : String) : Keeps n (a.bindOne routine parameter) := by
  unfold bindOne
  dsimp only
  split
  · exact keeps_fail _
  · split
    · exact keeps_pure _
    · exact keeps_pure _
    · exact keeps_fail _
    · exact keeps_fail _
    · exact keeps_fail _

end Arguments

namespace Conversion

variable (a : Arguments) (v : Value)

theorem keeps_indexOf : Keeps n (indexOf v) := by
  unfold indexOf
  split
  · exact keeps_pure _
  · exact keeps_fail _

theorem keeps_optionalText (routine parameter : String) (given : Option Value) :
    Keeps n (optionalText routine parameter given) := by
  unfold optionalText
  split
  · exact keeps_pure _
  · exact keeps_pure _
  · exact keeps_fail _

theorem keeps_toText : Keeps n (toText a) := by
  unfold toText
  refine Eval.keeps_bind (Arguments.keeps_bind a _ _ _) fun given => ?_
  split
  · rename_i object encoding errors
    refine Eval.keeps_bind (keeps_optionalText _ _ encoding) fun encoding => ?_
    refine Eval.keeps_bind (keeps_optionalText _ _ errors) fun errors => ?_
    split
    · exact keeps_pure _
    · split
      · exact Eval.keeps_bind (keeps_text _) fun shown => keeps_pure _
      · split
        · exact Eval.keeps_bind (keeps_lift _) fun decoded => keeps_pure _
        · exact keeps_fail _
        · exact keeps_fail _
  · exact keeps_pure _

theorem keeps_parseInt (base : Nat) (spelled : String) : Keeps n (parseInt base spelled v) := by
  unfold parseInt
  split
  · dsimp only
    split
    · split
      · exact keeps_pure _
      · exact keeps_fail _
    · exact keeps_pure _
  · exact keeps_bind (keeps_source v) fun shown => keeps_fail _

theorem keeps_toInt : Keeps n (toInt a) := by
  unfold toInt
  refine keeps_bind (Arguments.keeps_bind a _ _ _) fun given => ?_
  split
  · exact keeps_pure _
  · exact keeps_fail _
  · split
    · exact keeps_parseInt _ _ _
    · exact keeps_parseInt _ _ _
    · exact keeps_bind (keeps_lift _) fun i => keeps_pure _
    · exact keeps_bind (keeps_lift _) fun i => keeps_pure _
    · split
      · exact keeps_pure _
      · exact keeps_fail _
  · refine keeps_bind (keeps_indexOf _) fun base => ?_
    split
    · exact keeps_fail _
    · split
      · exact keeps_parseInt _ _ _
      · exact keeps_parseInt _ _ _
      · exact keeps_fail _
  · exact keeps_pure _

theorem keeps_toFloat : Keeps n (toFloat a) := by
  unfold toFloat
  refine keeps_bind (Arguments.keeps_optional a _) fun given => ?_
  split
  · exact keeps_pure _
  · dsimp only
    split
    · split
      · exact keeps_float _
      · exact keeps_bind (keeps_source _) fun shown => keeps_fail _
    · split
      · exact keeps_float _
      · exact keeps_bind (keeps_source _) fun shown => keeps_fail _
    · exact keeps_pure _
    · split
      · exact keeps_bind (keeps_lift _) fun x => keeps_pure _
      · exact keeps_float _
      · exact keeps_fail _

theorem keeps_toBool : Keeps n (toBool a) := by
  unfold toBool
  refine keeps_bind (Arguments.keeps_optional a _) fun given => ?_
  split
  · exact keeps_pure _
  · exact keeps_bind (keeps_isTrue _) fun holds => keeps_pure _

theorem keeps_toList : Keeps n (toList a) := by
  unfold toList
  refine keeps_bind (Arguments.keeps_optional a _) fun given => ?_
  split
  · exact keeps_newList _
  · exact keeps_bind (keeps_iterate _) keeps_newList

theorem keeps_toTuple : Keeps n (toTuple a) := by
  unfold toTuple
  refine keeps_bind (Arguments.keeps_optional a _) fun given => ?_
  split
  · exact keeps_newTuple _
  · exact keeps_pure _
  · exact keeps_bind (keeps_iterate _) keeps_newTuple

theorem keeps_toSet : Keeps n (toSet a) := by
  unfold toSet
  refine keeps_bind (Arguments.keeps_optional a _) fun given => ?_
  split
  · exact keeps_newSet _
  · exact keeps_bind (keeps_iterate _) keeps_setOf

theorem keeps_itemsOf : Keeps n (itemsOf? v) := by
  unfold itemsOf?
  split
  · exact keeps_bind (keeps_iterate _) fun values => keeps_pure _
  · exact keeps_bind (keeps_iterate _) fun values => keeps_pure _
  · exact keeps_bind (keeps_items _) fun values => keeps_pure _
  · exact keeps_bind (keeps_items _) fun values => keeps_pure _
  · exact keeps_bind (keeps_items _) fun values => keeps_pure _
  · exact keeps_bind (keeps_entries _) fun entries => keeps_pure _
  · exact keeps_pure _

theorem keeps_addPairs (index : Nat) (done : List (Value × Value)) (pairs : List Value) :
    Keeps n (addPairs index done pairs) := by
  induction pairs generalizing index done with
  | nil => exact keeps_pure done
  | cons pair rest ih =>
      refine keeps_bind (keeps_itemsOf pair) fun parts => ?_
      split
      · exact keeps_fail _
      · exact keeps_bind (keeps_requireKey _) fun _ => keeps_bind keeps_heap fun h => ih _ _
      · exact keeps_fail _

theorem keeps_extend (done : List (Value × Value)) : Keeps n (extend done v) := by
  unfold extend
  split
  · exact keeps_bind keeps_heap fun h => keeps_bind (keeps_entries _) fun entries => keeps_pure _
  · exact keeps_bind (keeps_iterate v) fun pairs => keeps_addPairs _ _ _

theorem keeps_toDict : Keeps n (toDict a) := by
  unfold toDict
  split
  · exact keeps_bind (keeps_pure _) fun start => keeps_bind keeps_heap fun h => keeps_newDict _
  · exact keeps_bind (keeps_extend _ _) fun start => keeps_bind keeps_heap fun h => keeps_newDict _
  · exact keeps_bind (keeps_fail _) fun start => keeps_bind keeps_heap fun h => keeps_newDict _

/-- Calling a type makes a value and changes none. -/
theorem keeps_make (k : Kind) : Keeps n (make k a) := by
  unfold make
  split
  · exact keeps_toText a
  · exact keeps_toInt a
  · exact keeps_toFloat a
  · exact keeps_toBool a
  · exact keeps_toList a
  · exact keeps_toTuple a
  · exact keeps_toSet a
  · exact keeps_toDict a
  · exact keeps_fail _

end Conversion

namespace Method

variable (a : Address) (name : String) (v : Value)

theorem keeps_noArguments (owner : Kind) : Keeps n (noArguments owner name) := by
  exact keeps_fail _

theorem keeps_wants (words : String) : Keeps n (wants name words) := by
  exact keeps_fail _

theorem keeps_indexOf (owner : String) (values : List Value) : Keeps n (indexOf owner values v) := by
  unfold indexOf
  refine keeps_bind keeps_heap fun h => ?_
  split
  · exact keeps_pure _
  · split
    · exact keeps_bind (keeps_source v) fun shown => keeps_fail _
    · exact keeps_fail _

theorem keeps_countOf (values : List Value) : Keeps n (countOf values v) := by
  unfold countOf
  exact keeps_bind keeps_heap fun h => keeps_pure _

theorem keeps_texts (values : List String) : Keeps n (texts values) := by
  exact keeps_newList _

theorem keeps_needText (message : String) : Keeps n (needText message v) := by
  unfold needText
  split
  · exact keeps_pure _
  · exact keeps_fail _

theorem keeps_joined (s : String) (index : Nat) (done : List String) (values : List Value) :
    Keeps n (joined s index done values) := by
  fun_induction joined with
  | case1 => exact keeps_pure _
  | case2 _ _ _ _ ih => exact ih
  | case3 => exact keeps_fail _

theorem keeps_ofText (s : String) : Keeps n (ofText s name v) := by
  unfold ofText
  dsimp only
  split
  · refine keeps_bind (keeps_needText v _) fun part => ?_
    split <;> exact keeps_pure _
  · exact keeps_bind (keeps_needText v _) fun part => keeps_pure _
  · refine keeps_bind (keeps_needText v _) fun part => ?_
    split
    · exact keeps_pure _
    · exact keeps_fail _
  · exact keeps_bind (keeps_needText v _) fun part => keeps_pure _
  · exact keeps_bind (keeps_needText v _) fun part => keeps_pure _
  · split
    · exact keeps_texts _
    · exact keeps_fail _
    · exact keeps_texts _
    · exact keeps_fail _
  · refine keeps_bind (Conversion.keeps_itemsOf v) fun values => ?_
    split
    · exact keeps_joined s 0 [] _
    · exact keeps_fail _
  · exact keeps_bind (keeps_needText v _) fun part => keeps_pure _
  · exact keeps_bind (keeps_needText v _) fun part => keeps_pure _
  · exact keeps_wants _ _
  · split
    · split
      · exact keeps_pure _
      · exact keeps_pure _
      · exact keeps_fail _
    · split
      · refine keeps_bind (Conversion.keeps_indexOf v) fun width => ?_
        exact keeps_when (keeps_fail _) fun _ => keeps_when (keeps_fail _) fun _ => keeps_pure _
      · exact keeps_noArguments _ _

theorem keeps_ofPlainText (s : String) : Keeps n (ofPlainText s name) := by
  unfold ofPlainText
  dsimp only
  split
  case h_7 => exact keeps_texts _
  case h_19 =>
    split
    · exact keeps_pure _
    · exact keeps_fail _
  all_goals exact keeps_pure _

end Method

end WorkflowEngine
