import WorkflowEngine.Data.Comparison
import WorkflowEngine.Data.Sorting
import WorkflowEngine.Json.Writer
import WorkflowEngine.Layout.Percent
import WorkflowEngine.Proofs.Relocation.Basic

/-!
# What marks do not change

The marks of missing numbers and of the owners of methods are compared with each other and never shown.  So moved data is
equal to moved data exactly where the data is, has the same order, the same text and the same layout, and is put in the
same order by a sort.
-/

namespace WorkflowEngine

open Relocation (Fixes)

namespace Data

variable (r : Relocation) (a b d : Data)

@[simp]
theorem kindOf_move : (r.move d).kindOf = d.kindOf := by
  cases d <;> rfl

@[simp]
theorem number?_move : (r.move d).number? = d.number? := by
  cases d <;> rfl

@[simp]
theorem str?_move : (r.move d).str? = d.str? := by
  cases d <;> rfl

theorem field?_move (entries : List (Data × Data)) (name : String) :
    field? (r.move entries) name = r.move (field? entries name) := by
  induction entries with
  | nil => rfl
  | cons e rest ih =>
      unfold field? at ih ⊢
      rw [r.move_cons, List.find?_cons, List.find?_cons, r.fst_move, str?_move]
      cases e.1.str? == some name
      · exact ih
      · rfl

mutual

/-- Parts are the same exactly when they are after the move. -/
theorem same_move (a b : Data) : same (r.move a) (r.move b) = same a b := by
  cases a with
  | nan m => cases b with
    | nan m' => exact decide_eq_decide.mpr r.mark_injective.eq_iff
    | _ => rfl
  | list items => cases b with
    | list others =>
        rw [r.move_data_list, r.move_data_list]
        exact allSame_move items others
    | _ => rfl
  | tuple items => cases b with
    | tuple others =>
        rw [r.move_data_tuple, r.move_data_tuple]
        exact allSame_move items others
    | _ => rfl
  | set items => cases b with
    | set others =>
        rw [r.move_data_set, r.move_data_set, same, same, r.length_move, r.length_move, allMembers_move items others]
    | _ => rfl
  | dict entries => cases b with
    | dict others =>
        rw [r.move_data_dict, r.move_data_dict, same, same, r.length_move, r.length_move, allEntries_move entries others]
    | _ => rfl
  | method owner name mark => cases b with
    | method owner' name' mark' =>
        have marks : (r.address mark == r.address mark') = (mark == mark') :=
          decide_eq_decide.mpr r.address_injective.eq_iff
        exact congrArg (fun same => owner == owner' && name == name' && same) marks
    | _ => rfl
  | slice lower upper step => cases b with
    | slice lower' upper' step' =>
        have bounds := congr (congrArg and (congr (congrArg and (same_move lower lower')) (same_move upper upper')))
          (same_move step step')
        exact bounds
    | _ => rfl
  | _ => cases b <;> rfl

theorem allSame_move (items others : List Data) : allSame (r.move items) (r.move others) = allSame items others := by
  cases items with
  | nil => cases others <;> rfl
  | cons a rest => cases others with
    | nil => rfl
    | cons b others => rw [r.move_cons, r.move_cons, allSame, allSame, same_move a b, allSame_move rest others]

theorem allMembers_move (items others : List Data) :
    allMembers (r.move items) (r.move others) = allMembers items others := by
  cases items with
  | nil => rfl
  | cons a rest =>
      have found : (r.move others).any (fun b => same (r.move a) b) = others.any fun b => same a b := by
        rw [r.move_list, List.any_map]
        exact congrArg others.any (funext fun b => same_move a b)
      rw [r.move_cons, allMembers, allMembers, found, allMembers_move rest others]

theorem allEntries_move (entries others : List (Data × Data)) :
    allEntries (r.move entries) (r.move others) = allEntries entries others := by
  rcases entries with _ | ⟨⟨key, value⟩, rest⟩
  · rfl
  · have found : (r.move others).any (fun e => same (r.move key) e.1 && same (r.move value) e.2) =
        others.any fun e => same key e.1 && same value e.2 := by
      rw [r.move_list, List.any_map]
      exact congrArg others.any (funext fun e => congr (congrArg and (same_move key e.1)) (same_move value e.2))
    rw [r.move_cons, r.move_pair, allEntries, allEntries, found, allEntries_move rest others]

end

theorem equals_move : equals (r.move a) (r.move b) = equals a b := by
  cases a with
  | nan m => rfl
  | list items => exact same_move r (.list items) b
  | tuple items => exact same_move r (.tuple items) b
  | set items => exact same_move r (.set items) b
  | dict entries => exact same_move r (.dict entries) b
  | method owner name mark => exact same_move r (.method owner name mark) b
  | slice lower upper step => exact same_move r (.slice lower upper step) b
  | _ => cases b <;> rfl

theorem compareSets_move (c : Comparison) (items others : List Data) :
    compareSets c (r.move items) (r.move others) = compareSets c items others := by
  cases c <;> simp only [compareSets, r.length_move, allMembers_move]

mutual

/-- Values have an order exactly when they have it after the move, and it is the same. -/
theorem compareBy_move (c : Comparison) (a b : Data) : compareBy c (r.move a) (r.move b) = compareBy c a b := by
  cases a with
  | list items => cases b with
    | list others =>
        rw [r.move_data_list, r.move_data_list]
        exact compareItems_move c items others
    | _ => rfl
  | tuple items => cases b with
    | tuple others =>
        rw [r.move_data_tuple, r.move_data_tuple]
        exact compareItems_move c items others
    | _ => rfl
  | set items => cases b with
    | set others =>
        rw [r.move_data_set, r.move_data_set, compareBy, compareBy, compareSets_move]
    | _ => rfl
  | _ => cases b <;> rfl

theorem compareItems_move (c : Comparison) (items others : List Data) :
    compareItems c (r.move items) (r.move others) = compareItems c items others := by
  cases items with
  | nil => cases others <;> rfl
  | cons a rest => cases others with
    | nil => rfl
    | cons b others =>
        rw [r.move_cons, r.move_cons, compareItems, compareItems, same_move, compareBy_move c a b,
          compareItems_move c rest others]

end

mutual

theorem unhashable?_move (d : Data) : (r.move d).unhashable? = d.unhashable? := by
  cases d with
  | tuple items =>
      rw [r.move_data_tuple]
      exact anyUnhashable?_move items
  | _ => rfl

theorem anyUnhashable?_move (items : List Data) : anyUnhashable? (r.move items) = anyUnhashable? items := by
  cases items with
  | nil => rfl
  | cons item rest => rw [r.move_cons, anyUnhashable?, anyUnhashable?, unhashable?_move item, anyUnhashable?_move rest]

end

mutual

theorem copyFault?_move (d : Data) : (r.move d).copyFault? = d.copyFault? := by
  cases d with
  | list items =>
      rw [r.move_data_list]
      exact copyFaultIn?_move items
  | tuple items =>
      rw [r.move_data_tuple]
      exact copyFaultIn?_move items
  | set items =>
      rw [r.move_data_set]
      exact copyFaultIn?_move items
  | dict entries =>
      rw [r.move_data_dict]
      exact copyFaultAmong?_move entries
  | _ => rfl

theorem copyFaultIn?_move (items : List Data) : copyFaultIn? (r.move items) = copyFaultIn? items := by
  cases items with
  | nil => rfl
  | cons item rest => rw [r.move_cons, copyFaultIn?, copyFaultIn?, copyFault?_move item, copyFaultIn?_move rest]

theorem copyFaultAmong?_move (entries : List (Data × Data)) :
    copyFaultAmong? (r.move entries) = copyFaultAmong? entries := by
  rcases entries with _ | ⟨⟨key, value⟩, rest⟩
  · rfl
  · rw [r.move_cons, r.move_pair, copyFaultAmong?, copyFaultAmong?, copyFault?_move key, copyFault?_move value,
      copyFaultAmong?_move rest]

end

mutual

theorem sourceIn_move (path : List Kind) (d : Data) : sourceIn path (r.move d) = sourceIn path d := by
  cases d with
  | list items =>
      rw [r.move_data_list]
      exact congrArg (fun texts => "[" ++ ", ".intercalate texts ++ "]") (sourceItems_move (.list :: path) [] items)
  | tuple items =>
      have texts := sourceItems_move (.tuple :: path) [] items
      rw [r.move_data_tuple, sourceIn.eq_def, sourceIn.eq_def]
      dsimp only
      rw [texts]
  | set items =>
      have texts := sourceItems_move (.set :: path) [] items
      rw [r.move_data_set, sourceIn.eq_def, sourceIn.eq_def]
      dsimp only
      rw [texts]
  | dict entries =>
      rw [r.move_data_dict]
      exact congrArg (fun texts => "\x7b" ++ ", ".intercalate texts ++ "\x7d")
        (sourceEntries_move (.dict :: path) [] entries)
  | slice lower upper step =>
      have bounds := congr (congr (congrArg (fun l u s => "slice(" ++ l ++ ", " ++ u ++ ", " ++ s ++ ")")
        (sourceIn_move path lower)) (sourceIn_move path upper)) (sourceIn_move path step)
      exact bounds
  | _ => rfl

theorem sourceItems_move (path : List Kind) (done : List String) (items : List Data) :
    sourceItems path done (r.move items) = sourceItems path done items := by
  cases items with
  | nil => rfl
  | cons item rest =>
      rw [r.move_cons, sourceItems, sourceItems, sourceIn_move path item]
      exact sourceItems_move path _ rest

theorem sourceEntries_move (path : List Kind) (done : List String) (entries : List (Data × Data)) :
    sourceEntries path done (r.move entries) = sourceEntries path done entries := by
  rcases entries with _ | ⟨⟨key, value⟩, rest⟩
  · rfl
  · rw [r.move_cons, r.move_pair, sourceEntries, sourceEntries, sourceIn_move path key, sourceIn_move path value]
    exact sourceEntries_move path _ rest

end

/-- Marks are not shown. -/
@[simp]
theorem source_move : (r.move d).source = d.source :=
  sourceIn_move r [] d

@[simp]
theorem text_move : (r.move d).text = d.text := by
  cases d with
  | str s => rfl
  | _ => exact source_move r _

mutual

theorem isOverlong_move (d : Data) : (r.move d).isOverlong = d.isOverlong := by
  cases d with
  | list items =>
      rw [r.move_data_list]
      exact anyOverlong_move items
  | tuple items =>
      rw [r.move_data_tuple]
      exact anyOverlong_move items
  | set items =>
      rw [r.move_data_set]
      exact anyOverlong_move items
  | dict entries =>
      rw [r.move_data_dict]
      exact anyOverlongEntry_move entries
  | _ => rfl

theorem anyOverlong_move (items : List Data) : anyOverlong (r.move items) = anyOverlong items := by
  cases items with
  | nil => rfl
  | cons item rest => rw [r.move_cons, anyOverlong, anyOverlong, isOverlong_move item, anyOverlong_move rest]

theorem anyOverlongEntry_move (entries : List (Data × Data)) :
    anyOverlongEntry (r.move entries) = anyOverlongEntry entries := by
  rcases entries with _ | ⟨⟨key, value⟩, rest⟩
  · rfl
  · rw [r.move_cons, r.move_pair, anyOverlongEntry, anyOverlongEntry, isOverlong_move key, isOverlong_move value,
      anyOverlongEntry_move rest]

end

@[simp]
theorem text?_move : (r.move d).text? = d.text? := by
  rw [text?, text?, isOverlong_move, text_move]

@[simp]
theorem source?_move : (r.move d).source? = d.source? := by
  rw [source?, source?, isOverlong_move, source_move]

theorem layout_move (spec : String) : (r.move d).layout spec = d.layout spec := by
  unfold layout
  rw [text?_move]
  cases d <;> rfl

end Data

namespace Layout

variable (r : Relocation)

instance : Movable Mark := .fixed Mark
instance : Fixes Mark := ⟨fun _ _ => rfl⟩

instance : Movable Supply where
  moved r s := ⟨r.move s.queue, r.move s.named⟩

variable (s : Supply) (d : Data)

theorem ofData_move : Supply.ofData (r.move d) = r.move (Supply.ofData d) := by
  cases d with
  | tuple items =>
      rw [r.move_data_tuple]
      rfl
  | _ => rfl

theorem next_move : (r.move s).next = r.move s.next := by
  obtain ⟨queue, named⟩ := s
  cases queue <;> rfl

theorem nextInt_move : (r.move s).nextInt = r.move s.nextInt := by
  unfold Supply.nextInt
  rw [next_move]
  rcases s.next with f | ⟨d, s⟩
  · rfl
  · cases d <;> rfl

theorem select_move (name : String) : (r.move s).select name = r.move (s.select name) := by
  obtain ⟨queue, _ | d⟩ := s
  · rfl
  · cases d with
    | dict entries =>
        have named : r.move (some (Data.dict entries)) = some (.dict (r.move entries)) :=
          congrArg some (r.move_data_dict entries)
        change Supply.select ⟨r.move queue, r.move (some (.dict entries))⟩ name = _
        rw [named, Supply.select, Supply.select]
        dsimp only
        rw [Data.field?_move]
        cases Data.field? entries name with
        | none => rfl
        | some d => exact congrArg (fun named => Except.ok (⟨[r.move d], named⟩ : Supply)) named.symm
    | _ => rfl

theorem takeWidth_move (m : Mark) (chars : List Char) : takeWidth m (r.move s) chars = r.move (takeWidth m s chars) := by
  unfold takeWidth
  split
  · rw [nextInt_move]
    refine r.move_bind fun ⟨i, s⟩ => ?_
    rw [r.move_pair, r.move_fixed i]
    dsimp only
    split <;> simp
  · dsimp only
    split <;> simp

theorem takePlaces_move (m : Mark) (chars : List Char) :
    takePlaces m (r.move s) chars = r.move (takePlaces m s chars) := by
  unfold takePlaces
  split
  · rw [nextInt_move]
    refine r.move_bind fun ⟨i, s⟩ => ?_
    rw [r.move_pair, r.move_fixed i]
    dsimp only
    split <;> simp
  · dsimp only
    split <;> simp
  · simp

theorem integerOf_move (letter : Char) : integerOf letter (r.move d) = integerOf letter d := by
  unfold integerOf
  rw [Data.kindOf_move]
  cases d <;> rfl

theorem write_move (m : Mark) (letter : Char) (index : Nat) :
    m.write letter index (r.move d) = m.write letter index d := by
  have character : characterOf (r.move d) = characterOf d := by cases d <;> rfl
  unfold Mark.write
  rw [Data.text?_move, Data.source?_move, Data.number?_move, Data.kindOf_move, integerOf_move, character]

theorem takeMarked_move (total : Nat) (chars : List Char) :
    takeMarked total (r.move s) chars = r.move (takeMarked total s chars) := by
  unfold takeMarked
  extract_lets marked
  -- Behind the name that a mark may have comes the rest of it.
  have rest (s : Supply) (chars : List Char) : marked (r.move s, chars) = r.move (marked (s, chars)) := by
    simp only [marked]
    rw [takeWidth_move]
    refine r.move_bind fun ⟨m, s, chars⟩ => ?_
    rw [r.move_pair, r.move_pair, r.move_fixed m, r.move_fixed chars]
    dsimp only
    rw [takePlaces_move]
    refine r.move_bind fun ⟨m, s, chars⟩ => ?_
    rw [r.move_pair, r.move_pair, r.move_fixed m, r.move_fixed chars]
    dsimp only
    split
    · rfl
    · exact congrArg Except.ok (by simp)
    · rw [next_move]
      refine r.move_bind fun ⟨d, s⟩ => ?_
      rw [r.move_pair]
      dsimp only
      rw [write_move]
      refine r.move_bind_fixed fun written => ?_
      split
      · rfl
      · exact congrArg Except.ok (by simp)
  split
  · rename_i chars
    change (if (r.move s.named).isNone = true then _ else _) = _
    rw [r.isNone_move, r.move_ite]
    split
    · rfl
    · refine r.move_bind_fixed fun ⟨name, chars⟩ => ?_
      dsimp only
      rw [select_move]
      exact r.move_bind fun s => rest s chars
  · exact rest s _

theorem fillMarks_move (total fuel : Nat) (done chars : List Char) :
    fillMarks total fuel (r.move s) done chars = r.move (fillMarks total fuel s done chars) := by
  induction fuel generalizing s done chars with
  | zero => exact congrArg Except.ok (by simp)
  | succ fuel ih =>
      rw [fillMarks, fillMarks]
      split
      · exact congrArg Except.ok (by simp)
      · rename_i rest _
        rw [takeMarked_move]
        rcases takeMarked total s rest with f | ⟨written, s, rest⟩
        · rfl
        · have later := ih s (written.reverse ++ ((chars.takeWhile (· != '%')).reverse ++ done)) rest
          simpa using later

/-- Marks are filled in with what moved data shows, which is what the data shows. -/
theorem percent_move (text : String) (values : Data) : percent text (r.move values) = percent text values := by
  unfold percent
  dsimp only
  rw [ofData_move, fillMarks_move]
  rcases fillMarks _ _ (Supply.ofData values) [] text.toList with f | ⟨done, s⟩
  · rfl
  · rw [r.move_ok, r.move_pair, r.move_fixed done]
    change (if (r.move s.queue).isEmpty || (r.move s.named).isSome then _ else _) = _
    rw [r.isEmpty_move, r.isSome_move]

end Layout

namespace Json

variable (r : Relocation) (style : Style)

theorem keyText_move (d : Data) : keyText style (r.move d) = keyText style d := by
  cases d <;> rfl

mutual

theorem writeIn_move (d : Data) : writeIn style (r.move d) = writeIn style d := by
  cases d with
  | list items => rw [r.move_data_list, writeIn, writeIn, writeItems_move [] items]
  | tuple items => rw [r.move_data_tuple, writeIn, writeIn, writeItems_move [] items]
  | dict entries => rw [r.move_data_dict, writeIn, writeIn, writeEntries_move [] entries]
  | set items =>
      have shown := Data.text?_move r (.set items)
      exact congrArg (fun t? => if style.lenient then t?.map (writeStringIn style) else _) shown
  | slice lower upper step =>
      have shown := Data.text?_move r (.slice lower upper step)
      exact congrArg (fun t? => if style.lenient then t?.map (writeStringIn style) else _) shown
  | method owner name mark =>
      have shown := Data.text?_move r (.method owner name mark)
      exact congrArg (fun t? => if style.lenient then t?.map (writeStringIn style) else _) shown
  | _ => rfl

theorem writeItems_move (done : List String) (items : List Data) :
    writeItems style done (r.move items) = writeItems style done items := by
  cases items with
  | nil => rfl
  | cons item rest =>
      rw [r.move_cons, writeItems, writeItems, writeIn_move item]
      cases writeIn style item with
      | error f => rfl
      | ok text => exact writeItems_move (text :: done) rest

theorem writeEntries_move (done : List String) (entries : List (Data × Data)) :
    writeEntries style done (r.move entries) = writeEntries style done entries := by
  rcases entries with _ | ⟨⟨key, value⟩, rest⟩
  · rfl
  · rw [r.move_cons, r.move_pair, writeEntries, writeEntries, keyText_move, writeIn_move value]
    cases keyText style key with
    | error f => rfl
    | ok name => cases writeIn style value with
      | error f => rfl
      | ok text => exact writeEntries_move _ rest

end

end Json

@[simp]
theorem Data.plain_move (r : Relocation) (d : Data) : (r.move d).plain = d.plain := by
  cases d with
  | list items => exact Json.writeIn_move r _ (.list items)
  | tuple items => exact Json.writeIn_move r _ (.tuple items)
  | dict entries => exact Json.writeIn_move r _ (.dict entries)
  | set items => exact Data.text?_move r (.set items)
  | method owner name mark => exact Data.text?_move r (.method owner name mark)
  | slice lower upper step => exact Data.text?_move r (.slice lower upper step)
  | _ => rfl

namespace Sorting

variable {ε α β : Type} {less : α → α → Except ε Bool} {less' : β → β → Except ε Bool} {f : α → β}

theorem insertIdxIfInBounds_map (sorted : Array α) (index : Nat) (item : α) :
    (sorted.map f).insertIdxIfInBounds index (f item) = (sorted.insertIdxIfInBounds index item).map f := by
  unfold Array.insertIdxIfInBounds
  simp only [Array.size_map]
  split
  · ext i there there'
    · simp
    · simp only [Array.getElem_insertIdx, Array.getElem_map]
      split
      · rfl
      · split <;> rfl
  · rfl

variable (same : ∀ x y, less' (f x) (f y) = less x y)
include same

theorem runLength_map (falling : Bool) (last : α) (count : Nat) (items : List α) :
    runLength less' falling (f last) count (items.map f) = runLength less falling last count items := by
  induction items generalizing last count with
  | nil => rfl
  | cons next rest ih =>
      rw [List.map_cons, runLength, runLength, same]
      cases less next last with
      | error e => rfl
      | ok below => simp only [ih]

theorem openingRun_map (items : List α) :
    openingRun less' (items.map f) = (openingRun less items).map fun parts => (parts.1.map f, parts.2.map f) := by
  match items with
  | [] => rfl
  | [a] => rfl
  | a :: b :: rest =>
      rw [List.map_cons, List.map_cons, openingRun, openingRun, same]
      cases less b a with
      | error e => rfl
      | ok falling =>
          dsimp only
          rw [runLength_map same]
          cases runLength less falling b 2 rest with
          | error e => rfl
          | ok count =>
              refine congrArg Except.ok (Prod.ext ?_ ?_)
              · cases falling <;> simp
              · simp

theorem place_map (item : α) (sorted : Array α) (fuel low high : Nat) :
    place less' (f item) (sorted.map f) fuel low high = place less item sorted fuel low high := by
  induction fuel generalizing low high with
  | zero => rfl
  | succ fuel ih =>
      simp only [place, Array.getElem?_map]
      split
      · cases sorted[low + (high - low) / 2]? with
        | none => rfl
        | some other =>
            simp only [Option.map_some, same, ih]
      · rfl

theorem insertAll_map (sorted : Array α) (items : List α) :
    insertAll less' (sorted.map f) (items.map f) = (insertAll less sorted items).map (Array.map f) := by
  induction items generalizing sorted with
  | nil => rfl
  | cons item rest ih =>
      rw [List.map_cons, insertAll, insertAll, Array.size_map, place_map same]
      cases place less item sorted (sorted.size + 1) 0 sorted.size with
      | error e => rfl
      | ok index =>
          dsimp only
          rw [insertIdxIfInBounds_map, ih]

theorem sortShort_map (items : List α) : sortShort less' (items.map f) = (sortShort less items).map (List.map f) := by
  rw [sortShort, sortShort, openingRun_map same]
  cases openingRun less items with
  | error e => rfl
  | ok parts =>
      obtain ⟨run, rest⟩ := parts
      have inserted := insertAll_map same run.toArray rest
      rw [List.map_toArray] at inserted
      simp only [Except.map]
      rw [inserted]
      cases insertAll less run.toArray rest with
      | error e => rfl
      | ok sorted => exact congrArg Except.ok Array.toList_map

theorem merge_map (fuel : Nat) (done items others : List α) :
    merge less' fuel (done.map f) (items.map f) (others.map f) = (merge less fuel done items others).map (List.map f) := by
  fun_induction merge less fuel done items others with
  | case1 done items others => simp [merge, Except.map]
  | case2 fuel done others => simp [merge, Except.map]
  | case3 fuel done items more => cases items <;> simp_all [merge, Except.map]
  | case4 fuel done a rest b others e compared => simp [merge, same, compared, Except.map]
  | case5 fuel done a rest b others compared ih => simpa [merge, same, compared] using ih
  | case6 fuel done a rest b others compared ih => simpa [merge, same, compared] using ih

theorem sortParts_map (fuel : Nat) (items : List α) :
    sortParts less' fuel (items.map f) = (sortParts less fuel items).map (List.map f) := by
  induction fuel generalizing items with
  | zero => exact sortShort_map same items
  | succ fuel ih =>
      rw [sortParts, sortParts, List.length_map]
      split
      · exact sortShort_map same items
      · dsimp only
        rw [← List.map_take, ih, ← List.map_drop, ih]
        cases sortParts less fuel (items.take (items.length / 2)) with
        | error e => rfl
        | ok first => cases sortParts less fuel (items.drop (items.length / 2)) with
          | error e => rfl
          | ok second => exact merge_map same items.length [] first second

/-- Sorting other things that compare alike puts them in the same order. -/
theorem sort_map (items : List α) : sort less' (items.map f) = (sort less items).map (List.map f) :=
  sortParts_map same 64 items

end Sorting

end WorkflowEngine
