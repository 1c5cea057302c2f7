import WorkflowEngine.Proofs.Action.Desk
import WorkflowEngine.Proofs.Data.Sorting

/-!
# Setting fields of a record

The action that sets fields lays them over its input: the entries of the input keep their places and take the values of
the fields, and fields with other keys come behind them.  It then lists the keys of the result in order for a line in the
journal.  `dispatch_setFields` says that it comes to the result exactly if they can be listed, and that it changes no
container in either case.
-/

namespace WorkflowEngine

/-! ## Fields over a record -/

namespace Heap

variable {h : Heap} {base fields : List (Value × Value)}

/-- The value of the last one of the fields under a key. -/
def latest? (h : Heap) (fields : List (Value × Value)) (key : Value) : Option Value :=
  (fields.reverse.find? fun f => h.sameKey key f.1).map Prod.snd

/-- The entries of a record with the values of fields, and behind them the fields with other keys. -/
def overlay (h : Heap) (base fields : List (Value × Value)) : List (Value × Value) :=
  base.map (fun e => (e.1, (h.latest? fields e.1).getD e.2)) ++
    fields.filter fun f => base.all fun e => !h.sameKey e.1 f.1

/-- The record that an input stands for. -/
def recordOf (h : Heap) : Value → List (Value × Value)
  | .dict a => h.entries a
  | v => [(.str "value", v)]

theorem latest?_cons (h : Heap) (f : Value × Value) (rest : List (Value × Value)) (key : Value) :
    h.latest? (f :: rest) key = (h.latest? rest key).or (if h.sameKey key f.1 then some f.2 else none) := by
  unfold latest?
  rw [List.reverse_cons, List.find?_append, Option.map_or, List.find?_singleton]
  split <;> rfl

theorem latest?_eq_none {key : Value} (other : ∀ f ∈ fields, h.sameKey key f.1 = false) : h.latest? fields key = none := by
  unfold latest?
  rw [List.find?_eq_none.mpr fun f listed => by simp [other f (List.mem_reverse.mp listed)]]
  rfl

/-- A field whose key is there gives its value to the entries under the key. -/
theorem overlay_of_hit {f : Value × Value} (hit : (base.any fun e => h.sameKey e.1 f.1) = true)
    (rest : List (Value × Value)) :
    h.overlay (base.map fun e => if h.sameKey e.1 f.1 then (e.1, f.2) else e) rest = h.overlay base (f :: rest) := by
  have there : (base.all fun e => !h.sameKey e.1 f.1) = false := by
    rw [List.all_eq_false]
    obtain ⟨e, listed, same⟩ := List.any_eq_true.mp hit
    exact ⟨e, listed, by simp [same]⟩
  have keys (g : Value × Value) :
      ((base.map fun e => if h.sameKey e.1 f.1 then (e.1, f.2) else e).all fun e => !h.sameKey e.1 g.1) =
        base.all fun e => !h.sameKey e.1 g.1 := by
    rw [List.all_map]
    congr 1
    funext e
    simp only [Function.comp_apply]
    split <;> rfl
  unfold overlay
  rw [List.map_map, List.filter_cons, if_neg (by simp [there])]
  congr 1
  · refine List.map_congr_left fun e _ => ?_
    simp only [Function.comp_apply, latest?_cons]
    cases same : h.sameKey e.1 f.1 with
    | true =>
        simp only [if_true]
        cases h.latest? rest e.1 <;> rfl
    | false => simp
  · exact List.filter_congr fun g _ => keys g

/-- A field with another key comes behind the entries, and stays as it is if no later field has its key. -/
theorem overlay_of_new {f : Value × Value} (new : ∀ e ∈ base, h.sameKey e.1 f.1 = false)
    {rest : List (Value × Value)} (fresh : ∀ g ∈ rest, h.sameKey f.1 g.1 = false) :
    h.overlay (base ++ [f]) rest = h.overlay base (f :: rest) := by
  have missing : (base.all fun e => !h.sameKey e.1 f.1) = true := by simpa using new
  unfold overlay
  rw [List.map_append, List.append_assoc, List.filter_cons, if_pos missing, List.map_singleton, latest?_eq_none fresh,
    List.singleton_append]
  congr 1
  · refine List.map_congr_left fun e listed => ?_
    simp [latest?_cons, new e listed]
  · congr 1
    refine List.filter_congr fun g listed => ?_
    simp [fresh g listed]

/-- Fields whose keys are told apart are laid over a record when they are set one after the other. -/
theorem setEntries_eq_overlay (base : List (Value × Value))
    (apart : fields.Pairwise fun f g => h.sameKey f.1 g.1 = false) :
    h.setEntries base fields = h.overlay base fields := by
  induction fields generalizing base with
  | nil => simp [setEntries, overlay, latest?]
  | cons f rest ih =>
      obtain ⟨fresh, apart⟩ := List.pairwise_cons.mp apart
      change h.setEntries (h.setEntry base f.1 f.2) rest = _
      rw [ih _ apart, setEntry]
      cases hit : base.any fun e => h.sameKey e.1 f.1 with
      | true => exact overlay_of_hit hit rest
      | false => exact overlay_of_new (by simpa using hit) fresh

end Heap

/-! ## The keys of the result -/

namespace Data

variable {items : List Data}

theorem anyOverlong_eq_false_iff : anyOverlong items = false ↔ ∀ item ∈ items, item.isOverlong = false := by
  induction items with
  | nil => simp [anyOverlong]
  | cons item rest ih => simp [anyOverlong, ih]

/-- The items can be put in order, and each of them can be written. -/
structure CanList (items : List Data) : Prop where
  sorts : CanSort items
  short : ∀ item ∈ items, item.isOverlong = false

/-- The items in order, as text. -/
def listing (items : List Data) : Except Fault String :=
  (Sorting.sort (compareBy .less) items).bind fun ordered => (Data.list ordered).source?

theorem listing_cases (items : List Data) :
    (CanList items ∧ ∃ text, listing items = .ok text) ∨ (¬ CanList items ∧ ∃ f, listing items = .error f) := by
  unfold listing
  cases sorted : Sorting.sort (compareBy .less) items with
  | error f =>
      refine .inr ⟨fun able => ?_, f, rfl⟩
      obtain ⟨ordered, done⟩ := able.sorts
      rw [sorted] at done
      cases done
  | ok ordered =>
      have same : anyOverlong ordered = false ↔ ∀ item ∈ items, item.isOverlong = false := by
        rw [anyOverlong_eq_false_iff]
        simp only [(Sorting.perm_of_sort sorted).mem_iff]
      have written : (Data.list ordered).source? =
          if anyOverlong ordered then .error .tooManyDigits else .ok (Data.list ordered).source := rfl
      change (_ ∧ ∃ text, (Data.list ordered).source? = _) ∨ (_ ∧ ∃ f, (Data.list ordered).source? = _)
      rw [written]
      cases long : anyOverlong ordered with
      | true =>
          refine .inr ⟨fun able => ?_, .tooManyDigits, rfl⟩
          rw [same.mpr able.short] at long
          cases long
      | false => exact .inl ⟨⟨⟨ordered, sorted⟩, same.mp long⟩, _, rfl⟩

end Data

/-! ## The action -/

namespace Builtin

open Work Eval

/-- The handler that sets fields. -/
def setter : Handler :=
  .ofBody "set_fields" "set_fields" ["node_input", "fields"] true setFields

variable {input : Value} {named : Named} {f : Address} {d : Desk}

theorem gives_baseEntries (h : Heap) (input : Value) : Gives h (baseEntries input) (.ok (h.recordOf input)) := by
  cases input <;> exact fun _ => rfl

theorem gives_sortedKeys (h : Heap) (entries : List (Value × Value)) :
    Gives h (sortedKeys entries) (Data.listing (entries.map fun e => h.view e.1)) := by
  refine (gives_mapM (fun e => gives_view h e.1) entries).bind ?_
  unfold Data.listing
  cases sorted : Sorting.sort (Data.compareBy .less) (entries.map fun e => h.view e.1) with
  | error fault => exact Gives.stop (gives_lift h (.error fault))
  | ok ordered => exact (gives_lift h (.ok ordered)).bind (gives_lift h _)

/-- The fields of a dictionary laid over a record. -/
theorem gives_merged (h : Heap) (base : List (Value × Value)) (f : Address)
    (apart : (h.entries f).Pairwise fun g g' => h.sameKey g.1 g'.1 = false) :
    Gives h (do if ← isTrue (.dict f) then Conversion.extend base (.dict f) else pure base)
      (.ok (h.overlay base (h.entries f))) := by
  refine (gives_isTrue h (.dict f)).bind ?_
  cases filled : h.isTrue (.dict f) with
  | true =>
      rw [← Heap.setEntries_eq_overlay base apart]
      exact fun _ => rfl
  | false =>
      have empty : h.entries f = [] := Heap.entries_of_not_isTrue filled
      rw [empty, ← Heap.setEntries_eq_overlay base List.Pairwise.nil]
      exact gives_pure h base

/-- Fields are set in a fresh record once its keys are listed. -/
theorem run_setFields (input : Value) (given : named.lookup "fields" = some (.dict f))
    (apart : (d.heap.entries f).Pairwise fun g g' => d.heap.sameKey g.1 g'.1 = false) :
    let merged := d.heap.overlay (d.heap.recordOf input) (d.heap.entries f)
    let listed := Data.listing (merged.map fun e => d.heap.view e.1)
    (∀ text, listed = .ok text → (setFields input named).run d =
      (.ok (.dict d.heap.cells.size), ⟨(d.heap.alloc (.dict merged)).2,
        ⟨.debug, source, "set_fields produced keys: " ++ text⟩ :: d.journal⟩)) ∧
      ∀ fault, listed = .error fault → (setFields input named).run d = (.error (.fault fault), d) := by
  intro merged listed
  have keys : Gives d.heap (sortedKeys merged) listed := gives_sortedKeys d.heap merged
  unfold setFields
  rw [given, Option.getD_some, run_reading_bind (gives_baseEntries d.heap input),
    run_reading_bind (gives_merged d.heap _ f apart)]
  constructor
  · intro text done
    rw [done] at keys
    rw [run_reading_bind keys, run_noting_bind]
    rfl
  · intro fault failed
    rw [failed] at keys
    exact run_reading_stop keys

end Builtin

namespace Registry

variable {r : Registry} {name : String} {input : Value} {p f : Address} {named : Named} {wait : Option Number} {d : Desk}

theorem complaintOf?_of_open {routine first : String} (others : List String) (free : ∀ e ∈ named, e.1 ≠ first) :
    Handler.complaintOf? routine (first :: others) true named = none := by
  unfold Handler.complaintOf?
  rw [List.findSome?_eq_none_iff]
  intro e listed
  have other : ¬ (some first == some e.1) = true := by simpa using (free e listed).symm
  rw [List.head?_cons, if_neg other, Bool.or_true, if_pos rfl]

/-- Dispatching the action that sets fields, under whatever name it is registered, comes to the fields laid over the
record that the input stands for, in a fresh dictionary, exactly if the keys of the result can be listed in order; it
fails otherwise.  In either case it changes no container.  Keys can be listed if any two of them can be compared and
none holds an integer that is too long to be written.  Keys that are not tuples or lists can only be listed if they are
all of one rank, unless there is one key at most. -/
theorem dispatch_setFields (input : Value) (found : r.get name = .ok Builtin.setter) (holds : Holds d.heap p named)
    (waits : isOver wait = false) (free : ∀ e ∈ named, e.1 ≠ "node_input")
    (given : named.lookup "fields" = some (.dict f))
    (apart : (d.heap.entries f).Pairwise fun g g' => d.heap.sameKey g.1 g'.1 = false) :
    let merged := d.heap.overlay (d.heap.recordOf input) (d.heap.entries f)
    let keys := merged.map fun e => d.heap.view e.1
    let reply := r.dispatch name input (.dict p) wait d
    (Data.CanList keys → ∃ line,
      reply = (.ok (.dict d.heap.cells.size), ⟨(d.heap.alloc (.dict merged)).2, line :: d.journal⟩)) ∧
      (¬ Data.CanList keys → ∃ fault : Fault,
        reply = (.error (refuse name ("Action '" ++ name ++ "' failed: " ++ fault.message)), d)) ∧
      (∀ a, a < d.heap.cells.size → reply.2.heap.cell? a = d.heap.cell? a) ∧
      ((∀ a ∈ keys, ∀ b ∈ keys, ∃ below, Data.compareBy .less a b = .ok below) →
        (∀ key ∈ keys, key.isOverlong = false) → Data.CanList keys) ∧
      ((∀ key ∈ keys, ∀ k, key.rank? = some k → ¬ k.HasParts) →
        (Data.CanList keys ↔ (keys.length ≤ 1 ∨ ∃ k, ∀ key ∈ keys, key.rank? = some k) ∧
          ∀ key ∈ keys, key.isOverlong = false)) := by
  intro merged keys reply
  have answered : reply = (((Builtin.setFields input named).run d).1.mapError (failureOf name wait),
      ((Builtin.setFields input named).run d).2) :=
    dispatch_eq found holds waits (complaintOf?_of_open ["fields"] free)
  obtain ⟨comes, fails⟩ := Builtin.run_setFields input given apart
  have sufficient : (∀ a ∈ keys, ∀ b ∈ keys, ∃ below, Data.compareBy .less a b = .ok below) →
      (∀ key ∈ keys, key.isOverlong = false) → Data.CanList keys :=
    fun total short => ⟨Data.canSort_of_comparable total, short⟩
  have exact_for_whole (whole : ∀ key ∈ keys, ∀ k, key.rank? = some k → ¬ k.HasParts) :
      Data.CanList keys ↔ (keys.length ≤ 1 ∨ ∃ k, ∀ key ∈ keys, key.rank? = some k) ∧
        ∀ key ∈ keys, key.isOverlong = false := by
    rw [← Data.canSort_iff whole]
    exact ⟨fun able => ⟨able.sorts, able.short⟩, fun able => ⟨able.1, able.2⟩⟩
  rcases Data.listing_cases keys with ⟨able, text, listed⟩ | ⟨unable, fault, listed⟩
  · rw [comes text listed] at answered
    refine ⟨fun _ => ⟨_, answered⟩, fun unable => absurd able unable, fun a known => ?_, sufficient, exact_for_whole⟩
    rw [answered]
    exact Heap.cell?_alloc_of_lt _ known
  · rw [fails fault listed] at answered
    refine ⟨fun able => absurd able unable, fun _ => ⟨fault, answered⟩, fun a _ => ?_, sufficient, exact_for_whole⟩
    rw [answered]

/-- Two dictionaries, the second of which holds fields, and parameters that give these. -/
def fieldsDesk (first second : List (Value × Value)) : Desk :=
  ⟨⟨#[.dict first, .dict second, .dict [(.str "fields", .dict 1)]], 0⟩, []⟩

/-- Fields are set in a record with texts for keys. -/
theorem dispatch_setFields_texts :
    let d := fieldsDesk [(.str "a", .int 1), (.str "b", .int 2)] [(.str "c", .int 3), (.str "b", .int 4)]
    let reply := empty.registerBuiltin.2.dispatch "set_fields" (.dict 0) (.dict 2) none d
    empty.registerBuiltin.2.get "set_fields" = .ok Builtin.setter ∧ Holds d.heap 2 [("fields", .dict 1)] ∧
      (d.heap.entries 1).Pairwise (fun g g' => d.heap.sameKey g.1 g'.1 = false) ∧
      ∃ line, reply = (.ok (.dict 3), ⟨(d.heap.alloc (.dict
        [(.str "a", .int 1), (.str "b", .int 4), (.str "c", .int 3)])).2, [line]⟩) := by
  intro d reply
  have found : empty.registerBuiltin.2.get "set_fields" = .ok Builtin.setter := by rfl
  have holds : Holds d.heap 2 [("fields", .dict 1)] := ⟨rfl, by decide⟩
  have apart : (d.heap.entries 1).Pairwise (fun g g' => d.heap.sameKey g.1 g'.1 = false) := by
    simp [d, fieldsDesk, Heap.entries, Heap.cell?, Heap.sameKey]
  obtain ⟨merges, -, -, -, listable⟩ := dispatch_setFields (.dict 0) found holds (rfl : isOver none = false)
    (by decide) rfl apart
  have keys : (d.heap.overlay (d.heap.recordOf (.dict 0)) (d.heap.entries 1)).map (fun e => d.heap.view e.1) =
      [.str "a", .str "b", .str "c"] := by rfl
  rw [keys] at listable
  refine ⟨found, holds, apart, merges (keys ▸ (listable ?_).mpr ⟨.inr ⟨.text, ?_⟩, ?_⟩)⟩
  · simp [Data.rank?, Data.Rank.HasParts]
  · simp [Data.rank?]
  · simp [Data.isOverlong]

/-- The keys of a record with an integer for a key, and a text for another, cannot be listed, so that no fields are set
in it. -/
theorem setFields_mixed_fails :
    let d := fieldsDesk [(.int 1, .str "a"), (.str "b", .int 2)] [(.str "c", .int 3)]
    empty.registerBuiltin.2.dispatch "set_fields" (.dict 0) (.dict 2) none d =
      (.error (refuse "set_fields"
        "Action 'set_fields' failed: '<' not supported between instances of 'str' and 'int'"), d) := by
  rfl

end Registry

end WorkflowEngine
