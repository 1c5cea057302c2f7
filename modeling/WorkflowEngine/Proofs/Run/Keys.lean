import Mathlib.Data.List.Nodup
import WorkflowEngine.Engine.Run

/-!
# Entries under keys

Entries are merged by setting one key after the other.  What is merged has every key once, with one of the
values that were written under it, and entries under different keys stay as they are.
-/

namespace WorkflowEngine

namespace Reading

variable {α β : Type} {named : List (String × α)} {name : String} {v : α}

theorem mem_setKey {e : String × α} (listed : e ∈ setKey name v named) : e ∈ named ∨ e = (name, v) := by
  induction named with
  | nil => exact .inr (List.mem_singleton.mp listed)
  | cons f rest ih =>
      unfold setKey at listed
      split at listed
      · rename_i hit
        rcases List.mem_cons.mp listed with rfl | old
        · exact .inr (congrArg (·, v) (beq_iff_eq.mp hit))
        · exact .inl (List.mem_cons_of_mem _ old)
      · rcases List.mem_cons.mp listed with rfl | old
        · exact .inl List.mem_cons_self
        · exact (ih old).imp (List.mem_cons_of_mem _) id

/-- Setting a key leaves the keys different. -/
theorem nodup_setKey (nodup : (named.map Prod.fst).Nodup) : ((setKey name v named).map Prod.fst).Nodup := by
  induction named with
  | nil => exact List.nodup_singleton _
  | cons f rest ih =>
      obtain ⟨fresh, nodup⟩ := List.nodup_cons.mp nodup
      unfold setKey
      split
      · exact List.nodup_cons.mpr ⟨fresh, nodup⟩
      · rename_i miss
        refine List.nodup_cons.mpr ⟨fun listed => ?_, ih nodup⟩
        obtain ⟨e, member, same⟩ := List.mem_map.mp listed
        rcases mem_setKey member with old | rfl
        · exact fresh (same ▸ List.mem_map_of_mem old)
        · exact miss (beq_iff_eq.mpr same.symm)

/-- A key that is set first and mapped then is one that is mapped first. -/
theorem map_setKey (f : α → β) :
    (setKey name v named).map (fun e => (e.1, f e.2)) = setKey name (f v) (named.map fun e => (e.1, f e.2)) := by
  induction named with
  | nil => rfl
  | cons e rest ih =>
      unfold setKey
      simp only [List.map_cons]
      split
      · rfl
      · rw [List.map_cons, ih]

theorem setKey_of_fresh (fresh : name ∉ named.map Prod.fst) : setKey name v named = named ++ [(name, v)] := by
  induction named with
  | nil => rfl
  | cons e rest ih =>
      obtain ⟨other, fresh⟩ := not_or.mp (List.mem_cons.not.mp fresh)
      unfold setKey
      rw [if_neg (by simpa using Ne.symm other), ih fresh, List.cons_append]

/-- A key that is set stands among the entries under other keys. -/
theorem setKey_perm (nodup : (named.map Prod.fst).Nodup) :
    (setKey name v named).Perm ((name, v) :: named.filter fun e => e.1 != name) := by
  induction named with
  | nil => exact .refl _
  | cons e rest ih =>
      obtain ⟨fresh, nodup⟩ := List.nodup_cons.mp nodup
      unfold setKey
      by_cases hit : e.1 = name
      · subst hit
        have others : rest.filter (fun f => f.1 != e.1) = rest := by
          refine List.filter_eq_self.mpr fun f listed => ?_
          have apart : f.1 ≠ e.1 := fun same => fresh (same ▸ List.mem_map_of_mem listed)
          simpa using apart
        rw [if_pos (beq_self_eq_true e.1), List.filter_cons_of_neg (by simp), others]
      · rw [if_neg (by simpa using hit), List.filter_cons_of_pos (by simpa using hit)]
        exact ((ih nodup).cons e).trans (.swap _ _ _)

/-- Setting a key leaves the entries under other keys as they are, in their order. -/
theorem filter_setKey (test : String → Bool) (out : test name = false) :
    ((setKey name v named).filter fun e => test e.1) = named.filter fun e => test e.1 := by
  induction named with
  | nil => simp [setKey, out]
  | cons e rest ih =>
      unfold setKey
      by_cases hit : e.1 = name
      · rw [if_pos (by simpa using hit), List.filter_cons_of_neg (by simpa [hit] using out),
          List.filter_cons_of_neg (by simpa [hit] using out)]
      · rw [if_neg (by simpa using hit), List.filter_cons, List.filter_cons, ih]

/-- Merging leaves every key once, with one of its values. -/
theorem mergeKeys_spec : ((mergeKeys named).map Prod.fst).Nodup ∧ ∀ e ∈ mergeKeys named, e ∈ named := by
  have all (done : List (String × α)) (nodup : (done.map Prod.fst).Nodup) :
      ((named.foldl (fun done e => setKey e.1 e.2 done) done).map Prod.fst).Nodup ∧
        ∀ e ∈ named.foldl (fun done e => setKey e.1 e.2 done) done, e ∈ done ∨ e ∈ named := by
    induction named generalizing done with
    | nil => exact ⟨nodup, fun _ listed => .inl listed⟩
    | cons f rest ih =>
        have step : ((setKey f.1 f.2 done).map Prod.fst).Nodup := nodup_setKey nodup
        obtain ⟨later, members⟩ := ih _ step
        refine ⟨later, fun e listed => ?_⟩
        rcases members e listed with first | other
        · exact (mem_setKey first).imp id fun same => by rw [same]; exact List.mem_cons_self
        · exact .inr (List.mem_cons_of_mem _ other)
  obtain ⟨nodup, members⟩ := all [] List.nodup_nil
  exact ⟨nodup, fun e listed => (members e listed).resolve_left List.not_mem_nil⟩

/-- Entries under different keys are merged already. -/
theorem mergeKeys_of_nodup (nodup : (named.map Prod.fst).Nodup) : mergeKeys named = named := by
  have all (done : List (String × α)) (nodup : ((done ++ named).map Prod.fst).Nodup) :
      named.foldl (fun done e => setKey e.1 e.2 done) done = done ++ named := by
    clear * - nodup
    induction named generalizing done with
    | nil => exact (List.append_nil _).symm
    | cons e rest ih =>
        have fresh : e.1 ∉ done.map Prod.fst := by
          rw [List.map_append, List.nodup_append] at nodup
          exact fun listed => nodup.2.2 _ listed _ (List.mem_map_of_mem List.mem_cons_self) rfl
        rw [List.foldl_cons, setKey_of_fresh fresh, ih _ (by rw [List.append_assoc]; exact nodup), List.append_assoc]
        rfl
  exact all [] nodup

/-- An entry that is merged with entries under different keys is set among them. -/
theorem mergeKeys_snoc (nodup : (named.map Prod.fst).Nodup) :
    mergeKeys (named ++ [(name, v)]) = setKey name v named := by
  have merged := mergeKeys_of_nodup nodup
  unfold mergeKeys at merged ⊢
  rw [List.foldl_append, merged]
  rfl

/-- Texts are read as keys. -/
theorem entriesFrom_texts {p : Progress (String × Unit)} (clean : p.issues = []) (names : List String) :
    entriesFrom (fun _ => .ok ()) p (names.map fun name => (.str name, .null)) =
      .ok (p.values.reverse ++ names.map fun name => (name, ())) := by
  induction names generalizing p with
  | nil => simp [entriesFrom, Progress.finish, clean]
  | cons name rest ih =>
      obtain ⟨values, issues⟩ := p
      change issues = [] at clean
      subst clean
      have pushed : entriesFrom (fun _ => .ok ()) ⟨values, []⟩ ((name :: rest).map fun name => (Data.str name, Data.null)) =
          entriesFrom (fun _ => .ok ()) ⟨(name, ()) :: values, []⟩ (rest.map fun name => (.str name, .null)) := rfl
      rw [pushed, ih rfl]
      simp

end Reading

/-- The variables that are made of entries have different names, and hold values of the entries. -/
theorem variableEntries_spec {h : Heap} {entries : List (Value × Value)} {named : List (String × Value)}
    (read : variableEntries h entries = .ok named) :
    (named.map Prod.fst).Nodup ∧ ∀ e ∈ named, ∃ f ∈ entries, f.2 = e.2 := by
  unfold variableEntries Reading.map at read
  split at read
  · cases read
    obtain ⟨nodup, members⟩ := Reading.mergeKeys_spec
    exact ⟨nodup, fun e listed => List.mem_map.mp (List.of_mem_zip (members e listed)).2⟩
  · cases read
  · cases read

/-- Entries under different texts become variables as they are. -/
theorem variableEntries_texts (h : Heap) (named : List (String × Value)) (nodup : (named.map Prod.fst).Nodup) :
    variableEntries h (named.map fun e => (.str e.1, e.2)) = .ok named := by
  have texts : (named.map fun e => (Value.str e.1, e.2)).map (fun e => (h.view e.1, Data.null)) =
      (named.map Prod.fst).map fun name => (.str name, .null) := by
    rw [List.map_map, List.map_map]
    rfl
  have again : ((named.map Prod.fst).map fun name => (name, ())).map Prod.fst = named.map Prod.fst := by
    rw [List.map_map]
    exact List.map_id _
  have values : (named.map fun e => (Value.str e.1, e.2)).map Prod.snd = named.map Prod.snd := by
    rw [List.map_map]
    rfl
  unfold variableEntries
  rw [texts, Reading.entriesFrom_texts rfl]
  change Reading.ok (Reading.mergeKeys (List.zip (List.map Prod.fst ([] ++ _)) _)) = _
  have zipped : (named.map Prod.fst).zip (named.map Prod.snd) = named := by
    rw [List.zip_map']
    exact List.map_id _
  rw [List.nil_append, again, values, zipped, Reading.mergeKeys_of_nodup nodup]

end WorkflowEngine
