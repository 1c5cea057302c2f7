import WorkflowEngine.Proofs.Reading.Compositional

/-!
# Reasons for refusals

A reader gives a reason whenever it refuses: it never lists no issues at all.  So what is read without issues is read
part by part, and `list_eq_ok` gives the value of each item of a list.
-/

/-!
## Faults in reading

Reading ends in a fault only where the reading of some part does: the fault of parts side by side is that of the
first of them, and the fault of items is that of the first item with one.  Texts, numbers, words and truth values
are read without faults, and so is what is put together of them.
-/

namespace WorkflowEngine.Reading

variable {α β : Type}

/-- The fault that ends reading, if one does. -/
def fault? : Reading α → Option Fault
  | .failed f => some f
  | _ => none

@[simp] theorem fault?_ok (a : α) : (Reading.ok a).fault? = none :=
  rfl

@[simp] theorem fault?_refused (issues : List Issue) : (Reading.refused issues : Reading α).fault? = none :=
  rfl

@[simp] theorem fault?_failed (f : Fault) : (Reading.failed f : Reading α).fault? = some f :=
  rfl

@[simp] theorem fault?_refuse (cause : Cause) : (refuse cause : Reading α).fault? = none :=
  rfl

@[simp] theorem fault?_state (message : String) : (state message : Reading α).fault? = none :=
  rfl

@[simp] theorem fault?_map (f : α → β) (r : Reading α) : (f <$> r).fault? = r.fault? := by
  cases r <;> rfl

@[simp] theorem fault?_map' (f : α → β) (r : Reading α) : (r.map f).fault? = r.fault? := by
  cases r <;> rfl

@[simp] theorem fault?_inside (step : String) (r : Reading α) : (r.inside step).fault? = r.fault? := by
  cases r <;> rfl

@[simp] theorem fault?_both (a : Reading α) (b : Unit → Reading β) : (both a b).fault? = a.fault?.or (b ()).fault? := by
  unfold both
  cases a <;> cases b () <;> rfl

@[simp] theorem fault?_seq (f : Reading (α → β)) (r : Reading α) : (f <*> r).fault? = f.fault?.or r.fault? := by
  change ((both f fun _ => r).map _).fault? = _
  rw [fault?_map', fault?_both]

/-- A check without faults of its own. -/
theorem fault?_check {r : Reading α} {next : α → Reading β} (calm : ∀ a, (next a).fault? = none) :
    (r.check next).fault? = r.fault? := by
  cases r with
  | ok a => exact calm a
  | refused issues => rfl
  | failed f => rfl

/-- Reading without a fault passes from parts to the whole. -/
theorem calm : Compositional fun _ r => r.fault? = none where
  ok _ := rfl
  refuse _ := rfl
  failed faulty := nomatch faulty
  map f part := (fault?_map' f _).trans part
  inside step part := (fault?_inside step _).trans part
  both first second := by rw [fault?_both, first, second, Option.or_none]
  check first behind := (fault?_check behind).trans first
  finish p := by
    unfold Progress.finish
    split <;> rfl

/-! ## Containers -/

/-- The fault of items is that of the first one that has one. -/
theorem fault?_itemsFrom (read : Data → Reading α) (index : Nat) (p : Progress α) (items : List Data) :
    (itemsFrom read index p items).fault? = items.findSome? fun item => (read item).fault? := by
  induction items generalizing index p with
  | nil =>
      unfold itemsFrom Progress.finish
      split <;> rfl
  | cons item rest ih =>
      unfold itemsFrom Progress.push
      rw [List.findSome?_cons]
      cases read item with
      | ok a => exact ih _ _
      | refused issues => exact ih _ _
      | failed f => rfl

theorem fault?_list (read : Data → Reading α) (d : Data) :
    (list read d).fault? = ((items? d).getD []).findSome? fun item => (read item).fault? := by
  unfold list
  cases items? d with
  | none => rfl
  | some items => exact fault?_itemsFrom read 0 _ items

/-- The fault of a field that may be missing is that of what stands there. -/
theorem fault?_withDefault (s : Spelling) (entries : List (Data × Data)) (name : String) (fallback : α)
    (read : Data → Reading α) : (withDefault s entries name fallback read).fault? =
      (find? entries (s.ways name)).bind fun found => (read found.2).fault? := by
  unfold withDefault
  cases find? entries (s.ways name) <;> simp

/-- The fault of a record is that of its entries. -/
theorem fault?_record (name : String) (read : List (Data × Data) → Reading α) (d : Data) :
    (record name read d).fault? = d.dict?.bind fun entries => (read entries).fault? := by
  unfold record
  cases d <;> rfl

/-- A name that is spelled in one way only is looked up once. -/
theorem find?_joined {name : String} (same : spellingOf name = name) (entries : List (Data × Data)) :
    find? entries (Spelling.joined.ways name) = (Data.field? entries name).map fun d => (name, d) := by
  rw [Spelling.ways, same, find?]
  cases found : Data.field? entries name <;> simp [found]

/-- Reading gives a value or is refused exactly if there is no fault. -/
theorem ok_or_refused_iff {r : Reading α} : ((∃ a, r = .ok a) ∨ ∃ issues, r = .refused issues) ↔ r.fault? = none := by
  cases r <;> simp [fault?]

end WorkflowEngine.Reading

/-! ## Reasons for refusals -/

namespace WorkflowEngine.Reading

variable {α β : Type}

/-- The reading is not refused without an issue. -/
def HasReason (r : Reading α) : Prop :=
  r ≠ .refused []

/-- To have a reason passes from parts to the whole. -/
theorem reasoned : Compositional fun _ r => r.HasReason where
  ok _ := nofun
  refuse _ := nofun
  failed _ := nofun
  map {_ _ r} f part := by
    cases r with
    | refused issues => simpa [HasReason, map] using part
    | _ => exact nofun
  inside {_ r} step part := by
    cases r with
    | refused issues => simpa [HasReason, inside] using part
    | _ => exact nofun
  both {_ _ a b} first second := by
    unfold both
    cases a with
    | failed f => exact nofun
    | ok x =>
        cases other : b () with
        | refused issues => simpa [HasReason, other] using second
        | _ => exact nofun
    | refused issues =>
        cases other : b () with
        | failed f => exact nofun
        | ok y => simpa [HasReason] using first
        | refused more =>
            have listed : issues ≠ [] := by simpa [HasReason] using first
            simp [HasReason, listed]
  check {_ _ r next} first behind := by
    cases r with
    | ok a => exact behind a
    | refused issues => simpa [HasReason, Reading.check] using first
    | failed f => exact nofun
  finish p := by
    unfold Progress.finish
    split
    · exact nofun
    · rename_i left
      simpa [HasReason] using left

/-! ## Values that are read -/

variable {entries : List (Data × Data)} {name : String} {read : Data → Reading α} {a : α} {d : Data}

theorem inside_eq_ok {r : Reading α} {step : String} (given : r.inside step = .ok a) : r = .ok a := by
  cases r with
  | ok b => exact given
  | refused issues => cases given
  | failed f => cases given

/-- A field that has to be there is read from what stands there. -/
theorem field_of_required (same : spellingOf name = name) (given : required .joined entries name read = .ok a) :
    ∃ d, Data.field? entries name = some d ∧ read d = .ok a := by
  rw [Reading.required, find?_joined same] at given
  cases found : Data.field? entries name with
  | none =>
      rw [found] at given
      cases given
  | some d =>
      rw [found] at given
      exact ⟨d, rfl, inside_eq_ok given⟩

/-- A field that may be missing is read from what stands there, if anything does. -/
theorem field_of_withDefault {fallback : α} (same : spellingOf name = name)
    (given : withDefault .joined entries name fallback read = .ok a) :
    (Data.field? entries name = none ∧ a = fallback) ∨ ∃ d, Data.field? entries name = some d ∧ read d = .ok a := by
  rw [Reading.withDefault, find?_joined same] at given
  cases found : Data.field? entries name with
  | none =>
      rw [found] at given
      cases given
      exact .inl ⟨rfl, rfl⟩
  | some d =>
      rw [found] at given
      exact .inr ⟨d, rfl, inside_eq_ok given⟩

theorem record_eq_ok {title : String} {body : List (Data × Data) → Reading α} (given : record title body d = .ok a) :
    ∃ entries, d = .dict entries ∧ body entries = .ok a := by
  unfold Reading.record at given
  split at given
  · exact ⟨_, rfl, given⟩
  · cases given

/-- Items that are read without issues are read one by one, behind those already read. -/
theorem itemsFrom_eq_ok (reasons : ∀ d, (read d).HasReason) {index : Nat} {p : Progress α} {items : List Data}
    {values : List α} (given : itemsFrom read index p items = .ok values) :
    p.issues = [] ∧ ∃ more, values = p.values.reverse ++ more ∧ items.map read = more.map .ok := by
  induction items generalizing index p with
  | nil =>
      rw [itemsFrom, Progress.finish] at given
      split at given
      · cases given
        exact ⟨List.isEmpty_iff.mp ‹_›, [], (List.append_nil _).symm, rfl⟩
      · cases given
  | cons item rest ih =>
      rw [itemsFrom] at given
      have reason := reasons item
      cases here : read item with
      | ok a =>
          rw [here] at given
          obtain ⟨fine, more, rfl, each⟩ := ih given
          exact ⟨fine, a :: more, by simp, by rw [List.map_cons, here, each, List.map_cons]⟩
      | refused issues =>
          rw [here] at given
          obtain ⟨fine, -⟩ := ih given
          have none_left : issues = [] := by simpa using (List.append_eq_nil_iff.mp fine).1
          rw [here, none_left] at reason
          exact absurd rfl reason
      | failed f =>
          rw [here] at given
          cases given

/-- A list that is read without issues is read item by item. -/
theorem list_eq_ok (reasons : ∀ d, (read d).HasReason) {values : List α} (given : list read d = .ok values) :
    ∃ items, items? d = some items ∧ items.map read = values.map .ok := by
  unfold list at given
  split at given
  · obtain ⟨-, more, rfl, each⟩ := itemsFrom_eq_ok reasons given
    exact ⟨_, ‹_›, each⟩
  · cases given

/-- Every value comes from some item, and every item gives a value. -/
theorem each_of_map_eq {items : List Data} {values : List α} (each : items.map read = values.map .ok) :
    (∀ value ∈ values, ∃ item ∈ items, read item = .ok value) ∧ ∀ item ∈ items, ∃ value ∈ values, read item = .ok value := by
  constructor
  · intro value member
    exact List.mem_map.mp (each ▸ List.mem_map_of_mem member)
  · intro item listed
    obtain ⟨value, member, same⟩ := List.mem_map.mp (each ▸ List.mem_map_of_mem listed)
    exact ⟨value, member, same.symm⟩

end WorkflowEngine.Reading
