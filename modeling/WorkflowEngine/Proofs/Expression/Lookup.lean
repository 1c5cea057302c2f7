import WorkflowEngine.Proofs.Expression.Path

/-!
# Paths in expressions and in conditions

A path of names leads to the same value when an expression goes along it as when a condition looks it up.  The
exceptions are the names to which expressions give a meaning of their own: those of the methods of dictionaries, and
those that are refused.
-/

namespace WorkflowEngine

/-! ## Paths that are looked up -/

namespace Opening

variable {α : Type} (o : Opening α)

/-- The value to which a path leads through entries of dictionaries alone. -/
def follow : α → List String → Option α
  | value, [] => some value
  | value, name :: rest =>
    match o.entry? value name with
    | some next => follow next rest
    | none => none

/-- No entry has a name with a dot inside. -/
def HasPlainNames (source : α) : Prop :=
  ∀ name : String, '.' ∈ name.toList → o.entry? source name = none

variable {o} {source v : α} {name first : String} {path rest : List String}

theorem follow_cons (led : o.follow source (name :: rest) = some v) :
    ∃ next, o.entry? source name = some next ∧ o.follow next rest = some v := by
  rw [follow] at led
  split at led
  · rename_i next found
    exact ⟨next, found, led⟩
  · cases led

/-- Only the entries matter to where a path leads. -/
theorem follow_congr {o o' : Opening α} (same : o.entry? = o'.entry?) (source : α) (path : List String) :
    o.follow source path = o'.follow source path := by
  induction path generalizing source with
  | nil => rfl
  | cons name rest ih =>
      rw [follow, follow, same]
      split
      · exact ih _
      · rfl

theorem walk_of_follow (led : o.follow source path = some v) : o.walk source path = .ok (some v) := by
  induction path generalizing source with
  | nil => exact congrArg Except.ok led
  | cons name rest ih =>
      obtain ⟨next, found, further⟩ := follow_cons led
      rw [walk, step, found]
      exact ih further

/-- The whole of a path is no name of an entry unless it is a single one. -/
theorem entry?_path (plain : o.HasPlainNames source) (first second : String) (rest : List String) :
    o.entry? source (".".intercalate (first :: second :: rest)) = none := by
  apply plain
  simp

theorem findIn_of_follow (fields : ∀ name ∈ first :: rest, Expression.IsField name) (plain : o.HasPlainNames source)
    (led : o.follow source (first :: rest) = some v) :
    o.findIn source (".".intercalate (first :: rest)) = .ok (some v) := by
  cases rest with
  | nil =>
      obtain ⟨next, found, same⟩ := follow_cons led
      cases same
      rw [findIn, String.intercalate_singleton, found]
  | cons second rest =>
      rw [findIn, entry?_path plain, Expression.pathOf_path fields]
      exact walk_of_follow led

/-- A field is no place in a sequence. -/
theorem isIndex_of_isField (field : Expression.IsField name) : Condition.isIndex name = false := by
  obtain ⟨c, cs, chars, -, -, digit⟩ := field.cons
  rw [Condition.isIndex, chars, List.all_cons, digit, Bool.false_and, Bool.and_false]

/-- Nothing is found along a path whose first name is none of an entry. -/
theorem findIn_of_entry?_eq_none (fields : ∀ name ∈ first :: rest, Expression.IsField name)
    (plain : o.HasPlainNames source) (missing : o.entry? source first = none) :
    o.findIn source (".".intercalate (first :: rest)) = .ok none := by
  have whole : o.entry? source (".".intercalate (first :: rest)) = none := by
    cases rest with
    | nil => rwa [String.intercalate_singleton]
    | cons second rest => exact entry?_path plain first second rest
  have place : Condition.isIndex first = false := isIndex_of_isField (fields first List.mem_cons_self)
  have stuck : o.step source first = .ok none := by
    rw [step, missing]
    cases o.items? source with
    | none => rfl
    | some items => exact if_neg (by rw [place]; exact Bool.false_ne_true)
  rw [findIn, whole, Expression.pathOf_path fields]
  dsimp only
  rw [walk, stuck]

/-- A path leads to a value in an input, or else among variables if the input has no entry with its first name. -/
def Leads (o : Opening α) (input vars : α) (first : String) (rest : List String) (v : α) : Prop :=
  o.follow input (first :: rest) = some v ∨
    o.entry? input first = none ∧ o.follow vars (first :: rest) = some v

/-- A path leads on from what its first name stands for. -/
theorem Leads.cons {input vars : α} (leads : o.Leads input vars first rest v) :
    ∃ start, (o.entry? input first).or (o.entry? vars first) = some start ∧ o.follow start rest = some v := by
  rcases leads with led | ⟨missing, led⟩
  · obtain ⟨start, found, further⟩ := follow_cons led
    exact ⟨start, by rw [found, Option.some_or], further⟩
  · obtain ⟨start, found, further⟩ := follow_cons led
    exact ⟨start, by rw [missing, found, Option.none_or], further⟩

theorem find_of_leads {input vars : α} (fields : ∀ name ∈ first :: rest, Expression.IsField name)
    (plain : o.HasPlainNames input) (plain' : o.HasPlainNames vars) (leads : o.Leads input vars first rest v) :
    o.find (".".intercalate (first :: rest)) input vars = .ok (some v) := by
  rcases leads with led | ⟨missing, led⟩
  · rw [find, findIn_of_follow fields plain led]
  · rw [find, findIn_of_entry?_eq_none fields plain missing]
    exact findIn_of_follow fields plain' led

end Opening

/-- A condition finds the value to which a path leads. -/
theorem Condition.resolveOn_of_leads {h : Heap} {input vars v : Value} {first : String} {rest : List String}
    (fields : ∀ name ∈ first :: rest, Expression.IsField name) (plain : h.opening.HasPlainNames input)
    (plain' : h.opening.HasPlainNames vars) (leads : h.opening.Leads input vars first rest v) :
    resolveOn h (".".intercalate (first :: rest)) input vars = .ok v := by
  rw [resolveOn, Opening.find_of_leads fields plain plain' leads]
  rfl

/-! ## Names of values -/

/-- Nothing but the text itself is the same key as a text. -/
theorem Heap.sameKey_str (h : Heap) (v : Value) (name : String) : h.sameKey v (.str name) = (v == .str name) := by
  cases v <;> rfl

theorem Value.str_beq_str (s t : String) : (Value.str s == .str t) = (s == t) :=
  rfl

/-- Keys without dots leave no entry under a name with one. -/
theorem Opening.hasPlainNames_of_entries {h : Heap} {a : Address}
    (plain : ∀ e ∈ h.entries a, ∃ name, e.1 = .str name ∧ '.' ∉ name.toList) : h.opening.HasPlainNames (.dict a) := by
  intro name dot
  have none : (h.entries a).find? (fun e => h.sameKey e.1 (.str name)) = none := by
    rw [List.find?_eq_none]
    intro e listed
    obtain ⟨key, same, dotless⟩ := plain e listed
    rw [same, h.sameKey_str, Value.str_beq_str, beq_iff_eq]
    rintro rfl
    exact dotless dot
  change h.lookup (h.entries a) (.str name) = _
  rw [Heap.lookup, none]
  rfl

namespace Expression

theorem lookup_textEntries (h : Heap) (v : Value) (name : String) :
    (textEntries h v).lookup name = h.opening.entry? v name := by
  cases v with
  | dict a =>
      change (List.filterMap _ (h.entries a)).lookup name = h.lookup (h.entries a) (.str name)
      unfold Heap.lookup
      induction h.entries a with
      | nil => rfl
      | cons e rest ih =>
          obtain ⟨key, value⟩ := e
          rw [List.find?_cons, h.sameKey_str]
          cases key
          case str s =>
            rw [List.filterMap_cons]
            dsimp only
            rw [List.lookup_cons, Value.str_beq_str, BEq.comm (a := s)]
            cases name == s with
            | true => rfl
            | false => exact ih
          all_goals exact ih
  | _ => rfl

/-- The names that stand for a whole source. -/
def sourceNames : List String :=
  ["input", "data", "variables"]

/-- A name that stands for no whole source stands for an entry of the input, or else for a variable. -/
theorem lookup_namedValues {name : String} (own : name ∉ sourceNames) (h : Heap) (input vars : Value) :
    (namedValues h input vars).lookup name =
      ((h.opening.entry? input name).or (h.opening.entry? vars name)).or (literalNames.lookup name) := by
  simp only [sourceNames, List.mem_cons, List.not_mem_nil, or_false, not_or] at own
  rw [namedValues, List.lookup_cons, beq_false_of_ne own.1, List.lookup_cons, beq_false_of_ne own.2.1, List.lookup_cons,
    beq_false_of_ne own.2.2]
  dsimp only
  rw [List.lookup_append, List.lookup_append, lookup_textEntries, lookup_textEntries]

/-! ## Attributes along a path -/

/-- A name that expressions do not take for that of an entry: one of the methods of dictionaries, or one they refuse. -/
def isReserved (name : String) : Bool :=
  (Kind.methods .dict).contains name || forbiddenNames.contains name

/-- An outcome that is no value of an entry: a refusal or a method. -/
inductive IsAstray : Except Fault Value → Prop
  | refusal (text : String) : IsAstray (.error (.refused text))
  | method (owner : Value) (name : String) : IsAstray (.ok (.method owner name))

variable {s : Setting} {b : Bindings} {m m' : Machine} {owner : Tree} {names : List String}

theorem exec_attribute (name : String) : (evaluateTree s b (.attribute owner name)).exec m =
    match forbidden? name with
    | some f => (.error f, m)
    | none =>
      match (evaluateTree s b owner).exec m with
      | (.ok v, m) => (attributeValue s v name).exec m
      | (.error f, m) => (.error f, m) := by
  rw [evaluateTree]
  cases forbidden? name with
  | some f => rfl
  | none =>
      dsimp only
      rw [Eval.exec_bind]
      rcases (evaluateTree s b owner).exec m with ⟨_ | _, _⟩ <;> rfl

theorem forbidden?_of_isField {name : String} (field : IsField name) (free : isReserved name = false) :
    forbidden? name = none := by
  rw [isReserved, Bool.or_eq_false_iff] at free
  rw [forbidden?, field.shown, free.2]
  rfl

theorem isAstray_of_forbidden? {name : String} {f : Fault} (refused : forbidden? name = some f) :
    IsAstray (.error f) := by
  unfold forbidden? at refused
  split at refused
  · cases refused
    exact .refusal _
  · split at refused
    · cases refused
      exact .refusal _
    · cases refused

theorem attribute?_dict (a : Address) (name : String) : (Value.dict a).attribute? name =
    if (Kind.methods .dict).contains name then
      some (.method (if Kind.typeMethods.contains name then .type .dict else .dict a) name)
    else none :=
  rfl

/-- Only dictionaries have entries. -/
theorem exists_dict {h : Heap} {v next : Value} {name : String} (found : h.opening.entry? v name = some next) :
    ∃ a, v = .dict a := by
  cases v with
  | dict a => exact ⟨a, rfl⟩
  | _ => cases found

/-- A name without a meaning of its own gives the entry. -/
theorem exec_attribute_of_free {name : String} {v next : Value} (field : IsField name) (free : isReserved name = false)
    (read : (evaluateTree s b owner).exec m = (.ok v, m')) (found : m'.heap.opening.entry? v name = some next) :
    (evaluateTree s b (.attribute owner name)).exec m = (.ok next, m') := by
  obtain ⟨a, rfl⟩ := exists_dict found
  have none : (Value.dict a).attribute? name = none := by
    rw [isReserved, Bool.or_eq_false_iff] at free
    rw [attribute?_dict, free.1]
    rfl
  have entry : (entryOf? (.dict a) name).exec m' = (.ok (some next), m') :=
    congrArg (fun entry => (Except.ok entry, m')) found
  rw [exec_attribute, forbidden?_of_isField field free, read]
  dsimp only
  rw [attributeValue, none]
  dsimp only
  rw [Eval.exec_bind, entry]
  rfl

/-- The name of a method that is not refused gives the method, whatever the entries are. -/
theorem exec_attribute_of_method {name : String} {a : Address} (allowed : forbidden? name = none)
    (method : (Kind.methods .dict).contains name = true)
    (read : (evaluateTree s b owner).exec m = (.ok (.dict a), m')) :
    (evaluateTree s b (.attribute owner name)).exec m =
      (.ok (.method (if Kind.typeMethods.contains name then .type .dict else .dict a) name), m') := by
  rw [exec_attribute, allowed, read]
  dsimp only
  rw [attributeValue, attribute?_dict, if_pos method]
  rfl

/-- A name with a meaning of its own does not give the entry. -/
theorem isAstray_of_isReserved {name : String} {v next : Value} (reserved : isReserved name = true)
    (read : (evaluateTree s b owner).exec m = (.ok v, m')) (found : m'.heap.opening.entry? v name = some next) :
    IsAstray ((evaluateTree s b (.attribute owner name)).exec m).1 := by
  obtain ⟨a, rfl⟩ := exists_dict found
  cases refused : forbidden? name with
  | some f =>
      rw [exec_attribute, refused]
      exact isAstray_of_forbidden? refused
  | none =>
      have method : (Kind.methods .dict).contains name = true := by
        rw [isReserved, Bool.or_eq_true] at reserved
        refine reserved.resolve_right fun listed => ?_
        rw [forbidden?, if_pos listed] at refused
        split at refused <;> cases refused
      rw [exec_attribute_of_method refused method read]
      exact .method _ name

/-- Nothing behind an outcome that is no entry leads back to one. -/
theorem IsAstray.attribute {name : String} (astray : IsAstray ((evaluateTree s b owner).exec m).1) :
    IsAstray ((evaluateTree s b (.attribute owner name)).exec m).1 := by
  rw [exec_attribute]
  cases refused : forbidden? name with
  | some f => exact isAstray_of_forbidden? refused
  | none =>
      rcases read : (evaluateTree s b owner).exec m with ⟨outcome, m'⟩
      rw [read] at astray
      cases astray with
      | refusal text => exact .refusal text
      | method v method => exact .refusal _

theorem IsAstray.attributes (astray : IsAstray ((evaluateTree s b owner).exec m).1) :
    IsAstray ((evaluateTree s b (names.foldl .attribute owner)).exec m).1 := by
  induction names generalizing owner with
  | nil => exact astray
  | cons name names ih => exact ih astray.attribute

/-- An expression goes along a path of names without a meaning of their own as the path leads. -/
theorem exec_attributes_of_free {start v : Value} (fields : ∀ name ∈ names, IsField name)
    (free : ∀ name ∈ names, isReserved name = false) (read : (evaluateTree s b owner).exec m = (.ok start, m'))
    (led : m'.heap.opening.follow start names = some v) :
    (evaluateTree s b (names.foldl .attribute owner)).exec m = (.ok v, m') := by
  induction names generalizing owner start with
  | nil =>
      cases led
      exact read
  | cons name names ih =>
      obtain ⟨next, found, further⟩ := Opening.follow_cons led
      rw [List.forall_mem_cons] at fields free
      exact ih fields.2 free.2 (exec_attribute_of_free fields.1 free.1 read found) further

theorem isAstray_attributes {start v : Value} (fields : ∀ name ∈ names, IsField name)
    (reserved : ∃ name ∈ names, isReserved name = true) (read : (evaluateTree s b owner).exec m = (.ok start, m'))
    (led : m'.heap.opening.follow start names = some v) :
    IsAstray ((evaluateTree s b (names.foldl .attribute owner)).exec m).1 := by
  induction names generalizing owner start with
  | nil => simp at reserved
  | cons name names ih =>
      obtain ⟨next, found, further⟩ := Opening.follow_cons led
      rw [List.forall_mem_cons] at fields
      cases meaning : isReserved name with
      | true => exact (isAstray_of_isReserved meaning read found).attributes
      | false =>
          have behind : ∃ name ∈ names, isReserved name = true := by
            simpa [meaning] using reserved
          exact ih fields.2 behind (exec_attribute_of_free fields.1 meaning read found) further

/-! ## The value of a path -/

/-- An empty dictionary at a fresh address changes no entries. -/
theorem entry?_alloc (h : Heap) : (h.alloc (.dict [])).2.opening.entry? = h.opening.entry? := by
  funext v name
  cases v with
  | dict a =>
      have same : (h.alloc (.dict [])).2.entries a = h.entries a := by
        by_cases fresh : a = h.cells.size
        · simp [Heap.entries, Heap.cell?, Heap.alloc, fresh]
        · simp [Heap.entries, Heap.cell?, Heap.alloc, Array.getElem?_push, fresh]
      have found : ∀ entries : List (Value × Value),
          (h.alloc (.dict [])).2.lookup entries (.str name) = h.lookup entries (.str name) := by
        intro entries
        simp only [Heap.lookup, Heap.sameKey_str]
      change Heap.lookup _ (Heap.entries _ a) (.str name) = _
      rw [same, found]
      rfl
  | _ => rfl

/-- A dictionary that counts as false has no entries. -/
theorem entry?_of_isTrue_eq_false {h : Heap} {a : Address} (empty : h.isTrue (.dict a) = false) (name : String) :
    h.opening.entry? (.dict a) name = none := by
  have none : h.entries a = [] := by
    change (h.size a != 0) = false at empty
    rw [Heap.size] at empty
    rw [Heap.entries]
    split
    · rename_i entries there
      rw [there] at empty
      simpa using empty
    · rfl
  change h.lookup (h.entries a) (.str name) = _
  rw [none]
  rfl

variable {functions : List (String × Value)} {first : String} {rest : List String}

/-- A path is evaluated as a chain of attributes of its first name, over names that stand for the entries of the
input and the variables. -/
theorem run_evaluate_path (functions : List (String × Value)) (fields : ∀ name ∈ first :: rest, IsField name)
    (input : Value) (a : Address) (h : Heap) :
    ∃ s vars m, ((evaluate functions (".".intercalate (first :: rest)) input (.dict a)).run h).1 =
        ((evaluateTree s .empty (rest.foldl .attribute (.name first))).exec m).1 ∧
      s.values = namedValues m.heap input vars ∧ m.heap.opening.entry? = h.opening.entry? ∧
      h.opening.entry? vars = h.opening.entry? (.dict a) := by
  obtain ⟨trimmed, readable⟩ := readable_path fields
  let setting (h : Heap) (vars : Value) : Setting :=
    ⟨namedValues h input vars, functions, Value.applyKey,
      String.ofList (Text.trimChars (".".intercalate (first :: rest)).toList)⟩
  let value (h : Heap) (vars : Value) : Except Fault Value × Machine :=
    (evaluateTree (setting h vars) .empty (rest.foldl .attribute (.name first))).exec ⟨h, 0⟩
  let fresh := h.alloc (.dict [])
  have ran : (evaluate functions (".".intercalate (first :: rest)) input (.dict a)).exec ⟨h, 0⟩ =
      if h.isTrue (.dict a) = true then value h (.dict a) else value fresh.2 (.dict fresh.1) := by
    rw [evaluate, evaluateWith_of_readProgram (by rwa [trimmed]) (by rw [trimmed, readProgram_path fields]),
      Eval.exec_bind]
    change Eval.exec (if h.isTrue (.dict a) = true then _ else _) _ = _
    split <;> rfl
  have outcome : ((evaluate functions (".".intercalate (first :: rest)) input (.dict a)).run h).1 =
      (if h.isTrue (.dict a) = true then value h (.dict a) else value fresh.2 (.dict fresh.1)).1 := congrArg Prod.fst ran
  rw [outcome]
  cases filled : h.isTrue (.dict a) with
  | true => exact ⟨setting h (.dict a), .dict a, ⟨h, 0⟩, rfl, rfl, rfl, rfl⟩
  | false =>
      refine ⟨setting fresh.2 (.dict fresh.1), .dict fresh.1, ⟨fresh.2, 0⟩, rfl, rfl, entry?_alloc h, ?_⟩
      funext name
      have beyond : h.entries fresh.1 = [] := by
        simp [Heap.entries, Heap.cell?, fresh, Heap.alloc]
      rw [entry?_of_isTrue_eq_false filled]
      change h.lookup (h.entries fresh.1) (.str name) = none
      rw [beyond]
      rfl

/-- A name stands for the entry of the input, or else for the variable. -/
theorem exec_name {s : Setting} {m : Machine} {input vars start : Value} (own : first ∉ sourceNames)
    (values : s.values = namedValues m.heap input vars)
    (found : (m.heap.opening.entry? input first).or (m.heap.opening.entry? vars first) = some start) :
    (evaluateTree s .empty (.name first)).exec m = (.ok start, m) := by
  have bound : s.values.lookup first = some start := by
    rw [values, lookup_namedValues own, found]
    rfl
  have named : nameValue s .empty first = pure start := by
    rw [nameValue, bound]
    rfl
  rw [evaluateTree, named]
  rfl

/-- A condition finds the value to which a path leads.  An expression gives the same value unless a name behind the
first one has a meaning of its own, and then it is refused or gives a method. -/
theorem evaluate_path {h : Heap} {input v : Value} {a : Address} (functions : List (String × Value))
    (fields : ∀ name ∈ first :: rest, IsField name) (own : first ∉ sourceNames)
    (plain : h.opening.HasPlainNames input) (plain' : h.opening.HasPlainNames (.dict a))
    (leads : h.opening.Leads input (.dict a) first rest v) :
    Condition.resolveOn h (".".intercalate (first :: rest)) input (.dict a) = .ok v ∧
      ((∀ name ∈ rest, isReserved name = false) →
        ((evaluate functions (".".intercalate (first :: rest)) input (.dict a)).run h).1 = .ok v) ∧
      ((∃ name ∈ rest, isReserved name = true) →
        IsAstray ((evaluate functions (".".intercalate (first :: rest)) input (.dict a)).run h).1) := by
  have resolved := Condition.resolveOn_of_leads fields plain plain' leads
  obtain ⟨s, vars, m, ran, values, same, replaced⟩ := run_evaluate_path functions fields input a h
  obtain ⟨start, found, further⟩ := leads.cons
  have read : (evaluateTree s .empty (.name first)).exec m = (.ok start, m) :=
    exec_name own values (by rw [same, replaced, found])
  rw [← Opening.follow_congr same] at further
  rw [List.forall_mem_cons] at fields
  rw [ran]
  constructor
  · exact resolved
  · constructor
    · intro free
      rw [exec_attributes_of_free fields.2 free read further]
    · intro reserved
      exact isAstray_attributes fields.2 reserved read further

/-- A heap with three sources: an input at 1, variables at 4 and no variables at 5. -/
def shelf : Heap :=
  ⟨#[.dict [(.str "items", .int 1)], .dict [(.str "a", .dict 0)], .dict [(.str "len", .str "Ann")],
     .dict [(.str "x_1", .dict 2)], .dict [(.str "true", .dict 3)], .dict []], 0⟩

theorem hasPlainNames_shelf : ∀ a ∈ [1, 4, 5], shelf.opening.HasPlainNames (.dict a) := by
  intro a listed
  apply Opening.hasPlainNames_of_entries
  simp only [List.mem_cons, List.not_mem_nil, or_false] at listed
  rcases listed with rfl | rfl | rfl
  · exact List.forall_mem_singleton.mpr ⟨"a", rfl, by decide⟩
  · exact List.forall_mem_singleton.mpr ⟨"true", rfl, by decide⟩
  · rintro e ⟨⟩

/-- A path among the variables may go along names that have a meaning elsewhere. -/
theorem evaluate_path_true :
    (∀ name ∈ ["true", "x_1", "len"], IsField name) ∧ "true" ∉ sourceNames ∧
      shelf.opening.HasPlainNames (.dict 1) ∧ shelf.opening.HasPlainNames (.dict 4) ∧
      shelf.opening.Leads (.dict 1) (.dict 4) "true" ["x_1", "len"] (.str "Ann") ∧
      Condition.resolveOn shelf "true.x_1.len" (.dict 1) (.dict 4) = .ok (.str "Ann") ∧
      ((evaluate standardFunctions "true.x_1.len" (.dict 1) (.dict 4)).run shelf).1 = .ok (.str "Ann") := by
  have fields : ∀ name ∈ ["true", "x_1", "len"], IsField name := by
    intro name listed
    simp only [List.mem_cons, List.not_mem_nil, or_false] at listed
    rcases listed with rfl | rfl | rfl <;> exact ⟨by decide +kernel, by simp, by decide, by decide +kernel⟩
  have own : "true" ∉ sourceNames := by decide
  have plain := hasPlainNames_shelf 1 (by decide)
  have plain' := hasPlainNames_shelf 4 (by decide)
  have leads : shelf.opening.Leads (.dict 1) (.dict 4) "true" ["x_1", "len"] (.str "Ann") := .inr ⟨rfl, rfl⟩
  obtain ⟨found, given, -⟩ := evaluate_path standardFunctions fields own plain plain' leads
  exact ⟨fields, own, plain, plain', leads, found, given (by decide)⟩

/-- An entry with the name of a method is found by a condition, where an expression gives the method. -/
theorem evaluate_path_items :
    (∀ name ∈ ["a", "items"], IsField name) ∧ "a" ∉ sourceNames ∧
      shelf.opening.HasPlainNames (.dict 1) ∧ shelf.opening.HasPlainNames (.dict 5) ∧
      shelf.opening.Leads (.dict 1) (.dict 5) "a" ["items"] (.int 1) ∧
      Condition.resolveOn shelf "a.items" (.dict 1) (.dict 5) = .ok (.int 1) ∧
      ((evaluate standardFunctions "a.items" (.dict 1) (.dict 5)).run shelf).1 = .ok (.method (.dict 0) "items") := by
  have fields : ∀ name ∈ ["a", "items"], IsField name := by
    intro name listed
    simp only [List.mem_cons, List.not_mem_nil, or_false] at listed
    rcases listed with rfl | rfl <;> exact ⟨by decide +kernel, by simp, by decide, by decide +kernel⟩
  have plain := hasPlainNames_shelf 1 (by decide)
  have plain' := hasPlainNames_shelf 5 (by decide)
  have leads : shelf.opening.Leads (.dict 1) (.dict 5) "a" ["items"] (.int 1) := .inl rfl
  obtain ⟨s, vars, m, ran, values, same, -⟩ := run_evaluate_path standardFunctions fields (.dict 1) 5 shelf
  have read : (evaluateTree s .empty (.name "a")).exec m = (.ok (.dict 0), m) := by
    apply exec_name (by decide) values
    rw [same]
    rfl
  have method := exec_attribute_of_method (show forbidden? "items" = none by decide +kernel) (by decide) read
  rw [show Kind.typeMethods.contains "items" = false by decide, if_neg Bool.false_ne_true] at method
  have found := Condition.resolveOn_of_leads fields plain plain' leads
  exact ⟨fields, by decide, plain, plain', leads, found, ran.trans (congrArg Prod.fst method)⟩

end Expression

end WorkflowEngine
