import WorkflowEngine.Action.Sample
import WorkflowEngine.Proofs.Definition.Proper

/-!
# What a registry keeps

A registry goes through calls that register handlers and free names, and some of the calls fail.  Its names stay trimmed
and differ from one another, every way of asking for a name finds the same handler, and a handler stays until its name
is freed.  What is listed are the names with a description.  A handler is kept before its description is put in order
and before it is told where it comes from, so a call that fails there leaves the handler behind, and in the first case
without a description.
-/

/-!
## Registering handlers

Registering a handler is refused and changes nothing, or the handler comes behind the others under its trimmed name:
`register_cases` says when.  What registering one handler leaves as it is stays as it is when a list of them is
registered.
-/

namespace WorkflowEngine.Registry

variable {r : Registry} {name : String} {handler : Handler} {description : Data}

/-- The names under which handlers stand. -/
def names (r : Registry) : List String :=
  r.entries.map Prod.fst

theorem find?_eq_none_iff : r.find? name = none ↔ name ∉ r.names := by
  unfold find? names
  rw [List.lookup_eq_none_iff]
  simp only [bne_iff_ne, ne_eq, List.mem_map, not_exists, not_and]
  exact ⟨fun apart e member same => apart e member same.symm, fun apart e member same => apart e member same.symm⟩

theorem find?_isSome_iff : (r.find? name).isSome = true ↔ name ∈ r.names := by
  rw [Option.isSome_iff_ne_none, Ne, find?_eq_none_iff, Decidable.not_not]

/-- The registry with one more handler. -/
def adding (r : Registry) (name : String) (registration : Registration) : Registry :=
  ⟨r.entries ++ [(name, registration)]⟩

/-! ## One handler registered -/

/-- What is kept of a description. -/
def keptOf (description : Data) : Description :=
  match Description.ofData description with
  | .ok d => .said d
  | .error _ => .lacking

/-- The fault behind which a handler stays registered, if there is one: the description cannot be put in order, or it
cannot be told where the handler comes from. -/
def lateFault? (handler : Handler) (description : Data) : Option Fault :=
  match Description.ofData description with
  | .ok _ => handler.originFault?
  | .error f => some f

/-- How registering ends for a handler that is kept. -/
def outcomeOf (handler : Handler) (description : Data) : Except RegisterFailure Unit :=
  match lateFault? handler description with
  | some f => .error (.fault f)
  | none => .ok ()

/-- Under a free name a handler is kept, whether or not its description can be put in order. -/
theorem insert_free (free : name ∉ r.names) :
    r.insert name handler description =
      ((Description.ofData description).map (fun _ => ()) |>.mapError .fault,
        r.adding name ⟨handler, keptOf description⟩) := by
  have missing : r.find? name = none := find?_eq_none_iff.mpr free
  unfold insert keptOf
  rw [missing]
  cases Description.ofData description <;> rfl

/-- A handler that can be called and whose parameters are known is kept under a free name. -/
theorem register_free {count : Nat} (solid : Text.isBlankText name = false) (callable : handler.isCallable = true)
    (known : handler.signature = .ok count) (free : Text.trim name ∉ r.names) :
    (r.register name handler description).2 =
      (outcomeOf handler description, r.adding (Text.trim name) ⟨handler, keptOf description⟩) := by
  unfold register outcomeOf lateFault?
  simp only [solid, callable, known, insert_free free]
  cases Description.ofData description with
  | error f => rfl
  | ok d => cases handler.originFault? <;> rfl

/-- Registering is refused and changes nothing, or the handler is kept under the trimmed name, which was free. -/
theorem register_cases (r : Registry) (name : String) (handler : Handler) (description : Data) :
    (∃ e, (r.register name handler description).2 = (.error (.refused e), r)) ∨
      Text.isBlankText name = false ∧ Text.trim name ∉ r.names ∧
        (r.register name handler description).2 =
          (outcomeOf handler description, r.adding (Text.trim name) ⟨handler, keptOf description⟩) := by
  cases solid : Text.isBlankText name with
  | true => exact .inl ⟨.emptyName .register, by simp [register, solid]⟩
  | false =>
      cases callable : handler.isCallable with
      | false => exact .inl ⟨.notCallable (Text.trim name), by simp [register, solid, callable]⟩
      | true =>
          cases known : handler.signature with
          | error reason =>
              exact .inl ⟨.noSignature (Text.trim name) reason, by simp [register, solid, callable, known]⟩
          | ok count =>
              by_cases free : Text.trim name ∈ r.names
              · refine .inl ⟨.taken (Text.trim name), ?_⟩
                simp [register, solid, callable, known, insert, find?_isSome_iff.mpr free]
              · exact .inr ⟨rfl, free, register_free solid callable known free⟩

/-- What holds of all handlers holds of them when one more of which it holds is registered, whether or not its
description can be kept. -/
theorem forall_register {P : Handler → Prop} (all : ∀ entry ∈ r.entries, P entry.2.handler) (holds : P handler)
    (name : String) (description : Data) :
    ∀ entry ∈ (r.register name handler description).2.2.entries, P entry.2.handler := by
  rcases register_cases r name handler description with ⟨e, refused⟩ | ⟨-, -, kept⟩
  · rw [refused]
    exact all
  · rw [kept]
    exact List.forall_mem_append.mpr ⟨all, List.forall_mem_singleton.mpr holds⟩

/-! ## A list of handlers registered -/

/-- What every handler of a list leaves as it is when it is registered stays as it is when the list is. -/
theorem registerMissing_keeps {P : Registry → Prop} {handlers : List (Handler × String)}
    (step : ∀ entry ∈ handlers, ∀ r, P r → P (r.register entry.1.name entry.1 (.str entry.2)).2.2) (lines : List Line)
    (holds : P r) : P (registerMissing lines r handlers).2.2 := by
  induction handlers generalizing r lines with
  | nil => exact holds
  | cons entry rest ih =>
      obtain ⟨first, others⟩ := List.forall_mem_cons.mp step
      unfold registerMissing
      split
      · exact ih others _ holds
      · have kept := first r holds
        split
        · rename_i registered
          rw [registered] at kept
          exact ih others _ kept
        · rename_i registered
          rw [registered] at kept
          exact kept

theorem forall_registerMissing {P : Handler → Prop} (all : ∀ entry ∈ r.entries, P entry.2.handler)
    {handlers : List (Handler × String)} (hold : ∀ entry ∈ handlers, P entry.1) (lines : List Line) :
    ∀ entry ∈ (registerMissing lines r handlers).2.2.entries, P entry.2.handler :=
  registerMissing_keeps (P := fun r => ∀ entry ∈ r.entries, P entry.2.handler)
    (fun entry listed _ all => forall_register all (hold entry listed) _ _) lines all

end WorkflowEngine.Registry

/-! ## What a registry keeps -/

namespace WorkflowEngine

namespace Text

/-- Blanks around a text do not change what is left of it by trimming. -/
theorem trim_padded {front back : String} (before : isBlankText front = true) (behind : isBlankText back = true)
    (s : String) : trim (front ++ s ++ back) = trim s := by
  have leading : ∀ c ∈ front.toList, Unicode.isBlank c = true := List.all_eq_true.mp before
  have trailing : ∀ c ∈ back.toList.reverse, Unicode.isBlank c = true :=
    fun c member => List.all_eq_true.mp behind c (List.mem_reverse.mp member)
  have gone : back.toList.dropWhile Unicode.isBlank = [] :=
    List.dropWhile_eq_nil_iff.mpr (List.all_eq_true.mp behind)
  unfold trim trimChars dropBlanks
  rw [String.toList_append, String.toList_append, List.append_assoc, List.dropWhile_append_of_pos leading,
    List.dropWhile_append]
  split
  · rename_i empty
    rw [gone, List.isEmpty_iff.mp empty]
  · rw [List.reverse_append, List.dropWhile_append_of_pos trailing]

/-- A text is blank exactly if nothing is left of it by trimming. -/
theorem isBlankText_of_trim {s t : String} (same : trim s = trim t) : isBlankText s = isBlankText t := by
  have chars : trimChars s.toList = trimChars t.toList := by
    simpa [trim] using congrArg String.toList same
  rw [Bool.eq_iff_iff]
  unfold isBlankText
  rw [← trimChars_eq_nil_iff, ← trimChars_eq_nil_iff, chars]

end Text

namespace Registry

variable {r : Registry} {name other : String} {handler : Handler} {description : Data}

/-! ## Names and what stands under them -/

/-- The names that are listed. -/
def listed (r : Registry) : List String :=
  r.list.map Prod.fst

/-- The registry without what stands under a name. -/
def freeing (r : Registry) (name : String) : Registry :=
  ⟨r.entries.filter fun entry => entry.1 != name⟩

theorem mem_names_adding (r : Registry) (name : String) (registration : Registration) :
    name ∈ (r.adding name registration).names := by
  simp [names, adding]

theorem find?_adding (registration : Registration) :
    (r.adding other registration).find? name =
      (r.find? name).or (if name = other then some registration else none) := by
  unfold find? adding
  rw [List.lookup_append]
  by_cases same : name = other
  · simp [same]
  · have apart : (name == other) = false := beq_false_of_ne same
    simp [List.lookup_cons, same, apart]

theorem find?_freeing (ne : name ≠ other) : (r.freeing other).find? name = r.find? name := by
  obtain ⟨entries⟩ := r
  unfold find? freeing
  dsimp only
  induction entries with
  | nil => rfl
  | cons e rest ih =>
      obtain ⟨key, registration⟩ := e
      by_cases hit : name = key
      · subst hit
        simp [ne]
      · have apart : (name == key) = false := beq_false_of_ne hit
        by_cases gone : key = other
        · simp [gone, ih, List.lookup_cons, beq_false_of_ne ne]
        · simp [gone, ih, List.lookup_cons, apart]

/-! ## Calls -/

/-- What may change a registry. -/
inductive Call where
  | register (name : String) (handler : Handler) (description : Data)
  | unregister (name : String)
  | registerBuiltin

/-- Why a call fails. -/
def failure? {α : Type} : Except RegisterFailure α → Option RegisterFailure
  | .ok _ => none
  | .error e => some e

/-- What a call comes to: why it fails, if it does, and what the registry keeps. -/
def call (r : Registry) : Call → Option RegisterFailure × Registry
  | .register name handler description =>
    let (_, outcome, next) := r.register name handler description
    (failure? outcome, next)
  | .unregister name =>
    match r.unregister name with
    | .ok (_, next) => (none, next)
    | .error e => (some (.refused e), r)
  | .registerBuiltin =>
    let (_, outcome, _) := registerMissing [] r Builtin.all
    (failure? outcome, r.registerBuiltin.2)

/-- What a registry keeps after calls. -/
def perform (r : Registry) (calls : List Call) : Registry :=
  calls.foldl (fun r c => (r.call c).2) r

/-- The handlers that a call registers, with their descriptions. -/
def Call.offers : Call → List (Handler × Data)
  | .register _ handler description => [(handler, description)]
  | .unregister _ => []
  | .registerBuiltin => Builtin.all.map fun entry => (entry.1, .str entry.2)

/-- Every description of the call can be put in order. -/
def Call.IsDescribed (c : Call) : Prop :=
  ∀ offer ∈ c.offers, ∃ d, Description.ofData offer.2 = .ok d

/-- Nothing goes wrong in the call once a handler is kept. -/
def Call.IsSmooth (c : Call) : Prop :=
  ∀ offer ∈ c.offers, lateFault? offer.1 offer.2 = none

/-- The call frees a name. -/
def Call.Frees (c : Call) (name : String) : Prop :=
  ∃ other, c = .unregister other ∧ Text.trim other = Text.trim name

theorem unregister_cases (r : Registry) (name : String) :
    r.call (.unregister name) = (some (.refused (.emptyName .unregister)), r) ∨
      r.call (.unregister name) = (none, r.freeing (Text.trim name)) := by
  cases solid : Text.isBlankText name with
  | true => exact .inl (by simp [call, unregister, solid])
  | false => exact .inr (by simp [call, unregister, solid, freeing])

/-- What stays as it is when the handlers of a call are registered and its name is freed stays as it is in the call. -/
theorem call_keeps {P : Registry → Prop} (c : Call)
    (registered : ∀ offer ∈ c.offers, ∀ r name, P r → P (r.register name offer.1 offer.2).2.2)
    (freed : ∀ r name, c = .unregister name → P r → P (r.freeing (Text.trim name))) (holds : P r) : P (r.call c).2 := by
  cases c with
  | register name handler description => exact registered _ (List.mem_singleton_self _) r name holds
  | unregister name =>
      rcases unregister_cases r name with refused | done
      · exact refused ▸ holds
      · exact done ▸ freed r name rfl holds
  | registerBuiltin =>
      exact registerMissing_keeps (fun entry listed r => registered _ (List.mem_map_of_mem listed) r _) [] holds

/-- What every call leaves as it is holds after all of them. -/
theorem perform_keeps {P : Registry → Prop} {calls : List Call} (step : ∀ c ∈ calls, ∀ r, P r → P (r.call c).2)
    (holds : P r) : P (perform r calls) := by
  induction calls generalizing r with
  | nil => exact holds
  | cons c rest ih =>
      obtain ⟨first, others⟩ := List.forall_mem_cons.mp step
      exact ih others (first r holds)

/-! ## What holds after all calls -/

/-- The names are trimmed, and differ from one another. -/
structure IsProper (r : Registry) : Prop where
  trimmed : ∀ name ∈ r.names, Text.IsTrimmed name
  distinct : r.names.Nodup

theorem isProper_empty : empty.IsProper :=
  ⟨fun _ listed => absurd listed List.not_mem_nil, List.nodup_nil⟩

namespace IsProper

theorem adding (proper : r.IsProper) (solid : Text.isBlankText name = false) (free : Text.trim name ∉ r.names)
    (registration : Registration) : (r.adding (Text.trim name) registration).IsProper := by
  have added : (r.adding (Text.trim name) registration).names = r.names ++ [Text.trim name] := by
    simp [names, Registry.adding]
  refine ⟨?_, ?_⟩
  · rw [added]
    exact List.forall_mem_append.mpr ⟨proper.trimmed, List.forall_mem_singleton.mpr (Text.isTrimmed_trim solid)⟩
  · rw [added]
    exact List.nodup_append.mpr ⟨proper.distinct, List.nodup_singleton _, fun a left b right => by
      rw [List.mem_singleton.mp right]
      exact fun same => free (same ▸ left)⟩

theorem freeing (proper : r.IsProper) (name : String) : (r.freeing name).IsProper := by
  have fewer : (r.freeing name).names.Sublist r.names := List.filter_sublist.map _
  exact ⟨fun n listed => proper.trimmed n (fewer.subset listed), proper.distinct.sublist fewer⟩

theorem call (proper : r.IsProper) (c : Call) : (r.call c).2.IsProper := by
  refine call_keeps c (fun offer _ r name proper => ?_) (fun r name _ proper => proper.freeing _) proper
  rcases register_cases r name offer.1 offer.2 with ⟨e, refused⟩ | ⟨solid, free, kept⟩
  · exact refused ▸ proper
  · exact kept ▸ proper.adding solid free _

end IsProper

theorem isProper_perform (calls : List Call) : (perform .empty calls).IsProper :=
  perform_keeps (fun c _ _ proper => proper.call c) isProper_empty

/-- Every handler has a description. -/
def IsDescribed (r : Registry) : Prop :=
  ∀ entry ∈ r.entries, entry.2.description.said?.isSome = true

theorem IsDescribed.call (described : r.IsDescribed) {c : Call} (each : c.IsDescribed) : (r.call c).2.IsDescribed := by
  refine call_keeps c (fun offer offered r name described => ?_)
    (fun r name _ described entry listed => described entry (List.mem_of_mem_filter listed)) described
  rcases register_cases r name offer.1 offer.2 with ⟨e, refused⟩ | ⟨-, -, kept⟩
  · exact refused ▸ described
  · obtain ⟨d, ordered⟩ := each offer offered
    rw [kept]
    refine List.forall_mem_append.mpr ⟨described, List.forall_mem_singleton.mpr ?_⟩
    simp [keptOf, ordered, Description.said?]

/-- What is registered under a name stays there unless the name is freed. -/
theorem find?_call {registration : Registration} (found : r.find? name = some registration) {c : Call}
    (kept : ∀ other, c = .unregister other → Text.trim other ≠ name) : (r.call c).2.find? name = some registration := by
  refine call_keeps (P := fun r => r.find? name = some registration) c (fun offer _ r other found => ?_)
    (fun r other freed found => (find?_freeing (kept other freed).symm).trans found) found
  rcases register_cases r other offer.1 offer.2 with ⟨e, refused⟩ | ⟨-, -, added⟩
  · exact refused ▸ found
  · rw [added]
    exact (find?_adding _).trans (by rw [found, Option.some_or])

/-! ## Asking for names -/

/-- A dispatch to a handler that is found. -/
def dispatchTo (handler : Handler) (name : String) (input parameters : Value) (wait : Option Number) (d : Desk) :
    Except DispatchFailure Value × Desk :=
  match (Work.onHeap (parameterEntries parameters)).run d with
  | (.error (.fault f), d) => (.error (.fault f), d)
  | (.error interruption, d) => (.error (failureOf name wait interruption), d)
  | (.ok entries, d) =>
    match (attend handler input entries wait).run d with
    | (.ok value, d) => (.ok value, d)
    | (.error interruption, d) => (.error (failureOf name wait interruption), d)

/-- Every way of asking for a name finds the handler. -/
structure Finds (r : Registry) (name : String) (handler : Handler) : Prop where
  there : r.contains name = true
  given : r.get name = .ok handler
  dispatched : ∀ input parameters wait d,
    r.dispatch name input parameters wait d = dispatchTo handler name input parameters wait d

/-- No way of asking for a name finds a handler. -/
structure Misses (r : Registry) (name : String) : Prop where
  absent : r.contains name = false
  refused : ∃ e, r.get name = .error e ∧ ∀ input parameters wait d,
    r.dispatch name input parameters wait d = (.error (refuse name e.message), d)

theorem finds_of_get (given : r.get name = .ok handler) : r.Finds name handler := by
  refine ⟨?_, given, fun input parameters wait d => ?_⟩
  · unfold get at given
    unfold contains
    split at given
    · cases given
    · rename_i solid
      split at given
      · rename_i registration found
        simp [solid, found]
      · cases given
  · unfold dispatch
    rw [given]
    rfl

theorem misses_of_get {e : RegistryError} (refused : r.get name = .error e) : r.Misses name := by
  refine ⟨?_, e, refused, fun input parameters wait d => ?_⟩
  · unfold get at refused
    unfold contains
    split at refused
    · rename_i blank
      simp [blank]
    · split at refused
      · cases refused
      · rename_i missing
        simp [missing]
  · unfold dispatch
    rw [refused]

theorem finds_or_misses (r : Registry) (name : String) : (∃ handler, r.Finds name handler) ∨ r.Misses name := by
  cases given : r.get name with
  | ok handler => exact .inl ⟨handler, finds_of_get given⟩
  | error e => exact .inr (misses_of_get given)

/-- The handlers that are found are those that stand under the trimmed names. -/
theorem finds_iff (proper : r.IsProper) :
    r.Finds name handler ↔ (r.find? (Text.trim name)).map Registration.handler = some handler := by
  constructor
  · rintro ⟨-, given, -⟩
    unfold get at given
    split at given
    · cases given
    · split at given
      · rename_i registration found
        cases given
        rw [found]
        rfl
      · cases given
  · intro found
    obtain ⟨registration, stands, rfl⟩ := Option.map_eq_some_iff.mp found
    have listed : Text.trim name ∈ r.names := find?_isSome_iff.mp (by rw [stands]; rfl)
    have solid : Text.isBlankText name = false := by
      rw [← Text.isBlankText_of_trim (Text.trim_trim name)]
      exact (Text.isTrimmed_iff.mp (proper.trimmed _ listed)).1
    exact finds_of_get (by simp [get, solid, stands])

theorem exists_finds_iff (proper : r.IsProper) : (∃ handler, r.Finds name handler) ↔ Text.trim name ∈ r.names := by
  simp only [finds_iff proper]
  rw [← find?_isSome_iff, Option.isSome_iff_exists]
  simp

/-- Two names mean the same to a registry, whatever it is asked. -/
structure Alike (r : Registry) (name other : String) : Prop where
  contains : r.contains name = r.contains other
  found : ∀ handler, r.Finds name handler ↔ r.Finds other handler
  registered : ∀ handler description, r.register name handler description = r.register other handler description
  unregistered : r.unregister name = r.unregister other

theorem alike_of_trim (proper : r.IsProper) (same : Text.trim name = Text.trim other) : r.Alike name other := by
  have blank : Text.isBlankText name = Text.isBlankText other := Text.isBlankText_of_trim same
  refine ⟨?_, fun handler => ?_, fun handler description => ?_, ?_⟩
  · unfold contains
    rw [blank, same]
  · rw [finds_iff proper, finds_iff proper, same]
  · unfold register
    rw [blank, same]
  · unfold unregister
    rw [blank, same]

/-! ## Listed names -/

theorem listed_sublist (r : Registry) : r.listed.Sublist r.names := by
  obtain ⟨entries⟩ := r
  unfold listed list names
  induction entries with
  | nil => exact .slnil
  | cons entry rest ih =>
      rw [List.filterMap_cons]
      cases entry.2.description.said? with
      | none => exact ih.cons _
      | some d => exact ih.cons_cons _

/-- All names are listed if every handler has a description. -/
theorem listed_of_described (described : r.IsDescribed) : r.listed = r.names := by
  obtain ⟨entries⟩ := r
  unfold listed list names
  unfold IsDescribed at described
  dsimp only at described ⊢
  induction entries with
  | nil => rfl
  | cons entry rest ih =>
      obtain ⟨first, others⟩ := List.forall_mem_cons.mp described
      obtain ⟨d, said⟩ := Option.isSome_iff_exists.mp first
      rw [List.filterMap_cons, said]
      exact congrArg (entry.1 :: ·) (ih others)

/-! ## Calls that fail -/

/-- A call that is refused changes nothing. -/
theorem call_of_refused {c : Call} {e : RegistryError} (failed : (r.call c).1 = some (.refused e))
    (sound : c ≠ .registerBuiltin) : (r.call c).2 = r := by
  cases c with
  | register name handler description =>
      rcases register_cases r name handler description with ⟨e', refused⟩ | ⟨-, -, kept⟩
      · exact congrArg Prod.snd refused
      · change failure? (r.register name handler description).2.1 = _ at failed
        rw [kept, outcomeOf] at failed
        cases late : lateFault? handler description <;> simp [late, failure?] at failed
  | unregister name =>
      rcases unregister_cases r name with refused | done
      · exact congrArg Prod.snd refused
      · rw [done] at failed
        cases failed
  | registerBuiltin => exact absurd rfl sound

/-! ## Built-in handlers -/

/-- Nothing stands against registering a handler under its own name, once that is free. -/
structure IsReady (handler : Handler) (description : Data) : Prop where
  solid : Text.isBlankText handler.name = false
  callable : handler.isCallable = true
  known : ∃ count, handler.signature = .ok count
  smooth : lateFault? handler description = none

theorem IsReady.register (ready : IsReady handler description) (free : Text.trim handler.name ∉ r.names) :
    (r.register handler.name handler description).2 =
      (.ok (), r.adding (Text.trim handler.name) ⟨handler, keptOf description⟩) := by
  obtain ⟨count, known⟩ := ready.known
  rw [register_free ready.solid ready.callable known free, outcomeOf, ready.smooth]

theorem isReady_builtin : ∀ entry ∈ Builtin.all, IsReady entry.1 (.str entry.2) := by
  have ready (name routine : String) (parameters : List String) (work : Value → Named → Work Value)
      (description : String) (solid : Text.isBlankText name = false) (said : (description != "") = true) :
      IsReady (.ofBody name routine parameters true work) (.str description) := by
    refine ⟨solid, rfl, ⟨_, rfl⟩, ?_⟩
    simp [lateFault?, Description.ofData, Data.isPresent, said, Description.trimmed, Handler.ofBody]
  intro entry listed
  simp only [Builtin.all, List.mem_cons, List.not_mem_nil, or_false] at listed
  rcases listed with rfl | rfl | rfl
  · exact ready _ _ _ _ _ (by decide) (by decide)
  · exact ready _ _ _ _ _ (by decide) (by decide)
  · exact ready _ _ _ _ _ (by decide) (by decide)

theorem contains_iff : r.contains name = true ↔ Text.isBlankText name = false ∧ Text.trim name ∈ r.names := by
  unfold contains
  rw [Bool.and_eq_true, Bool.not_eq_true', find?_isSome_iff]

theorem contains_register (there : r.contains other = true) :
    (r.register name handler description).2.2.contains other = true := by
  rcases register_cases r name handler description with ⟨e, refused⟩ | ⟨-, -, kept⟩
  · exact refused ▸ there
  · obtain ⟨solid, listed⟩ := contains_iff.mp there
    rw [kept, contains_iff]
    refine ⟨solid, ?_⟩
    simp [names, adding]
    exact .inl (by simpa [names] using listed)

/-- Handlers whose names are all taken are passed by. -/
theorem registerMissing_of_taken {handlers : List (Handler × String)}
    (taken : ∀ entry ∈ handlers, r.contains entry.1.name = true) (lines : List Line) :
    (registerMissing lines r handlers).2 = (.ok (), r) := by
  induction handlers generalizing lines with
  | nil => rfl
  | cons entry rest ih =>
      obtain ⟨first, others⟩ := List.forall_mem_cons.mp taken
      rw [registerMissing, if_pos first]
      exact ih others _

/-- Handlers that nothing stands against are all registered afterwards. -/
theorem registerMissing_of_ready {handlers : List (Handler × String)}
    (ready : ∀ entry ∈ handlers, IsReady entry.1 (.str entry.2)) (lines : List Line) :
    (registerMissing lines r handlers).2.1 = .ok () ∧
      ∀ entry ∈ handlers, (registerMissing lines r handlers).2.2.contains entry.1.name = true := by
  induction handlers generalizing r lines with
  | nil => exact ⟨rfl, fun _ listed => absurd listed List.not_mem_nil⟩
  | cons entry rest ih =>
      obtain ⟨first, others⟩ := List.forall_mem_cons.mp ready
      have stays {r : Registry} (lines : List Line) (there : r.contains entry.1.name = true) :
          (registerMissing lines r rest).2.2.contains entry.1.name = true :=
        registerMissing_keeps (P := fun r => r.contains entry.1.name = true)
          (fun _ _ _ there => contains_register there) lines there
      unfold registerMissing
      split
      · rename_i there
        obtain ⟨done, all⟩ := ih (r := r) others _
        exact ⟨done, List.forall_mem_cons.mpr ⟨stays _ there, all⟩⟩
      · rename_i missing
        have kept := first.register fun listed => missing (contains_iff.mpr ⟨first.solid, listed⟩)
        rcases registered : r.register entry.1.name entry.1 (.str entry.2) with ⟨written, outcome, next⟩
        rw [registered] at kept
        cases kept
        obtain ⟨done, all⟩ := ih (r := r.adding (Text.trim entry.1.name) ⟨entry.1, keptOf (.str entry.2)⟩) others
          (lines ++ written)
        have there := contains_iff.mpr ⟨first.solid, mem_names_adding r _ ⟨entry.1, keptOf (.str entry.2)⟩⟩
        exact ⟨done, List.forall_mem_cons.mpr ⟨stays _ there, all⟩⟩

/-- The built-in handlers are registered without failing, and registering them again changes nothing. -/
theorem registerBuiltin_twice (r : Registry) :
    (r.call .registerBuiltin).1 = none ∧ r.registerBuiltin.2.registerBuiltin.2 = r.registerBuiltin.2 := by
  obtain ⟨done, all⟩ := registerMissing_of_ready (r := r) isReady_builtin []
  refine ⟨?_, ?_⟩
  · change failure? (registerMissing [] r Builtin.all).2.1 = none
    rw [done]
    rfl
  · have same := congrArg Prod.snd (registerMissing_of_taken all [])
    exact same

/-! ## The registry as a whole -/

/-- A call behind which nothing goes wrong once a handler is kept changes nothing when it fails. -/
theorem call_of_smooth {c : Call} {failure : RegisterFailure} (smooth : c.IsSmooth)
    (failed : (r.call c).1 = some failure) : (r.call c).2 = r := by
  cases c with
  | register name handler description =>
      rcases register_cases r name handler description with ⟨e, refused⟩ | ⟨-, -, kept⟩
      · exact congrArg Prod.snd refused
      · change failure? (r.register name handler description).2.1 = _ at failed
        rw [kept, outcomeOf, smooth _ (List.mem_singleton_self _)] at failed
        cases failed
  | unregister name =>
      rcases unregister_cases r name with refused | done
      · exact congrArg Prod.snd refused
      · rw [done] at failed
        cases failed
  | registerBuiltin =>
      rw [(registerBuiltin_twice r).1] at failed
      cases failed

theorem isDescribed_perform {calls : List Call} (described : ∀ c ∈ calls, c.IsDescribed) :
    (perform .empty calls).IsDescribed :=
  perform_keeps (fun c listed _ holds => IsDescribed.call holds (described c listed))
    fun _ listed => absurd listed List.not_mem_nil

/-- Whatever calls a registry goes through, among them calls that fail, every way of asking for a name finds the same
handler or none does, blanks around a name make no difference, and a handler is found until its name is freed.  The
listed names are trimmed and differ from one another, and a handler is found under each of them; they are all names
under which one is found if every description in the calls can be put in order.  A call that fails changes nothing
unless it fails when a handler is kept already.  Registering the built-in handlers never fails, and doing so once more
changes nothing. -/
theorem perform_agrees (calls : List Call) :
    let r := perform .empty calls
    (∀ name, (∃ handler, r.Finds name handler) ∨ r.Misses name) ∧
      (r.listed.Nodup ∧ ∀ name ∈ r.listed, Text.IsTrimmed name ∧ ∃ handler, r.Finds name handler) ∧
      ((∀ c ∈ calls, c.IsDescribed) → ∀ name, (∃ handler, r.Finds name handler) ↔ Text.trim name ∈ r.listed) ∧
      (∀ front name back, Text.isBlankText front = true → Text.isBlankText back = true →
        r.Alike (front ++ name ++ back) name) ∧
      (∀ c failure, (r.call c).1 = some failure → (c.IsSmooth ∨ ∃ e, failure = .refused e) → (r.call c).2 = r) ∧
      (∀ name handler later, r.Finds name handler → (∀ c ∈ later, ¬ c.Frees name) →
        (perform r later).Finds name handler) ∧
      (r.call .registerBuiltin).1 = none ∧ r.registerBuiltin.2.registerBuiltin.2 = r.registerBuiltin.2 := by
  intro r
  have proper : r.IsProper := isProper_perform calls
  refine ⟨r.finds_or_misses, ⟨proper.distinct.sublist r.listed_sublist, fun name listed => ?_⟩,
    fun described name => ?_, fun front name back before behind => alike_of_trim proper (Text.trim_padded before behind name),
    fun c failure failed safe => ?_, fun name handler later finds kept => ?_, registerBuiltin_twice r⟩
  · have member : name ∈ r.names := r.listed_sublist.subset listed
    have trimmed := proper.trimmed name member
    have same : Text.trim name = name := (Text.isTrimmed_iff.mp trimmed).2
    exact ⟨trimmed, (exists_finds_iff proper).mpr (same.symm ▸ member)⟩
  · rw [exists_finds_iff proper, listed_of_described (isDescribed_perform described)]
  · rcases safe with smooth | ⟨e, rfl⟩
    · exact call_of_smooth smooth failed
    · refine call_of_refused failed fun builtIn => ?_
      rw [builtIn, (registerBuiltin_twice r).1] at failed
      cases failed
  · obtain ⟨registration, found, same⟩ := Option.map_eq_some_iff.mp ((finds_iff proper).mp finds)
    have stays : (perform r later).find? (Text.trim name) = some registration :=
      perform_keeps (P := fun r => r.find? (Text.trim name) = some registration)
        (fun c listed _ found => find?_call found fun other freed same => kept c listed ⟨other, freed, same⟩) found
    have later_proper : (perform r later).IsProper := perform_keeps (fun c _ _ holds => holds.call c) proper
    exact (finds_iff later_proper).mpr (Option.map_eq_some_iff.mpr ⟨registration, stays, same⟩)

/-- Calls that register handlers and free a name, one of which is refused. -/
def tried : List Call :=
  [.register " echo " Sample.echo (.str " Gives back "), .register "echo" Sample.failing .null, .registerBuiltin,
    .unregister "set_fields\n"]

/-- After these calls, a handler is found under a listed name with blanks around it. -/
theorem perform_agrees_tried :
    let r := perform .empty tried
    (∀ c ∈ tried, c.IsDescribed) ∧ r.listed = ["echo", "log_message", "math_operation"] ∧
      (∃ handler, r.Finds "\techo " handler) ∧ ¬ ∃ handler, r.Finds "set_fields" handler := by
  intro r
  have described : ∀ c ∈ tried, c.IsDescribed := by
    intro c listed offer offered
    simp only [tried, List.mem_cons, List.not_mem_nil, or_false] at listed
    rcases listed with rfl | rfl | rfl | rfl
    · exact ⟨_, by rw [List.mem_singleton.mp offered]; rfl⟩
    · exact ⟨_, by rw [List.mem_singleton.mp offered]; rfl⟩
    · simp only [Call.offers, Builtin.all, List.map_cons, List.map_nil, List.mem_cons, List.not_mem_nil,
        or_false] at offered
      rcases offered with rfl | rfl | rfl <;> exact ⟨_, rfl⟩
    · exact absurd offered List.not_mem_nil
  have found := (perform_agrees tried).2.2.1 described
  have listed : r.listed = ["echo", "log_message", "math_operation"] := by decide
  refine ⟨described, listed, (found _).mpr ?_, fun finds => ?_⟩
  · rw [listed]
    decide
  · have member := (found _).mp finds
    rw [listed] at member
    revert member
    decide

/-- A handler whose place of origin cannot be told. -/
def rootless : Handler :=
  { Sample.echo with originFault? := some (.other .attribute "the handler comes from nowhere") }

/-- A call that fails when the description is put in order leaves its handler behind without being listed, and one that
fails when it is told where the handler comes from leaves it behind, too. -/
theorem register_leaves_handler :
    let blunt := empty.call (.register "x" Sample.echo (.int 5))
    let late := empty.call (.register "x" rootless (.str ""))
    blunt.1 = some (.fault (.other .attribute "'int' object has no attribute 'strip'")) ∧
      blunt.2.contains "x" = true ∧ blunt.2.listed = [] ∧ empty.contains "x" = false ∧
      late.1 = some (.fault (.other .attribute "the handler comes from nowhere")) ∧
      late.2.contains "x" = true ∧ late.2.listed = ["x"] := by
  refine ⟨by rfl, by decide, by decide, by decide, by rfl, by decide, by decide⟩

end Registry

end WorkflowEngine
