import WorkflowEngine.Proofs.Region.Task
import WorkflowEngine.Proofs.Relocation.Method

/-!
# Handlers that do not look at places

A handler is blind if it does not care where containers stand and how missing numbers are told apart: with moved
arguments it does the same at the new places.  This is what it means for a handler to depend on what its arguments show
alone.  The built-in handlers are blind, and so are the samples.
-/

namespace WorkflowEngine

open Relocation (Fixes)

variable {r : Relocation} {α β : Type} [Movable α] [Movable β]

/-- Desks whose heaps belong together, with the same lines in their journals. -/
structure Desk.Moves (r : Relocation) (d d' : Desk) : Prop where
  heap : d.heap.Moves r d'.heap
  journal : d'.journal = d.journal

/-- Interruptions that look alike. -/
inductive Interruption.Alike (r : Relocation) : Interruption → Interruption → Prop where
  | fault {f f' : Fault} (alike : f.Alike f') : Alike r (.fault f) (.fault f')
  | refusal (message : Data) : Alike r (.refusal message) (.refusal (r.move message))
  | timeout : Alike r .timeout .timeout
  | endless : Alike r .endless .endless

namespace Work

/-- A value and the moved one, or interruptions that look alike. -/
inductive Answers (r : Relocation) : Except Interruption α → Except Interruption α → Prop where
  | ok (v : α) : Answers r (.ok v) (.ok (r.move v))
  | error {i i' : Interruption} (alike : i.Alike r i') : Answers r (.error i) (.error i')

/-- From a heap and one that belongs to it, the second work comes to what the first one does, moved. -/
def FollowsFrom (r : Relocation) (h : Heap) (w w' : Work α) : Prop :=
  ∀ ⦃d d'⦄, d.heap = h → d.Moves r d' → Answers r (w.run d).1 (w'.run d').1 ∧ (w.run d).2.Moves r (w'.run d').2

/-- The second work follows from every heap. -/
def Follows (r : Relocation) (w w' : Work α) : Prop :=
  ∀ h, FollowsFrom r h w w'

theorem follows_pure {v v' : α} (moved : v' = r.move v) : Follows r (pure v) (pure v') :=
  fun _ _ _ _ moves => ⟨moved ▸ .ok v, moves⟩

theorem follows_throw {i i' : Interruption} (alike : i.Alike r i') : Follows r (throw i : Work α) (throw i') :=
  fun _ _ _ _ moves => ⟨.error alike, moves⟩

theorem follows_fail (f : Fault) : Follows r (fail f : Work α) (fail f) :=
  follows_throw (.fault ⟨rfl, rfl⟩)

theorem follows_onHeap {e e' : Eval α} (follows : Eval.Follows r e e') : Follows r (onHeap e) (onHeap e') := by
  rintro _ d d' - moves
  have begun : Machine.Moves r ⟨d.heap, 0⟩ ⟨d'.heap, 0⟩ := ⟨moves.heap, rfl⟩
  obtain ⟨answers, later⟩ := follows begun
  rw [run_onHeap, run_onHeap, Eval.run, Eval.run]
  rcases ran : e.exec ⟨d.heap, 0⟩ with ⟨outcome, m⟩
  rcases ran' : e'.exec ⟨d'.heap, 0⟩ with ⟨outcome', m'⟩
  rw [ran, ran'] at answers later
  cases answers with
  | ok v => exact ⟨.ok v, later.heap, moves.journal⟩
  | error alike => exact ⟨.error (.fault alike), later.heap, moves.journal⟩

theorem followsFrom_bind {h : Heap} {w w' : Work α} {k k' : α → Work β} (first : FollowsFrom r h w w')
    (rest : ∀ v, Follows r (k v) (k' (r.move v))) : FollowsFrom r h (w >>= k) (w' >>= k') := by
  intro d d' here moves
  obtain ⟨answers, later⟩ := first here moves
  rw [run_bind, run_bind]
  rcases ran : w.run d with ⟨outcome, t⟩
  rcases ran' : w'.run d' with ⟨outcome', t'⟩
  rw [ran, ran'] at answers later
  cases answers with
  | ok v => exact rest v _ rfl later
  | error alike => exact ⟨.error alike, later⟩

theorem follows_bind {w w' : Work α} {k k' : α → Work β} (first : Follows r w w')
    (rest : ∀ v, Follows r (k v) (k' (r.move v))) : Follows r (w >>= k) (w' >>= k') :=
  fun h => followsFrom_bind (first h) rest

/-- What follows a value that stays is given the same value. -/
theorem follows_bind_fixed [Fixes α] {w w' : Work α} {k k' : α → Work β} (first : Follows r w w')
    (rest : ∀ v, Follows r (k v) (k' v)) : Follows r (w >>= k) (w' >>= k') :=
  follows_bind first fun v => (r.move_fixed v).symm ▸ rest v

theorem follows_note (level : Level) (source message : String) :
    Follows r (note level source message) (note level source message) :=
  fun _ _ _ _ moves => ⟨.ok (), moves.heap, congrArg (Line.mk level source message :: ·) moves.journal⟩

end Work

/-- The handler judges parameters by their names alone, and with moved arguments that are free it does the same at the
new places. -/
structure Handler.IsBlind (handler : Handler) : Prop where
  complaint : ∀ (r : Relocation) (named : Named), handler.complaint? (r.move named) = handler.complaint? named
  work : ∀ {r : Relocation} {reserved : Address → Prop} {h : Heap} {input : Value} {named : Named}, h.Sound reserved →
    Held reserved h input → Held reserved h named →
      Work.FollowsFrom r h (handler.work input named) (handler.work (r.move input) (r.move named))

/-- All handlers are blind. -/
def Registry.IsBlind (r : Registry) : Prop :=
  ∀ entry ∈ r.entries, entry.2.handler.IsBlind

namespace Handler

theorem complaintOf?_move (routine : String) (parameters : List String) (isOpen : Bool) (named : Named) :
    complaintOf? routine parameters isOpen (r.move named) = complaintOf? routine parameters isOpen named := by
  unfold complaintOf?
  rw [r.move_list, List.findSome?_map]
  rfl

/-- A handler whose work follows with all moved arguments is blind. -/
theorem isBlind_of_follows {handler : Handler}
    (complaint : ∀ (r : Relocation) (named : Named), handler.complaint? (r.move named) = handler.complaint? named)
    (follows : ∀ (r : Relocation) (input : Value) (named : Named),
      Work.Follows r (handler.work input named) (handler.work (r.move input) (r.move named))) : handler.IsBlind where
  complaint := complaint
  work _ _ _ := follows _ _ _ _

end Handler

/-- A named parameter, or what stands in for it. -/
theorem parameter_move (fallback : Value) (named : Named) (name : String) (plain : r.move fallback = fallback) :
    ((r.move named).lookup name).getD fallback = r.move ((named.lookup name).getD fallback) := by
  rw [Relocation.lookup_move]
  cases named.lookup name with
  | none => exact plain.symm
  | some v => rfl

open Work

namespace Builtin

variable (input : Value) (named : Named)

theorem follows_lowerLevel (v : Value) : Work.Follows r (lowerLevel v) (lowerLevel (r.move v)) := by
  cases v with
  | str s => exact Work.follows_pure rfl
  | bytes bs => exact Work.follows_pure rfl
  | _ => exact Work.follows_fail _

theorem follows_logMessage : Work.Follows r (logMessage input named) (logMessage (r.move input) (r.move named)) := by
  have message := parameter_move (r := r) (.str "Default message") named "message" rfl
  have level := parameter_move (r := r) (.str "info") named "level" rfl
  have rest (name : String) (level : Level) (message : Value) : Work.Follows r
      (do
        note level source (← onHeap (Eval.text message))
        onHeap (Eval.newDict [(.str "message", message), (.str "level", .str name)]))
      (do
        note level source (← onHeap (Eval.text (r.move message)))
        onHeap (Eval.newDict [(.str "message", r.move message), (.str "level", .str name)])) := by
    refine Work.follows_bind_fixed (follows_onHeap (Eval.follows_text message)) fun text => ?_
    exact Work.follows_bind_fixed (follows_note _ _ _) fun _ => follows_onHeap (Eval.follows_newDict _)
  unfold logMessage
  rw [message, level]
  refine Work.follows_bind (follows_lowerLevel _) fun word => ?_
  have same : (if r.move word == .str "warn" then Value.str "warning" else r.move word) =
      r.move (if word == .str "warn" then Value.str "warning" else word) := by
    have warns : (r.move word == Value.str "warn") = (word == Value.str "warn") := r.beq_move word (.str "warn")
    rw [warns, r.move_ite]
    rfl
  rw [same]
  generalize (if word == .str "warn" then Value.str "warning" else word) = chosen
  generalize (named.lookup "message").getD (.str "Default message") = message
  dsimp only
  have unknown : Work.Follows r
      (do
        note .warning source ("Unknown log level: " ++ (← onHeap (Eval.text chosen)) ++ ", defaulting to info")
        let (name, level) ← pure ("info", Level.info)
        note level source (← onHeap (Eval.text message))
        onHeap (Eval.newDict [(.str "message", message), (.str "level", .str name)]))
      (do
        note .warning source ("Unknown log level: " ++ (← onHeap (Eval.text (r.move chosen))) ++ ", defaulting to info")
        let (name, level) ← pure ("info", Level.info)
        note level source (← onHeap (Eval.text (r.move message)))
        onHeap (Eval.newDict [(.str "message", r.move message), (.str "level", .str name)])) := by
    refine Work.follows_bind_fixed (follows_onHeap (Eval.follows_text chosen)) fun _ => ?_
    refine Work.follows_bind_fixed (follows_note _ _ _) fun _ => ?_
    rw [pure_bind, pure_bind]
    exact rest _ _ message
  cases chosen with
  | str s =>
      rw [r.move_str]
      dsimp only
      cases levels.find? fun entry => entry.1 == s with
      | some known =>
          dsimp only
          rw [pure_bind, pure_bind]
          exact rest _ _ message
      | none => exact unknown
  | _ => exact unknown

theorem follows_sortedKeys (entries : List (Value × Value)) :
    Eval.Follows r (sortedKeys entries) (sortedKeys (r.move entries)) := by
  have views (entries : List (Value × Value)) : Eval.Follows r (entries.mapM fun entry => Eval.view entry.1)
      ((r.move entries).mapM fun entry => Eval.view entry.1) := by
    induction entries with
    | nil => exact Eval.follows_pure rfl
    | cons entry rest ih =>
        rw [r.move_cons, List.mapM_cons, List.mapM_cons]
        refine Eval.follows_bind (Eval.follows_view entry.1) fun d => Eval.follows_bind ih fun ds => ?_
        exact Eval.follows_pure rfl
  have ordered (keys : List Data) : Sorting.sort (Data.compareBy .less) (r.move keys) =
      r.move (Sorting.sort (Data.compareBy .less) keys) := by
    rw [r.move_list, Sorting.sort_map fun x y => Data.compareBy_move r .less x y]
    cases Sorting.sort (Data.compareBy .less) keys <;> rfl
  unfold sortedKeys
  refine Eval.follows_bind (views entries) fun keys => Eval.follows_bind (Eval.follows_lift (ordered keys)) fun out => ?_
  rw [← r.move_data_list, Data.source?_move]
  exact Eval.follows_lift_fixed _

theorem follows_baseEntries : Eval.Follows r (baseEntries input) (baseEntries (r.move input)) := by
  cases input with
  | dict a => exact Eval.follows_entries a
  | _ => exact Eval.follows_pure rfl

theorem follows_setFields : Work.Follows r (setFields input named) (setFields (r.move input) (r.move named)) := by
  unfold setFields
  rw [parameter_move (r := r) .null named "fields" rfl]
  generalize (named.lookup "fields").getD .null = fields
  refine Work.follows_bind (follows_onHeap (follows_baseEntries input)) fun base => ?_
  refine Work.follows_bind (w := onHeap do if ← Eval.isTrue fields then Conversion.extend base fields else pure base)
    (follows_onHeap ?_) fun entries => ?_
  · refine Eval.follows_bind_fixed (Eval.follows_isTrue fields) fun holds => ?_
    split
    · exact Conversion.follows_extend fields base
    · exact Eval.follows_pure rfl
  · refine Work.follows_bind_fixed (follows_onHeap (follows_sortedKeys entries)) fun keys => ?_
    exact Work.follows_bind_fixed (follows_note _ _ _) fun _ => follows_onHeap (Eval.follows_newDict entries)

theorem follows_fieldOf (field : Value) : Eval.Follows r (fieldOf input field) (fieldOf (r.move input) (r.move field)) := by
  cases input with
  | dict a =>
      refine Eval.follows_bind_fixed (Eval.follows_requireKey field) fun _ => Eval.follows_heap fun h h' moves => ?_
      refine Eval.follows_bind (Eval.follows_entries a) fun entries => Eval.follows_pure ?_
      rw [moves.lookup]
      exact Relocation.getD_move (h.lookup entries field) (.int 0)
  | _ => exact Eval.follows_pure rfl

theorem isNumeric_move (v : Value) : isNumeric (r.move v) = isNumeric v := by
  cases v <;> rfl

theorem operation?_move (name : Value) : operation? (r.move name) = operation? name := by
  cases name <;> rfl

theorem follows_operation {name : Value} {apply : Value → Value → Eval Value} (known : operation? name = some apply)
    (a b : Value) : Eval.Follows r (apply a b) (apply (r.move a) (r.move b)) := by
  unfold operation? at known
  split at known <;> cases known
  · exact Value.follows_add a b
  · exact Value.follows_subtract a b
  · exact Value.follows_multiply a b
  · exact Value.follows_divide a b

theorem follows_mathOperation :
    Work.Follows r (mathOperation input named) (mathOperation (r.move input) (r.move named)) := by
  unfold mathOperation
  rw [parameter_move (r := r) (.str "add") named "operation" rfl,
    parameter_move (r := r) (.str "value") named "field" rfl,
    parameter_move (r := r) (.float 1.0) named "operand" rfl]
  generalize (named.lookup "operation").getD (.str "add") = operation
  generalize (named.lookup "field").getD (.str "value") = field
  generalize (named.lookup "operand").getD (.float 1.0) = operand
  refine Work.follows_bind (follows_onHeap (follows_fieldOf input field)) fun current => ?_
  rw [isNumeric_move, operation?_move]
  split
  · refine Work.follows_bind_fixed (follows_onHeap (Eval.follows_text field)) fun _ => ?_
    exact Work.follows_bind_fixed (follows_onHeap (Eval.follows_source current)) fun _ => Work.follows_fail _
  · cases known : operation? operation with
    | none => exact Work.follows_bind_fixed (follows_onHeap (Eval.follows_text operation)) fun _ => Work.follows_fail _
    | some apply =>
        have divides : (r.move operation == Value.str "divide") = (operation == Value.str "divide") :=
          r.beq_move operation (.str "divide")
        have rest : Work.Follows r
            (do
              let result ← onHeap (apply current operand)
              let shown ← onHeap do
                return "math_operation " ++ (← Eval.text operation) ++ "(" ++ (← Eval.text current) ++ ", " ++
                  (← Eval.text operand) ++ ") = " ++ (← Eval.text result)
              note .debug source shown
              onHeap (Eval.newDict [(.str "result", result), (.str "operation", operation), (.str "operand", operand)]))
            (do
              let result ← onHeap (apply (r.move current) (r.move operand))
              let shown ← onHeap do
                return "math_operation " ++ (← Eval.text (r.move operation)) ++ "(" ++ (← Eval.text (r.move current)) ++ ", " ++
                  (← Eval.text (r.move operand)) ++ ") = " ++ (← Eval.text result)
              note .debug source shown
              onHeap (Eval.newDict
                [(.str "result", result), (.str "operation", r.move operation), (.str "operand", r.move operand)])) := by
          refine Work.follows_bind (follows_onHeap (follows_operation known current operand)) fun result => ?_
          refine Work.follows_bind_fixed (follows_onHeap ?_) fun shown => ?_
          · refine Eval.follows_bind_fixed (Eval.follows_text operation) fun _ => ?_
            refine Eval.follows_bind_fixed (Eval.follows_text current) fun _ => ?_
            refine Eval.follows_bind_fixed (Eval.follows_text operand) fun _ => ?_
            exact Eval.follows_bind_fixed (Eval.follows_text result) fun _ => Eval.follows_pure rfl
          · exact Work.follows_bind_fixed (follows_note _ _ _) fun _ => follows_onHeap (Eval.follows_newDict _)
        dsimp only
        rw [divides]
        refine Work.follows_bind_fixed (follows_onHeap (Eval.follows_equals operand (.int 0))) fun zero => ?_
        split
        · exact Work.follows_bind_fixed (follows_note _ _ _) fun _ => Work.follows_fail _
        · exact rest

/-- The built-in handlers are blind. -/
theorem all_blind : ∀ entry ∈ all, entry.1.IsBlind := by
  simp only [all, List.forall_mem_cons]
  refine ⟨?_, ?_, ?_, fun _ listed => absurd listed List.not_mem_nil⟩
  · exact Handler.isBlind_of_follows (fun _ => Handler.complaintOf?_move _ _ _) fun _ => follows_logMessage
  · exact Handler.isBlind_of_follows (fun _ => Handler.complaintOf?_move _ _ _) fun _ => follows_setFields
  · exact Handler.isBlind_of_follows (fun _ => Handler.complaintOf?_move _ _ _) fun _ => follows_mathOperation

end Builtin

namespace Sample

variable (input : Value) (named : Named)

theorem follows_receipt (name : String) : Work.Follows r (receipt name input named) (receipt name (r.move input) (r.move named)) := by
  refine follows_onHeap ?_
  rw [Conversion.map_named_move]
  exact Eval.follows_bind (Eval.follows_newDict _) fun parameters => Eval.follows_newDict _

theorem follows_setItem (name : String) (v : Value) :
    Eval.Follows r (setItem input name v) (setItem (r.move input) name (r.move v)) := by
  cases input with
  | dict a =>
      refine Eval.follows_heap fun h h' moves => Eval.follows_bind (Eval.follows_entries a) fun entries => ?_
      have changed : h'.setEntry (r.move entries) (.str name) (r.move v) = r.move (h.setEntry entries (.str name) v) :=
        moves.setEntry entries (.str name) v
      rw [changed]
      exact Eval.follows_write a (.dict _)
  | _ => exact Eval.follows_fail _

theorem mutating_blind : mutating.IsBlind := by
  refine Handler.isBlind_of_follows (fun _ => Handler.complaintOf?_move _ _ _) fun r input named => ?_
  refine Work.follows_bind_fixed (follows_onHeap (follows_setItem input _ (.bool true))) fun _ => ?_
  exact Work.follows_pure rfl

theorem others_move (parameters : List String) : Handler.others parameters (r.move named) = r.move (Handler.others parameters named) :=
  Relocation.move_filter (p := fun entry : String × Value => !parameters.contains entry.1) (fun _ => rfl) named

theorem partialEcho_blind : partialEcho.IsBlind := by
  refine Handler.isBlind_of_follows (fun _ => Handler.complaintOf?_move _ _ _) fun r input named => ?_
  have fixed := parameter_move (r := r) (.int 1) named "fixed" rfl
  change Work.Follows r (receipt "received" input (("fixed", (named.lookup "fixed").getD (.int 1)) :: Handler.others ["fixed"] named))
    (receipt "received" (r.move input) (("fixed", ((r.move named).lookup "fixed").getD (.int 1)) :: Handler.others ["fixed"] (r.move named)))
  rw [fixed, others_move]
  exact follows_receipt input (("fixed", _) :: Handler.others ["fixed"] named) "received"

theorem length_blind : length.IsBlind := by
  refine Handler.isBlind_of_follows (fun r named => ?_) fun r input named => ?_
  · change (if (r.move named).isEmpty then none else _) = if named.isEmpty then none else _
    rw [r.isEmpty_move]
  · have counted : Eval.Follows r (do return Value.int (← Eval.length input))
        (do return Value.int (← Eval.length (r.move input))) :=
      Eval.follows_bind_fixed (Eval.follows_length input) fun _ => Eval.follows_pure rfl
    unfold length sample Handler.ofBody
    dsimp only
    exact follows_onHeap counted

/-- The sample handlers are blind, whatever else they do. -/
theorem all_blind : ∀ handler ∈ all, handler.IsBlind := by
  simp only [all, List.forall_mem_cons]
  refine ⟨?echo, ?asyncEcho, ?failing, ?keyError, mutating_blind, ?dispatchError, ?timeoutError, ?noParameters, ?hang,
    ?returnsAwaitable, ?asyncCallable, partialEcho_blind, length_blind, ?intType, ?uncallable, ?none,
    fun _ listed => absurd listed List.not_mem_nil⟩
  all_goals refine Handler.isBlind_of_follows (fun _ => Handler.complaintOf?_move _ _ _) fun r input named => ?_
  case echo => exact follows_receipt input named _
  case asyncEcho => exact follows_receipt input named _
  case failing =>
    change Work.Follows r (do
        let message ← onHeap (Eval.text ((named.lookup "message").getD (.str "kaboom")))
        fail (.other .runtime message)) (do
        let message ← onHeap (Eval.text (((r.move named).lookup "message").getD (.str "kaboom")))
        fail (.other .runtime message))
    rw [parameter_move (r := r) (.str "kaboom") named "message" rfl]
    exact Work.follows_bind_fixed (follows_onHeap (Eval.follows_text _)) fun _ => Work.follows_fail _
  case keyError =>
    change Work.Follows r (do
        let key ← onHeap (Eval.view ((named.lookup "key").getD (.str "missing")))
        fail (.missingKey key)) (do
        let key ← onHeap (Eval.view (((r.move named).lookup "key").getD (.str "missing")))
        fail (.missingKey key))
    rw [parameter_move (r := r) (.str "missing") named "key" rfl]
    refine Work.follows_bind (follows_onHeap (Eval.follows_view _)) fun key => Work.follows_throw (.fault ⟨rfl, ?_⟩)
    exact Data.source_move r key
  case dispatchError =>
    change Work.Follows r (do
        let message ← onHeap (Eval.view ((named.lookup "message").getD (.str "custom")))
        throw (.refusal message)) (do
        let message ← onHeap (Eval.view (((r.move named).lookup "message").getD (.str "custom")))
        throw (.refusal message))
    rw [parameter_move (r := r) (.str "custom") named "message" rfl]
    exact Work.follows_bind (follows_onHeap (Eval.follows_view _)) fun message => Work.follows_throw (.refusal message)
  case timeoutError => exact Work.follows_throw .timeout
  case noParameters => exact Work.follows_fail _
  case hang => exact Work.follows_throw .endless
  case returnsAwaitable => exact follows_receipt input named _
  case asyncCallable =>
    change Work.Follows r (onHeap (Value.multiply input ((named.lookup "factor").getD (.int 2))))
      (onHeap (Value.multiply (r.move input) (((r.move named).lookup "factor").getD (.int 2))))
    rw [parameter_move (r := r) (.int 2) named "factor" rfl]
    exact follows_onHeap (Value.follows_multiply input _)
  case intType => exact Work.follows_pure rfl
  case uncallable => exact Work.follows_pure rfl
  case none => exact Work.follows_pure rfl

/-- So are those of every registry that is made of samples and built-in handlers. -/
theorem registryOf_blind (names : List String) : (registryOf names).IsBlind :=
  forall_registryOf all_blind Builtin.all_blind names

end Sample

/-- Failures of a dispatch that look alike. -/
inductive DispatchFailure.Alike (r : Relocation) : DispatchFailure → DispatchFailure → Prop where
  | refused (message : Data) (actionType : Option String) :
      Alike r (.refused ⟨message, actionType⟩) (.refused ⟨r.move message, actionType⟩)
  | fault {f f' : Fault} (alike : f.Alike f') : Alike r (.fault f) (.fault f')

namespace Registry

/-- What a dispatch comes to, and what the same with moved arguments does. -/
inductive Answers (r : Relocation) : Except DispatchFailure Value → Except DispatchFailure Value → Prop where
  | ok (v : Value) : Answers r (.ok v) (.ok (r.move v))
  | error {e e' : DispatchFailure} (alike : e.Alike r e') : Answers r (.error e) (.error e')

variable {reserved : Address → Prop} {h h' : Heap} {registry : Registry} {handler : Handler} {input parameters : Value}

theorem alike_failureOf (name : String) (wait : Option Number) {i i' : Interruption} (alike : i.Alike r i') :
    (failureOf name wait i).Alike r (failureOf name wait i') := by
  cases alike with
  | @fault f f' alike =>
      change (refuse name ("Action '" ++ name ++ "' failed: " ++ f.message)).Alike r
        (refuse name ("Action '" ++ name ++ "' failed: " ++ f'.message))
      rw [alike.2]
      exact .refused (.str _) _
  | refusal message => exact .refused message none
  | timeout => exact .refused (.str _) _
  | endless => exact .refused (.str _) _

theorem follows_parameterEntries (parameters : Value) :
    Eval.Follows r (parameterEntries parameters) (parameterEntries (r.move parameters)) := by
  refine Eval.follows_bind_fixed (Eval.follows_isTrue parameters) fun holds => ?_
  split
  · exact Conversion.follows_extend parameters []
  · exact Eval.follows_pure rfl

theorem namedOf_move (done : Named) (entries : List (Value × Value)) :
    namedOf (r.move done) (r.move entries) = r.move (namedOf done entries) := by
  induction entries generalizing done with
  | nil => exact congrArg Except.ok (r.move_reverse done).symm
  | cons entry rest ih =>
      obtain ⟨key, value⟩ := entry
      cases key with
      | str name => exact ih ((name, value) :: done)
      | _ => rfl

theorem followsFrom_attend (blind : handler.IsBlind) (sound : h.Sound reserved) (heldInput : Held reserved h input)
    {entries : List (Value × Value)} (held : Held reserved h entries) (wait : Option Number) :
    Work.FollowsFrom r h (attend handler input entries wait) (attend handler (r.move input) (r.move entries) wait) := by
  unfold attend
  rw [show namedOf [] (r.move entries) = r.move (namedOf [] entries) from namedOf_move [] entries]
  cases read : namedOf [] entries with
  | error f => exact Work.follows_fail f h
  | ok named =>
      rw [r.move_ok]
      dsimp only
      rw [Handler.call, Handler.call, blind.complaint]
      split
      · split
        · exact Work.follows_fail _ h
        · exact Work.follows_throw .timeout h
      · cases handler.complaint? named with
        | some f => exact Work.follows_fail f h
        | none => exact blind.work sound heldInput (held_namedOf Held.nil held read)

/-- A dispatch with moved arguments to blind handlers comes to what the dispatch does, moved. -/
theorem answers_dispatch (blind : registry.IsBlind) (name : String) (sound : h.Sound reserved)
    (heldInput : Held reserved h input) (offers : Offers reserved h parameters) (wait : Option Number)
    (journal : List Line) (moves : h.Moves r h') :
    Answers r (registry.dispatch name input parameters wait ⟨h, journal⟩).1
        (registry.dispatch name (r.move input) (r.move parameters) wait ⟨h', journal⟩).1 ∧
      (registry.dispatch name input parameters wait ⟨h, journal⟩).2.Moves r
        (registry.dispatch name (r.move input) (r.move parameters) wait ⟨h', journal⟩).2 := by
  unfold dispatch
  cases found : registry.get name with
  | error e => exact ⟨.error (.refused (.str _) _), moves, rfl⟩
  | ok handler =>
      obtain ⟨entry, listed, rfl⟩ := mem_of_get found
      have start : Desk.Moves r ⟨h, journal⟩ ⟨h', journal⟩ := ⟨moves, rfl⟩
      obtain ⟨answers, later⟩ := Work.follows_onHeap (follows_parameterEntries parameters) h rfl start
      obtain ⟨same, held⟩ := onHeap_of_reads (reads_parameterEntries offers) sound journal
      dsimp only
      rcases ran : (onHeap (parameterEntries parameters)).run ⟨h, journal⟩ with ⟨outcome, d⟩
      rcases ran' : (onHeap (parameterEntries (r.move parameters))).run ⟨h', journal⟩ with ⟨outcome', d'⟩
      rw [ran, ran'] at answers later
      rw [ran] at same held
      cases answers with
      | error alike =>
          cases alike with
          | fault alike => exact ⟨.error (.fault alike), later⟩
          | refusal message => exact ⟨.error (alike_failureOf _ _ (.refusal message)), later⟩
          | timeout => exact ⟨.error (alike_failureOf _ _ .timeout), later⟩
          | endless => exact ⟨.error (alike_failureOf _ _ .endless), later⟩
      | ok entries =>
          obtain ⟨answers, last⟩ := followsFrom_attend (blind entry listed) sound heldInput (held entries rfl) wait same later
          dsimp only
          rcases attended : (attend entry.2.handler input entries wait).run d with ⟨outcome, t⟩
          rcases attended' : (attend entry.2.handler (r.move input) (r.move entries) wait).run d' with ⟨outcome', t'⟩
          rw [attended, attended'] at answers last
          cases answers with
          | ok v => exact ⟨.ok v, last⟩
          | error alike => exact ⟨.error (alike_failureOf _ _ alike), last⟩

end Registry

end WorkflowEngine
