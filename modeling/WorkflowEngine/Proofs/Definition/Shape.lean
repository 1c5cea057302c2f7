import WorkflowEngine.Proofs.Definition.Proper

/-!
# The two shapes of a node

The label and the configuration of a node stand among its other fields, or in a part of their own.  Reading moves them
out of that part unless they stand among the other fields already, and from there on it looks fields up by their names
only.  So the shape of a node makes no difference to what is read, nor does the order of its fields.
-/

namespace WorkflowEngine

/-- The same stands under every name. -/
def SameFields (a b : Entries) : Prop :=
  ∀ name, Data.field? a name = Data.field? b name

/-- What stands under a name in a document with two parts stands in the first part or else in the second. -/
theorem Data.field?_append (a b : Entries) (name : String) :
    Data.field? (a ++ b) name = (Data.field? a name).or (Data.field? b name) := by
  unfold Data.field?
  rw [List.find?_append, Option.map_or]

/-- What stands under a name stands in the first entry or else in the others. -/
theorem Data.field?_cons (key value : Data) (rest : Entries) (name : String) :
    Data.field? ((key, value) :: rest) name = if key.str? == some name then some value else Data.field? rest name := by
  unfold Data.field?
  rw [List.find?_cons]
  split
  · rename_i hit
    rw [if_pos hit, Option.map_some]
  · rename_i other
    rw [if_neg (by simpa using other)]

namespace SameFields

variable {a b : Entries}

/-- The order of fields makes no difference where no name is given twice. -/
theorem of_perm (distinct : (a.filterMap fun e => e.1.str?).Nodup) (perm : a.Perm b) : SameFields a b := by
  intro name
  induction perm with
  | nil => rfl
  | cons e _ ih =>
      obtain ⟨key, value⟩ := e
      rw [Data.field?_cons, Data.field?_cons]
      split
      · rfl
      · refine ih (distinct.sublist ?_)
        exact (List.sublist_cons_self _ _).filterMap _
  | swap e f rest =>
      obtain ⟨key, value⟩ := e
      obtain ⟨other, held⟩ := f
      simp only [Data.field?_cons]
      by_cases first : key.str? = some name
      · by_cases second : other.str? = some name
        · simp [first, second] at distinct
        · simp [first, second]
      · simp [first]
  | trans first _ left right =>
      exact (left distinct).trans (right ((first.filterMap _).nodup_iff.mp distinct))

/-- Reading a field sees only what stands under its name. -/
theorem find? (same : SameFields a b) (ways : List String) : Reading.find? a ways = Reading.find? b ways := by
  unfold Reading.find?
  simp only [same _]

theorem required {α : Type} (same : SameFields a b) (s : Reading.Spelling) (name : String) (read : Data → Reading α) :
    Reading.required s a name read = Reading.required s b name read := by
  unfold Reading.required
  rw [same.find?]

theorem withDefault {α : Type} (same : SameFields a b) (s : Reading.Spelling) (name : String) (fallback : α)
    (read : Data → Reading α) :
    Reading.withDefault s a name fallback read = Reading.withDefault s b name fallback read := by
  unfold Reading.withDefault
  rw [same.find?]

end SameFields

namespace Node

/-! ## Fields behind flattening -/

/-- What is put where it is missing stands there unless something else did. -/
theorem field?_putIfMissing_self (entries : Entries) (key : String) (value : Data) :
    Data.field? (putIfMissing entries key value) key = (Data.field? entries key).or (some value) := by
  unfold putIfMissing
  cases found : Data.field? entries key with
  | some old => simp [found]
  | none => simp [field?_put_self]

/-- The entries of the part that holds the label and the configuration. -/
def heldIn (entries : Entries) : Option Entries :=
  (Data.field? entries "data").bind Data.dict?

/-- Flattening by the part that holds the label and the configuration. -/
theorem flatten_eq (entries : Entries) :
    flatten entries =
      let rest := entries.filter fun e => e.1.str? != some "data"
      match heldIn entries with
      | none => rest
      | some held =>
        let labelled := putIfMissing rest "label" ((Data.field? held "label").getD (.str ""))
        match Data.field? held "config" with
        | some config => putIfMissing labelled "config" config
        | none => labelled := by
  unfold flatten heldIn
  cases Data.field? entries "data" with
  | none => rfl
  | some d => cases d <;> rfl

theorem field?_flatten_data (entries : Entries) : Data.field? (flatten entries) "data" = none := by
  have gone : Data.field? (entries.filter fun e => e.1.str? != some "data") "data" = none := by
    unfold Data.field?
    rw [Option.map_eq_none_iff, List.find?_eq_none]
    intro e member
    simpa using (List.mem_filter.mp member).2
  rw [flatten_eq]
  cases heldIn entries with
  | none => exact gone
  | some held =>
      dsimp only
      split
      · rw [field?_putIfMissing (by decide), field?_putIfMissing (by decide), gone]
      · rw [field?_putIfMissing (by decide), gone]

/-- The label stands among the other fields, or else in the part that holds it, where a missing one is empty. -/
theorem field?_flatten_label (entries : Entries) :
    Data.field? (flatten entries) "label" =
      (Data.field? entries "label").or ((heldIn entries).map fun held => (Data.field? held "label").getD (.str "")) := by
  rw [flatten_eq]
  cases heldIn entries with
  | none => simp [field?_rest]
  | some held =>
      dsimp only
      split
      · rw [field?_putIfMissing (by decide), field?_putIfMissing_self, field?_rest (by decide), Option.map_some]
      · rw [field?_putIfMissing_self, field?_rest (by decide), Option.map_some]

/-- The configuration stands among the other fields, or else in the part that holds it. -/
theorem field?_flatten_config (entries : Entries) :
    Data.field? (flatten entries) "config" =
      (Data.field? entries "config").or ((heldIn entries).bind fun held => Data.field? held "config") := by
  rw [flatten_eq]
  cases heldIn entries with
  | none => simp [field?_rest]
  | some held =>
      dsimp only [Option.bind_some]
      cases Data.field? held "config" with
      | some config => rw [field?_putIfMissing_self, field?_putIfMissing (by decide), field?_rest (by decide)]
      | none => rw [field?_putIfMissing (by decide), field?_rest (by decide), Option.or_none]

/-- Flattened nodes have the same fields if they have the same label, configuration and other fields. -/
theorem sameFields_flatten {a b : Entries} (label : Data.field? (flatten a) "label" = Data.field? (flatten b) "label")
    (config : Data.field? (flatten a) "config" = Data.field? (flatten b) "config")
    (others : ∀ name, name ≠ "data" → name ≠ "label" → name ≠ "config" → Data.field? a name = Data.field? b name) :
    SameFields (flatten a) (flatten b) := by
  intro name
  by_cases data : name = "data"
  · rw [data, field?_flatten_data, field?_flatten_data]
  by_cases isLabel : name = "label"
  · rw [isLabel, label]
  by_cases isConfig : name = "config"
  · rw [isConfig, config]
  have stays (entries : Entries) := field?_flatten data (Ne.symm isLabel) (Ne.symm isConfig) entries
  rw [stays, stays]
  exact others name data isLabel isConfig

end Node

namespace SameFields

variable {a b : Entries}

open Node

/-- Flattening sees only what stands under each name. -/
theorem flatten (same : SameFields a b) : SameFields (Node.flatten a) (Node.flatten b) := by
  have held : heldIn a = heldIn b := congrArg (·.bind Data.dict?) (same "data")
  refine sameFields_flatten ?_ ?_ fun name _ _ _ => same name
  · rw [field?_flatten_label, field?_flatten_label, same, held]
  · rw [field?_flatten_config, field?_flatten_config, same, held]

theorem put (same : SameFields a b) (key : String) (value : Data) :
    SameFields (Node.put a key value) (Node.put b key value) := by
  intro name
  by_cases hit : key = name
  · rw [← hit, field?_put_self, field?_put_self]
  · rw [field?_put hit, field?_put hit, same]

/-- Putting the configuration right sees only what stands under each name: it fails for both, or both still have the
same fields. -/
theorem tagConfig (same : SameFields a b) :
    (∃ f, Node.tagConfig a = .error f ∧ Node.tagConfig b = .error f) ∨
      ∃ left right, Node.tagConfig a = .ok left ∧ Node.tagConfig b = .ok right ∧ SameFields left right := by
  unfold Node.tagConfig
  dsimp only
  rw [same "type", same "config"]
  cases typeFault? ((Data.field? b "type").getD .null) with
  | some k => exact .inl ⟨_, rfl, rfl⟩
  | none =>
      refine .inr ?_
      dsimp only
      split
      · exact ⟨_, _, rfl, rfl, same.put "config" .null⟩
      · split
        · split
          · exact ⟨_, _, rfl, rfl, same⟩
          · exact ⟨_, _, rfl, rfl, same.put "config" _⟩
        · exact ⟨_, _, rfl, rfl, same⟩

/-- A node is read from its parts by what stands under each name. -/
theorem ofEntries (same : SameFields a b) : Node.ofEntries a = Node.ofEntries b := by
  unfold Node.ofEntries
  rw [same.required, same.required, same.withDefault, same.withDefault]

/-- Flattened nodes with the same fields are read alike. -/
theorem read_of_flatten (same : SameFields (Node.flatten a) (Node.flatten b)) :
    Node.read (.dict a) = Node.read (.dict b) := by
  unfold Node.read Reading.record
  dsimp only
  rcases same.tagConfig with ⟨f, first, second⟩ | ⟨left, right, first, second, kept⟩
  · rw [first, second]
  · rw [first, second]
    exact kept.ofEntries

/-- Nodes with the same fields are read alike, whatever the order of the fields. -/
theorem read (same : SameFields a b) : Node.read (.dict a) = Node.read (.dict b) :=
  read_of_flatten same.flatten

end SameFields

/-! ## The two shapes -/

namespace Node

/-- The fields for a label and a configuration, where there are any. -/
def captions (label? config? : Option Data) : Entries :=
  (label?.map fun label => (.str "label", label)).toList ++ (config?.map fun config => (.str "config", config)).toList

/-- A node with a label and a configuration among its other fields. -/
def flatShape (entries : Entries) (label config : Data) : Entries :=
  entries ++ captions (some label) (some config)

/-- A node with a label and a configuration in a part of their own. -/
def editorShape (entries : Entries) (label config : Data) : Entries :=
  entries ++ [(.str "data", .dict (captions (some label) (some config)))]

/-- A node with a part of its own, and next to it what else there is of a label and a configuration. -/
def bothShapes (entries : Entries) (part : Data) (label? config? : Option Data) : Entries :=
  entries ++ (.str "data", part) :: captions label? config?

/-- Neither a label, nor a configuration, nor a part of their own stands among the fields. -/
structure IsUncaptioned (entries : Entries) : Prop where
  data : Data.field? entries "data" = none
  label : Data.field? entries "label" = none
  config : Data.field? entries "config" = none

/-- The label that a part of its own gives: an empty one if it is a dictionary without a label. -/
def labelIn (part : Data) : Option Data :=
  part.dict?.map fun held => (Data.field? held "label").getD (.str "")

/-- The configuration that a part of its own gives. -/
def configIn (part : Data) : Option Data :=
  part.dict?.bind fun held => Data.field? held "config"

@[simp] theorem field?_captions_label (label? config? : Option Data) :
    Data.field? (captions label? config?) "label" = label? := by
  cases label? <;> cases config? <;> rfl

@[simp] theorem field?_captions_config (label? config? : Option Data) :
    Data.field? (captions label? config?) "config" = config? := by
  cases label? <;> cases config? <;> rfl

theorem field?_captions {name : String} (label : name ≠ "label") (config : name ≠ "config")
    (label? config? : Option Data) : Data.field? (captions label? config?) name = none := by
  cases label? <;> cases config? <;> simp [captions, Data.field?, Data.str?, label.symm, config.symm]

variable {entries : Entries}

/-- A part of its own gives the label and the configuration that do not stand among the other fields.  Whatever does
stand there wins. -/
theorem read_bothShapes (free : IsUncaptioned entries) (part : Data) (label? config? : Option Data) :
    read (.dict (bothShapes entries part label? config?)) =
      read (.dict (entries ++ captions (label?.or (labelIn part)) (config?.or (configIn part)))) := by
  have held : heldIn (bothShapes entries part label? config?) = part.dict? := by
    simp [heldIn, bothShapes, Data.field?_append, free.data, Data.field?_cons, Data.str?]
  have none_held (l c : Option Data) : heldIn (entries ++ captions l c) = none := by
    simp [heldIn, Data.field?_append, free.data, field?_captions]
  refine SameFields.read_of_flatten (sameFields_flatten ?_ ?_ fun name data label config => ?_)
  · rw [field?_flatten_label, field?_flatten_label, held, none_held]
    simp [bothShapes, Data.field?_append, free.label, Data.field?_cons, Data.str?, labelIn]
  · rw [field?_flatten_config, field?_flatten_config, held, none_held]
    simp [bothShapes, Data.field?_append, free.config, Data.field?_cons, Data.str?, configIn]
  · simp [bothShapes, Data.field?_append, Data.field?_cons, Data.str?, data.symm, field?_captions label config]

/-- Reading a node gives a node or is refused unless its type cannot be looked up. -/
theorem read_cases (entries : Entries) :
    (∃ n, read (.dict entries) = .ok n) ∨ (∃ issues, read (.dict entries) = .refused issues) ∨
      ∃ k, (Data.field? entries "type").bind typeFault? = some k ∧ read (.dict entries) = .failed (.unhashable k) := by
  have faulty := fault?_read (.dict entries)
  cases given : read (.dict entries) with
  | ok n => exact .inl ⟨n, rfl⟩
  | refused issues => exact .inr (.inl ⟨issues, rfl⟩)
  | failed f =>
      rw [given] at faulty
      obtain ⟨k, looked, rfl⟩ := Option.map_eq_some_iff.mp faulty.symm
      exact .inr (.inr ⟨k, looked, rfl⟩)

/-- A node is read alike in both shapes, with its fields in any order: it gives the same node, or is refused for the
same issues, or ends in the same fault where its type cannot be looked up.  With both shapes at once, the label and
the configuration among the other fields win against any part of their own. -/
theorem read_shapes (free : IsUncaptioned entries) (label config part : Data) {editor flat both : Entries}
    (inEditor : SameFields editor (editorShape entries label config))
    (inFlat : SameFields flat (flatShape entries label config))
    (inBoth : SameFields both (bothShapes entries part (some label) (some config))) :
    read (.dict editor) = read (.dict flat) ∧ read (.dict both) = read (.dict flat) ∧
      ((∃ n, read (.dict flat) = .ok n) ∨ (∃ issues, read (.dict flat) = .refused issues) ∨
        ∃ k, (Data.field? entries "type").bind typeFault? = some k ∧ read (.dict flat) = .failed (.unhashable k)) := by
  have typed : Data.field? flat "type" = Data.field? entries "type" := by
    rw [inFlat, flatShape, Data.field?_append, field?_captions (by decide) (by decide), Option.or_none]
  refine ⟨?_, ?_, typed ▸ read_cases flat⟩
  · have alone : editorShape entries label config =
        bothShapes entries (.dict (captions (some label) (some config))) none none := rfl
    rw [inEditor.read, inFlat.read, alone, read_bothShapes free]
    simp [labelIn, configIn, Data.dict?, flatShape]
  · rw [inBoth.read, inFlat.read, read_bothShapes free]
    rfl

/-- The fields of a node that logs, without its label and its configuration. -/
def logging : Entries :=
  [(.str "id", .str "a"), (.str "type", .str "action")]

/-- A node that logs is read alike with its label and its configuration in a part of their own in front, among its
other fields, and among them next to a part that holds another label. -/
theorem read_shapes_logging :
    IsUncaptioned logging ∧
      read (.dict ((.str "data", .dict (captions (some (.str "Log")) (some (.dict [(.str "actionType", .str "log")]))))
        :: logging)) = .ok ⟨"a", "Log", .action ⟨"log", [], none⟩, none⟩ ∧
      read (.dict (bothShapes logging (.dict (captions (some (.str "Other")) none)) (some (.str "Log"))
        (some (.dict [(.str "actionType", .str "log")])))) = .ok ⟨"a", "Log", .action ⟨"log", [], none⟩, none⟩ := by
  have free : IsUncaptioned logging := ⟨rfl, rfl, rfl⟩
  obtain ⟨apart, both, -⟩ := read_shapes free (.str "Log") (.dict [(.str "actionType", .str "log")])
    (.dict (captions (some (.str "Other")) none))
    (SameFields.of_perm (by decide) (List.perm_append_singleton _ _).symm) (fun _ => rfl) (fun _ => rfl)
  have flat : read (.dict (flatShape logging (.str "Log") (.dict [(.str "actionType", .str "log")]))) =
      .ok ⟨"a", "Log", .action ⟨"log", [], none⟩, none⟩ := by rfl
  exact ⟨free, apart.trans flat, both.trans flat⟩

end Node

end WorkflowEngine
