import WorkflowEngine.Definition.Reader
import WorkflowEngine.Proofs.Reading.Telling

/-!
# Issues of definitions

Whatever is wrong with a definition can be told, if the document can be sent.  The issues of a node may quote its
id and the type of its configuration, which stand in the document.
-/

namespace WorkflowEngine

open Reading Text

/-- Trimming keeps a text whole. -/
theorem Text.isWhole_trim {s : String} (whole : IsWhole s) : IsWhole (Text.trim s) := by
  have dropBlanks {chars : List Char} (whole : AreWhole chars) : AreWhole (Text.dropBlanks chars) :=
    whole.mono (List.dropWhile_subset _)
  exact isWhole_ofList.mpr (areWhole_reverse.mpr (dropBlanks (areWhole_reverse.mpr (dropBlanks whole))))

/-! ## Parts -/

theorem tells_trimmed {complaint : String} (whole : IsWhole complaint) : Tells (trimmed complaint) := by
  intro d sendable
  refine (tells_text d sendable).check fun s _ => ?_
  split
  · exact isTellable_state whole
  · trivial

/-- What is trimmed of a document that can be sent is whole. -/
theorem isWhole_of_trimmed {complaint : String} {d : Data} {s : String} (sendable : d.IsSendable)
    (read : trimmed complaint d = .ok s) : IsWhole s := by
  obtain ⟨whole, here, kept⟩ := check_eq_ok read
  cases sendable with
  | str given =>
      cases here
      split at kept
      · cases kept
      · cases kept
        exact isWhole_trim given
  | _ => cases here

theorem tells_filled {complaint : String} (whole : IsWhole complaint) : Tells (filled complaint) := by
  intro d sendable
  refine (tells_text d sendable).check fun s _ => ?_
  split
  · exact isTellable_state whole
  · trivial

theorem tells_limit : Tells limit := by
  intro d sendable
  refine (tells_int.optional d sendable).check fun found _ => ?_
  split
  · split
    · exact isTellable_state (by decide)
    · trivial
  · trivial

theorem NodeKind.isWhole_name (k : NodeKind) : IsWhole k.name := by
  cases k <;> decide

section Entries

variable {entries : Entries} (sendable : (Data.dict entries).IsSendable)
include sendable

theorem isTellable_typeOf (k : NodeKind) : (typeOf entries k).IsTellable :=
  (tells_oneOf fun k _ => k.isWhole_name).withDefault sendable (by decide)

theorem ActionConfig.isTellable_ofEntries : (ActionConfig.ofEntries entries).IsTellable := by
  refine .seq (.seq (.seq (.map (isTellable_typeOf sendable _) _) ?_) ?_) ?_
  · exact tells_text.required sendable (by decide)
  · exact tells_any.dict.withDefault sendable (by decide)
  · exact tells_limit.withDefault sendable (by decide)

end Entries

theorem Condition.tells_read : Tells Condition.read := by
  refine tells_record (by decide) fun entries sendable => .seq (.seq (.seq (.map ?_ _) ?_) ?_) ?_
  · exact (tells_trimmed (by decide)).required sendable (by decide)
  · exact (tells_oneOf (by decide)).required sendable (by decide)
  · exact tells_any.withDefault sendable (by decide)
  · exact tells_bool.withDefault sendable (by decide)

section Configurations

variable {entries : Entries} (sendable : (Data.dict entries).IsSendable)
include sendable

theorem ConditionConfig.isTellable_ofEntries : (ConditionConfig.ofEntries entries).IsTellable := by
  refine .seq (.seq (.map (isTellable_typeOf sendable _) _) ?_) ?_
  · exact Condition.tells_read.list.withDefault sendable (by decide)
  · exact (tells_oneOf (by decide)).withDefault sendable (by decide)

theorem TransformConfig.isTellable_ofEntries : (TransformConfig.ofEntries entries).IsTellable := by
  refine .seq (.seq (.seq (.map (isTellable_typeOf sendable _) _) ?_) ?_) ?_
  · exact (tells_oneOf (by decide)).withDefault sendable (by decide)
  · exact (tells_filled (by decide)).required sendable (by decide)
  · exact tells_text.optional.withDefault sendable (by decide)

theorem DelayConfig.isTellable_ofEntries : (DelayConfig.ofEntries entries).IsTellable := by
  have nonNegative : Tells DelayConfig.nonNegative := by
    intro d given
    refine (tells_float d given).check fun x _ => ?_
    split
    · trivial
    · exact isTellable_refuse_plain rfl
  refine .seq (.seq (.map (isTellable_typeOf sendable _) _) ?_) ?_
  · exact nonNegative.required sendable (by decide)
  · exact (tells_oneOf (by decide)).withDefault sendable (by decide)

theorem ApiConfig.isTellable_ofEntries : (ApiConfig.ofEntries entries).IsTellable := by
  have method : Tells ApiConfig.readMethod := fun d _ => isTellable_oneOf (by decide) _
  have authentication : Tells Authentication.read := by
    refine tells_record (by decide) fun entries sendable => .seq (.map ?_ _) ?_
    · exact (tells_oneOf (by decide)).withDefault sendable (by decide)
    · exact tells_text.dict.withDefault sendable (by decide)
  refine .seq (.seq (.seq (.seq (.seq (.seq (.map (isTellable_typeOf sendable _) _) ?_) ?_) ?_) ?_) ?_) ?_
  · exact method.withDefault sendable (by decide)
  · exact (tells_trimmed (by decide)).required sendable (by decide)
  · exact tells_text.dict.optional.withDefault sendable (by decide)
  · exact tells_any.withDefault sendable (by decide)
  · exact authentication.optional.withDefault sendable (by decide)
  · exact tells_limit.withDefault sendable (by decide)

end Configurations

theorem Task.tells_read : Tells Task.read := by
  intro d sendable
  unfold Task.read
  split
  case h_2 => exact isTellable_refuse_plain rfl
  case h_1 entries =>
    have tag : ((Data.field? entries "type").getD .null).IsSendable := sendable.field?_getD .null
    dsimp only
    split
    case h_2 =>
      refine isTellable_refuse (List.forall_mem_cons.mpr ⟨tag.isWhole_text, ?_⟩)
      exact List.forall_mem_map.mpr fun k _ => k.isWhole_name
    case h_1 reading chosen =>
      refine IsTellable.inside ?_ (NodeKind.isWhole_name _)
      obtain ⟨k, -, configured⟩ := Option.bind_eq_some_iff.mp chosen
      cases k with
      | action => cases configured; exact (ActionConfig.isTellable_ofEntries sendable).map _
      | condition => cases configured; exact (ConditionConfig.isTellable_ofEntries sendable).map _
      | transform => cases configured; exact (TransformConfig.isTellable_ofEntries sendable).map _
      | delay => cases configured; exact (DelayConfig.isTellable_ofEntries sendable).map _
      | api => cases configured; exact (ApiConfig.isTellable_ofEntries sendable).map _
      | trigger => cases configured
      | ending => cases configured

theorem Edge.tells_read : Tells Edge.read := by
  have condition : Tells EdgeCondition.read := by
    refine tells_record (by decide) fun entries sendable => .seq (.map ?_ _) ?_
    · exact (tells_oneOf (by decide)).required sendable (by decide)
    · exact tells_text.optional.withDefault sendable (by decide)
  refine tells_record (by decide) fun entries sendable => .seq (.seq (.seq (.seq (.map ?_ _) ?_) ?_) ?_) ?_
  · exact tells_text.required sendable (by decide)
  · exact tells_text.required sendable (by decide)
  · exact tells_text.required sendable (by decide)
  · exact tells_text.optional.withDefault sendable (by decide)
  · exact condition.optional.withDefault sendable (by decide)

theorem ErrorHandling.tells_read : Tells ErrorHandling.read :=
  tells_record (by decide) fun _ sendable => (tells_member (by decide)).withDefault sendable (by decide)

/-! ## Nodes -/

namespace Node

section Entries

variable {entries : Entries} {key : String} {value : Data} (sendable : (Data.dict entries).IsSendable)
include sendable

/-- Putting what can be sent under a whole name keeps entries such. -/
theorem isSendable_put (whole : IsWhole key) (given : value.IsSendable) : (Data.dict (put entries key value)).IsSendable := by
  cases sendable with
  | dict keys values =>
      unfold put
      split
      · refine .dict (List.forall_mem_map.mpr fun e listed => ?_) (List.forall_mem_map.mpr fun e listed => ?_)
        · split <;> exact keys e listed
        · split
          · exact given
          · exact values e listed
      · exact Data.IsSendable.snoc (.dict keys values) whole given

theorem isSendable_putIfMissing (whole : IsWhole key) (given : value.IsSendable) :
    (Data.dict (putIfMissing entries key value)).IsSendable := by
  unfold putIfMissing
  split
  · exact sendable
  · exact isSendable_put sendable whole given

theorem isSendable_flatten : (Data.dict (flatten entries)).IsSendable := by
  have rest : (Data.dict (entries.filter fun e => e.1.str? != some "data")).IsSendable :=
    sendable.entries_mono List.filter_sublist.subset
  unfold flatten
  dsimp only
  split
  case h_2 => exact rest
  case h_1 held found =>
    have inner := sendable.field? found
    have label : ((Data.field? held "label").getD (.str "")).IsSendable := inner.field?_getD (.str (by decide))
    have labelled := isSendable_putIfMissing rest (by decide : IsWhole "label") label
    split
    · exact isSendable_putIfMissing labelled (by decide) (inner.field? ‹_›)
    · exact labelled

theorem isSendable_tagConfig {tagged : Entries} (done : tagConfig entries = .ok tagged) :
    (Data.dict tagged).IsSendable := by
  have type : ((Data.field? entries "type").getD .null).IsSendable := sendable.field?_getD .null
  unfold tagConfig at done
  dsimp only at done
  split at done
  case h_1 => cases done
  case h_2 =>
    split at done
    · cases done
      exact isSendable_put sendable (by decide) .null
    · split at done
      case h_2 => cases done; exact sendable
      case h_1 config found =>
        split at done
        · cases done
          exact sendable
        · cases done
          refine isSendable_put sendable (by decide) ?_
          exact (sendable.field? found).snoc (by decide) type

end Entries

/-- What does not fit in a node is told with its id, which is whole. -/
theorem isTellable_assemble {id : String} (whole : IsWhole id) (kind : NodeKind) (label : String)
    (config : Option Task) : (assemble id kind label config).IsTellable := by
  have named : IsWhole ("Node '" ++ id) := .append (by decide) whole
  unfold assemble
  split
  · trivial
  · trivial
  · cases config with
    | none => exact isTellable_state (((named.append (by decide)).append kind.isWhole_name).append (by decide))
    | some task =>
        dsimp only
        split
        · trivial
        · have typed := ((named.append (t := "' has type '") (by decide)).append kind.isWhole_name).append
            (t := "' but a '") (by decide)
          exact isTellable_state ((typed.append task.kind.isWhole_name).append (by decide))

theorem isTellable_ofEntries {entries : Entries} (sendable : (Data.dict entries).IsSendable) :
    (ofEntries entries).IsTellable := by
  unfold ofEntries
  dsimp only
  refine IsTellable.check ?_ fun parts read => ?_
  · refine .seq (.seq (.seq (.map ?_ _) ?_) ?_) ?_
    · exact (tells_trimmed (by decide)).required sendable (by decide)
    · exact (tells_member fun k _ => k.isWhole_name).required sendable (by decide)
    · exact tells_text.withDefault sendable (by decide)
    · exact Task.tells_read.optional.withDefault sendable (by decide)
  · obtain ⟨_, config, three, -, rfl⟩ := seq_eq_ok read
    obtain ⟨_, label, two, -, rfl⟩ := seq_eq_ok three
    obtain ⟨_, kind, one, -, rfl⟩ := seq_eq_ok two
    obtain ⟨id, named, rfl⟩ := map_eq_ok one
    obtain ⟨d, given, trimmed⟩ := required_eq_ok sendable named
    exact isTellable_assemble (isWhole_of_trimmed given trimmed) kind label config

theorem tells_read : Tells Node.read := by
  refine tells_record (by decide) fun entries sendable => ?_
  split
  case h_1 tagged done => exact isTellable_ofEntries (isSendable_tagConfig (isSendable_flatten sendable) done)
  case h_2 => trivial

end Node

/-- Whatever is wrong with the document of a workflow can be told. -/
theorem Workflow.tells_read : Tells Workflow.read := by
  have nodes : Tells readNodes := by
    intro d sendable
    refine (Node.tells_read.list d sendable).check fun nodes _ => ?_
    split
    · trivial
    · exact isTellable_state (by decide)
  refine tells_record (by decide) fun entries sendable => ?_
  refine .seq (.seq (.seq (.seq (.seq (.map ?_ _) ?_) ?_) ?_) ?_) ?_
  · exact tells_text.required sendable (by decide)
  · exact tells_int.withDefault sendable (by decide)
  · exact tells_text.withDefault sendable (by decide)
  · exact nodes.withDefault sendable (by decide)
  · exact Edge.tells_read.list.withDefault sendable (by decide)
  · exact ErrorHandling.tells_read.withDefault sendable (by decide)

end WorkflowEngine
