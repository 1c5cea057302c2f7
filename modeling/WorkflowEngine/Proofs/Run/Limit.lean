import WorkflowEngine.Proofs.Run.Policy
import WorkflowEngine.Proofs.Run.Ready

/-!
# Runs with different limits

The limit on the number of visits has no bearing on a run until it is reached.  Of two runs that differ in the limit
only, the one with the smaller limit is the same as the other one if that takes no more visits, and otherwise it takes
the same visits up to the limit and then fails, at no node.
-/

namespace WorkflowEngine

/-- The run has failed because it came to more nodes than the limit allows. -/
structure Run.HasExceeded (r : Run) (limit : Int) : Prop where
  failed : r.status = .failed
  error : ∃ now, r.error = some ⟨.run, "Node execution limit of " ++ Decimal.intText limit ++ " exceeded", now, none⟩

/-- Of two walks that set out behind the same visits, how the one with the smaller limit relates to the other one:
it is the same if the other one takes no more visits, and otherwise it is cut at the limit.  Only a walk that has
taken as many visits as it may is cut. -/
structure CutAt (before : List Visit) (small large : Nat) (short long : Ending RunFailure × Scene) : Prop where
  visits : ∃ new, long.2.visits.reverse = before.reverse ++ new ∧ new.length ≤ large ∧
    (long.1 = .exceeded → large ≤ new.length) ∧ (new.length ≤ small → short = long) ∧
    (small < new.length → short.1 = .exceeded ∧ short.2.visits.reverse = before.reverse ++ new.take small)

namespace CutAt

variable {before : List Visit} {v : Visit} {small large : Nat} {short long ended : Ending RunFailure × Scene}

/-- Without further visits both walks end alike. -/
theorem refl (same : ended.2.visits = before) (used : ended.1 = .exceeded → large = 0) : CutAt before small large ended ended :=
  ⟨[], by rw [same, List.append_nil], Nat.zero_le _, fun cut => Nat.le_of_eq (used cut), fun _ => rfl,
    fun more => absurd more (Nat.not_lt_zero _)⟩

/-- Behind a visit the walks go on with one visit less. -/
theorem cons (rest : CutAt (v :: before) small large short long) : CutAt before (small + 1) (large + 1) short long := by
  obtain ⟨new, whole, length, used, same, cut⟩ := rest
  rw [List.reverse_cons, List.append_assoc] at whole cut
  refine ⟨v :: new, whole, Nat.succ_le_succ length, fun exceeded => Nat.succ_le_succ (used exceeded),
    fun fits => same (Nat.le_of_succ_le_succ fits), fun more => ?_⟩
  exact cut (Nat.lt_of_succ_lt_succ more)

/-- A walk that may take no visit is cut before the first one of the other walk. -/
theorem first {s : Scene} (rest : CutAt (v :: s.visits) small large short long) :
    CutAt s.visits 0 (large + 1) (.exceeded, s) long := by
  obtain ⟨new, whole, length, used, -, -⟩ := rest
  rw [List.reverse_cons, List.append_assoc] at whole
  refine ⟨v :: new, whole, Nat.succ_le_succ length, fun exceeded => Nat.succ_le_succ (used exceeded),
    fun none => absurd none (Nat.not_succ_le_zero _), fun _ => ⟨rfl, ?_⟩⟩
  rw [List.take_zero, List.append_nil]

end CutAt

namespace Order

variable {o : Order} {parameters : List (String × Value)} {pending : List (String × Value)} {s : Scene}

/-- The same run with a limit on its visits. -/
def within (o : Order) (limit : Int) : Order :=
  { o with limit := limit }

/-- A run whose walk comes to more nodes than it may visit has exceeded its limit. -/
theorem hasExceeded_of_carryOut {t : Scene} (ended : o.carryOut s = (o.outcome .exceeded, t)) (pending : Run) :
    (o.conclude pending s).1.HasExceeded o.limit := by
  rw [conclude_of_carryOut ended]
  exact ⟨rfl, t.now, rfl⟩

/-- A walk with a smaller limit is cut at it, if there is one visit at each turn. -/
theorem Unfolds.cutAt {small large : Nat} {r : Ending RunFailure × Scene} (unfolds : o.Unfolds parameters large pending s r)
    (less : small ≤ large) :
    CutAt s.visits small large ((o.guide (o.task parameters)).walk small pending s) r := by
  induction unfolds generalizing small with
  | exhausted =>
      rw [Guide.walk_nil]
      exact .refl rfl nofun
  | missing absent =>
      rw [Guide.walk_missing (g := o.guide (o.task parameters)) absent]
      exact .refl rfl nofun
  | exceeded found =>
      obtain rfl : small = 0 := Nat.le_zero.mp less
      rw [Guide.walk_exceeded (g := o.guide (o.task parameters)) found]
      exact .refl rfl fun _ => rfl
  | completed found visited given left named status names later ih =>
      rw [left] at ih
      cases small with
      | zero =>
          rw [Guide.walk_exceeded (g := o.guide (o.task parameters)) found]
          exact (ih (Nat.zero_le _)).first
      | succ small =>
          rw [Guide.walk_onward_ok (g := o.guide (o.task parameters)) found visited given]
          exact (ih (Nat.le_of_succ_le_succ less)).cons
  | passed found visited left policy failed later ih =>
      rw [left] at ih
      cases small with
      | zero =>
          rw [Guide.walk_exceeded (g := o.guide (o.task parameters)) found]
          exact (ih (Nat.zero_le _)).first
      | succ small =>
          rw [Guide.walk_ended (g := o.guide (o.task parameters)) found visited]
          exact (ih (Nat.le_of_succ_le_succ less)).cons
  | @stopped limit _ _ _ s t _ v e found visited left failed why =>
      have last (small : Nat) : CutAt (v :: s.visits) small limit (.stopped e, t) (.stopped e, t) := .refl left nofun
      cases small with
      | zero =>
          rw [Guide.walk_exceeded (g := o.guide (o.task parameters)) found]
          exact (last 0).first
      | succ small =>
          rw [Guide.walk_stopped (g := o.guide (o.task parameters)) found visited]
          exact (last small).cons

/-- With each limit, a run whose walk sets out is the walk from the same inputs, which are ready. -/
theorem carryOut_within (o : Order) {clock : Clock} {transport : Http.Transport} {b : Outset}
    (begun : o.outset? (Scene.start clock transport) = some b) :
    ∃ given s, s.visits = [] ∧ s.Ready b.parameters given ∧ ∀ limit : Int,
      (o.within limit).carryOut (Scene.start clock transport) =
        ((o.within limit).outcome ((o.guide (o.task b.parameters)).walk limit.toNat given s).1,
          ((o.guide (o.task b.parameters)).walk limit.toNat given s).2) := by
  obtain ⟨given, h, copied, ready⟩ := outset_ready begun
  refine ⟨given, { b.scene with heap := h }, visits_of_outset begun, ready, fun limit => ?_⟩
  rw [carryOut_eq_of_outset (o := o.within limit) begun, walkWith_of_copies (o := o.within limit) copied]
  rfl

/-- The limit has no bearing on a run until it is reached.  A run takes no more visits than its limit allows.  With a
smaller limit it is the same run if it takes no more visits than that limit allows, with the same record and the same
log.  Otherwise the run with the smaller limit takes the same visits up to its limit and has then failed by it, at no
node. -/
theorem conclude_within (o : Order) (locals : o.registry.IsLocal) (pending : Run) (clock : Clock) (transport : Http.Transport)
    (small large : Int) (positive : 0 ≤ small) (less : small ≤ large) :
    let long := (o.within large).conclude pending (Scene.start clock transport)
    let short := (o.within small).conclude pending (Scene.start clock transport)
    long.1.visits.length ≤ large ∧ (long.1.visits.length ≤ small → short = long) ∧
      (small < long.1.visits.length →
        short.1.visits = long.1.visits.take small.toNat ∧ short.1.HasExceeded small) := by
  intro long short
  have listed : long.1.visits = ((o.within large).carryOut (Scene.start clock transport)).2.visits.reverse :=
    conclude_visits _ _ _
  have cutAt : short.1.visits = ((o.within small).carryOut (Scene.start clock transport)).2.visits.reverse :=
    conclude_visits _ _ _
  cases begun : o.outset? (Scene.start clock transport) with
  | none =>
      have same (limit : Int) : (o.within limit).carryOut (Scene.start clock transport) = o.carryOut _ :=
        carryOut_of_closed rfl rfl rfl begun
      have none : long.1.visits = [] := by
        rw [listed, same, visits_of_no_outset begun]
        rfl
      rw [none]
      refine ⟨Int.le_trans positive less, fun _ => ?_, fun more => absurd positive (Int.not_le_of_gt more)⟩
      exact conclude_congr ((same small).trans (same large).symm) pending
  | some b =>
      obtain ⟨given, s, fresh, ready, set⟩ := o.carryOut_within begun
      obtain ⟨new, whole, length, used, same, cut⟩ :=
        ((unfolds_walk locals ready).cutAt (Int.toNat_le_toNat less)).visits
      rw [fresh] at whole cut
      rw [set, whole] at listed
      rw [set] at cutAt
      change long.1.visits = new at listed
      rw [listed]
      refine ⟨by omega, fun fits => ?_, fun more => ?_⟩
      · refine conclude_congr ?_ pending
        rw [set, set, same (by omega)]
        -- The limit shows in the outcome of a walk that is cut only, and then both limits are the same.
        cases ended : ((o.guide (o.task b.parameters)).walk large.toNat given s).1 with
        | exceeded =>
            have all := used ended
            rw [show small = large by omega]
        | _ => rfl
      · obtain ⟨exceeded, visits⟩ := cut (by omega)
        have ended := set small
        rw [exceeded] at ended
        exact ⟨cutAt.trans visits, hasExceeded_of_carryOut ended pending⟩

/-- The run that goes on behind a division by zero takes three visits, so with a limit of two it is cut behind the
division. -/
theorem conclude_within_stumbling :
    let o := stumbling.under .continue
    let pending := Run.pending "run" "stumbling" 1 "system" Clock.start.now
    let long := (o.within 5).conclude pending (Scene.start .start ⟨[], []⟩)
    let short := (o.within 2).conclude pending (Scene.start .start ⟨[], []⟩)
    o.registry.IsLocal ∧ long.1.visits.length = 3 ∧ short.1.visits = long.1.visits.take 2 ∧ short.1.HasExceeded 2 := by
  intro o pending
  dsimp only
  have locals : o.registry.IsLocal := fun _ listed => absurd listed List.not_mem_nil
  have three : ((o.within 5).conclude pending (Scene.start .start ⟨[], []⟩)).1.visits.length = 3 := by decide +kernel
  obtain ⟨-, -, cut⟩ := conclude_within o locals pending .start ⟨[], []⟩ 2 5 (by decide) (by decide)
  obtain ⟨visits, exceeded⟩ := cut (by rw [three]; decide)
  exact ⟨locals, three, visits, exceeded⟩

end Order

end WorkflowEngine
