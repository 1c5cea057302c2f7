import Mathlib
import WorkflowEngine.Action.Sample
import WorkflowEngine.Proofs.Number.Arithmetic
import WorkflowEngine.Proofs.Run.Keys
import WorkflowEngine.Proofs.Run.Task

/-!
# The headers of a request

The header that tells who sends a request is set among the headers that are configured.  Their names are
compared letter by letter there, whereas whoever reads a request does not look at case.  So the credentials
take the place of a header in the same spelling, any header in another spelling of their name is sent
besides them, and all other headers are sent as they are configured.
-/

namespace WorkflowEngine

namespace Http

/-- The transport remembers what is sent. -/
theorem sent_of_send {t t' : Transport} {r : Request} {outcome : Except Failure Response}
    (exchanged : send t r = (outcome, t')) : t'.sent = r :: t.sent := by
  unfold send Transport.exchange at exchanged
  cases left : t.replies with
  | nil =>
      rw [left] at exchanged
      cases exchanged
      rfl
  | cons o rest =>
      rw [left] at exchanged
      cases exchanged
      rfl

/-- A request with headers is sent with these. -/
theorem headers_prepare {method url : String} {headers : List (String × String)} {body : Data} {timeout : Number}
    (some : headers ≠ []) : (prepare method url headers body timeout).headers = .some headers := by
  unfold prepare
  exact if_neg (by simpa using some)

/-- The header has a name, in whatever case. -/
def isNamed (name : String) (header : String × String) : Bool :=
  Text.lower header.1 == Text.lower name

/-- Headers that carry a value under a name, besides configured ones. -/
structure Carries (name value : String) (configured headers : List (String × String)) : Prop where
  /-- Under the name in whatever case stand the value, and what is configured in other spellings of the name. -/
  named : (headers.filter (isNamed name)).Perm
    ((name, value) :: configured.filter fun h => isNamed name h && h.1 != name)
  /-- Under all other names stands what is configured, in the same order. -/
  others : (headers.filter fun h => !isNamed name h) = configured.filter fun h => !isNamed name h

section Carries

variable {name value : String} {configured headers : List (String × String)}

/-- The value stands alone under the name just if no other spelling of the name is configured. -/
theorem Carries.alone_iff (carries : Carries name value configured headers) :
    headers.filter (isNamed name) = [(name, value)] ↔ ∀ h ∈ configured, isNamed name h = true → h.1 = name := by
  have others : (configured.filter fun h => isNamed name h && h.1 != name) = [] ↔
      ∀ h ∈ configured, isNamed name h = true → h.1 = name := by
    simp [List.filter_eq_nil_iff]
  rw [← others]
  constructor
  · intro alone
    have named := carries.named
    rw [alone] at named
    exact List.perm_nil.mp named.symm.cons_inv
  · intro none
    have named := carries.named
    rw [none] at named
    exact List.perm_singleton.mp named

/-- A header that is set among configured ones with different names is carried besides them. -/
theorem carries_setKey (distinct : (configured.map Prod.fst).Nodup) :
    Carries name value configured (Reading.setKey name value configured) where
  named := by
    have own : isNamed name (name, value) = true := beq_self_eq_true _
    have placed : (Reading.setKey name value configured).Perm _ := Reading.setKey_perm distinct
    have kept := placed.filter (isNamed name)
    rw [List.filter_cons_of_pos own, List.filter_filter] at kept
    exact kept
  others := Reading.filter_setKey (fun other => !(Text.lower other == Text.lower name)) (by simp)

end Carries

end Http

namespace Act

variable {setting : Setting} {c : ApiConfig} {proof : List (String × String)} {stage : Stage}

/-- What is put on the heap does not go through the transport. -/
theorem transport_onHeap_lift {α : Type} (e : Eval α) (stage : Stage) :
    ((onHeap e >>= lift).run stage).2.scene.transport = stage.scene.transport := by
  change ((lift (Eval.run e stage.scene.heap).1).run
    { stage with scene := { stage.scene with heap := (Eval.run e stage.scene.heap).2 } }).2.scene.transport = _
  rw [run_lift_snd]

/-- A request whose limit has so many seconds is sent, and remembered as the last one. -/
theorem sent_request {seconds : Number} (known : Authentication.headersOf c.authentication = .ok proof)
    (lasts : Number.divideInts (c.timeout.getD setting.requestLimit) 1000 = .ok seconds) :
    ((request setting c).run stage).2.scene.transport.sent =
      Http.prepare c.method.name c.url (merged (c.headers.getD []) proof) c.body seconds :: stage.scene.transport.sent := by
  unfold request secondsOf
  rw [run_info_bind, known, run_lift_bind, lasts, run_lift_bind, run_scene_bind]
  dsimp only
  rw [run_change_bind]
  rcases exchanged : Http.send _ _ with ⟨outcome, transport⟩
  have remembered := Http.sent_of_send exchanged
  dsimp only
  cases outcome with
  | error failure =>
      cases failure with
      | refused e => exact remembered
      | fault f => exact remembered
  | ok response => exact (congrArg Http.Transport.sent (transport_onHeap_lift _ _)).trans remembered

/-- A request whose limit has no number of seconds is not sent. -/
theorem sent_request_of_error {f : Fault} (known : Authentication.headersOf c.authentication = .ok proof)
    (endless : Number.divideInts (c.timeout.getD setting.requestLimit) 1000 = .error f) :
    ((request setting c).run stage).2.scene.transport.sent = stage.scene.transport.sent := by
  unfold request secondsOf
  rw [run_info_bind, known, run_lift_bind, endless]
  rfl

/-- A node that sends a request leaves what its request leaves. -/
theorem perform_api_snd {n : Node} (asks : n.task = .api c) (input : Value) :
    ((perform setting n input).run stage).2 = ((request setting c).run stage).2 := by
  unfold perform
  rw [asks]
  dsimp only
  rw [run_bind]
  rcases (request setting c).run stage with ⟨outcome, after⟩
  cases outcome <;> rfl

/-- A node that sends a request with credentials, and with configured headers under different names, sends it unless
its limit is too large to be written in seconds.  What it sends carries the credentials besides the configured headers,
and the credentials stand alone under their name just if no other spelling of the name is configured. -/
theorem perform_headers {n : Node} {name value : String} (asks : n.task = .api c)
    (known : Authentication.headersOf c.authentication = .ok [(name, value)])
    (distinct : ((c.headers.getD []).map Prod.fst).Nodup) (setting : Setting) (input : Value) (stage : Stage) :
    let configured := c.headers.getD []
    let limit := (c.timeout.getD setting.requestLimit).natAbs
    let before := stage.scene.transport.sent
    let after := ((perform setting n input).run stage).2.scene.transport.sent
    (limit < (2 ^ 1024 - 2 ^ 970) * 1000 → ∃ request headers, after = request :: before ∧ request.headers = some headers ∧
      Http.Carries name value configured headers ∧
      (headers.filter (Http.isNamed name) = [(name, value)] ↔
        ∀ h ∈ configured, Http.isNamed name h = true → h.1 = name)) ∧
    ((2 ^ 1024 - 2 ^ 970) * 1000 ≤ limit → after = before) := by
  intro configured limit before after
  have seconds := Number.divideInts_of_ne (i := c.timeout.getD setting.requestLimit) (show (1000 : Int) ≠ 0 by decide)
  rw [show (1000 : Int).natAbs = 1000 from rfl] at seconds
  have requested : after = ((request setting c).run stage).2.scene.transport.sent := by
    rw [← perform_api_snd asks input]
  rw [requested]
  constructor
  · intro small
    obtain ⟨x, lasts⟩ := seconds.2 small
    have carries : Http.Carries name value configured (Reading.setKey name value configured) :=
      Http.carries_setKey distinct
    have placed : merged configured [(name, value)] = Reading.setKey name value configured :=
      Reading.mergeKeys_snoc distinct
    have filled : Reading.setKey name value configured ≠ [] :=
      List.ne_nil_of_mem ((Reading.setKey_perm distinct).mem_iff.mpr List.mem_cons_self)
    rw [← placed] at carries filled
    exact ⟨_, _, sent_request known lasts, Http.headers_prepare filled, carries, carries.alone_iff⟩
  · intro large
    exact sent_request_of_error known (seconds.1 large)

/-- A request with credentials, and with configured headers. -/
def asked (headers : List (String × String)) : ApiConfig :=
  ⟨.get, "http://example", some headers, .null, some ⟨.bearer, [("token", "s")]⟩, none⟩

/-- A node that sends a request with credentials, and with configured headers. -/
def asker (headers : List (String × String)) : Node :=
  ⟨"ask", "", .api (asked headers), none⟩

/-- A run that sends a request with credentials, and with configured headers. -/
def asking (headers : List (String × String)) : Order where
  workflow :=
    { id := "asking", version := 1, name := "asking", errorHandling := .stop
      nodes := [⟨"start", "", .trigger, none⟩, asker headers]
      edges := [⟨"1", "start", "ask", none, none⟩] }
  input := .null
  isTrusted := true
  registry := Sample.registryOf []
  limit := 5
  requestLimit := 30000

/-- Credentials take the place of a header that is configured in the same spelling. -/
theorem perform_headers_asker :
    let headers := [("X-Trace", "1"), ("Authorization", "Basic b2xk")]
    let setting : Setting := ⟨(asking headers).workflow, (asking headers).registry, 30000, []⟩
    (asker headers).task = .api (asked headers) ∧
    Authentication.headersOf (asked headers).authentication = .ok [("Authorization", "Bearer s")] ∧
    (((asked headers).headers.getD []).map Prod.fst).Nodup ∧
    ∃ request sent, ((perform setting (asker headers) .null).run ⟨.start .start ⟨[], []⟩, []⟩).2.scene.transport.sent =
        [request] ∧
      request.headers = some sent ∧ sent.filter (Http.isNamed "Authorization") = [("Authorization", "Bearer s")] ∧
      (sent.filter fun h => !Http.isNamed "Authorization" h) = [("X-Trace", "1")] := by
  intro headers setting
  have distinct : (((asked headers).headers.getD []).map Prod.fst).Nodup := by decide
  have small : ((asked headers).timeout.getD setting.requestLimit).natAbs < (2 ^ 1024 - 2 ^ 970) * 1000 := by
    decide +kernel
  have answer := perform_headers (n := asker headers) (c := asked headers) rfl rfl distinct setting .null
    ⟨.start .start ⟨[], []⟩, []⟩
  obtain ⟨request, sent, last, carried, carries, alone⟩ := answer.1 small
  refine ⟨rfl, rfl, distinct, request, sent, last, carried, alone.mpr (by decide +kernel), ?_⟩
  rw [carries.others]
  decide +kernel

/-- Credentials do not take the place of a header that is configured in another spelling of their name. -/
theorem carryOut_doubles_credentials :
    Authentication.headersOf (asked [("authorization", "Basic b2xk")]).authentication =
      .ok [("Authorization", "Bearer s")] ∧
    ((asking [("authorization", "Basic b2xk")]).carryOut (.start .start ⟨[], []⟩)).2.transport.sent.map
        (fun r => (r.headers.getD []).filter (Http.isNamed "Authorization")) =
      [[("authorization", "Basic b2xk"), ("Authorization", "Bearer s")]] := by
  refine ⟨rfl, ?_⟩
  decide +kernel

end Act

end WorkflowEngine
