import ClusterRpc.Proofs.Completion
import ClusterRpc.Proofs.Confinement

/-!
# What a call says of itself

A run that is asked for a call either rejects what it was given, or makes the call and gets a failure
or a reply. Exactly one of these is the case, and exit code and output tell which. What is rejected is
rejected before anything is dialled.
-/

namespace ClusterRpc

theorem Reply.isOk_iff {reply : Reply} :
    reply.isOk = true ↔ reply.get? "requestStatus" = some (.string "ok") := by
  rw [isOk, beq_iff_eq, status?, Option.bind_eq_some_iff]
  constructor
  · rintro ⟨v, hv, hstring⟩
    cases v <;> cases hstring
    exact hv
  · exact fun h => ⟨_, h, rfl⟩

/-- A reply that says `ok` is given back, whatever was asked for. -/
theorem Client.call_of_ok {uri : String} {payload : Json} {allow : Bool} {reply : Reply}
    {c c' : Client} (hexchange : exchange uri (payloadBytes payload) allow c = .ok reply c')
    (hok : reply.isOk = true) : call uri payload allow c = .ok reply c' := by
  have hstatus : reply.status? = some "ok" := eq_of_beq hok
  have hredirect : reply.isRedirect = false := by rw [Reply.isRedirect, hstatus]; decide
  have hauth : reply.isAuthRequired = false := by rw [Reply.isAuthRequired, hstatus]; decide
  simp only [call, recording, request, Bind.bind, EStateM.bind, get_apply]
  rw [converse]
  simp only [Bind.bind, EStateM.bind, hexchange, hredirect, Bool.false_and, Bool.false_eq_true,
    if_false, hauth]
  rfl

namespace Cli

open Arguments Client

/-! ## What a run is given -/

/-- The arguments give no order but for a call. -/
def AsksForCall (arguments : List String) : Prop :=
  ∀ order, ordered arguments = .ok order → ∃ uri payload, order.command = .call uri payload

/-- The text of a payload that is given: `-` stands for standard input. -/
def payloadText (input : Except IoError Bytes) (argument : String) : Except Failure Bytes :=
  if argument = "-" then input.mapError .readPayload else .ok (octets argument)

/-- How a payload is read. -/
inductive ReadsAs (input : Except IoError Bytes) : Option String → Except Failure Json → Prop
  | missing : ReadsAs input none (.ok (.object []))
  | unread {argument failure} (htext : payloadText input argument = .error failure) :
      ReadsAs input (some argument) (.error failure)
  | malformed {argument text fault} (htext : payloadText input argument = .ok text)
      (hparse : Json.parse text = .error fault) :
      ReadsAs input (some argument) (.error (.parsePayload fault))
  | other {argument text value} (htext : payloadText input argument = .ok text)
      (hparse : Json.parse text = .ok value) (hvalue : value.object? = none) :
      ReadsAs input (some argument) (.error .payloadNotObject)
  | object {argument text fields} (htext : payloadText input argument = .ok text)
      (hparse : Json.parse text = .ok (.object fields)) :
      ReadsAs input (some argument) (.ok (.object fields))

section

variable {input : Except IoError Bytes} {payload : Option String} {result : Except Failure Json}

theorem readPayload_some (argument : String) (input : Except IoError Bytes) :
    readPayload (some argument) input = (payloadText input argument).bind fun text =>
      ((Json.parse text).mapError .parsePayload).bind fun value =>
        if value.object?.isSome then .ok value else .error .payloadNotObject := by
  by_cases hdash : argument = "-"
  · simp only [readPayload, payloadText, if_pos hdash]
    rfl
  · simp only [readPayload, payloadText, if_neg hdash]
    rfl

theorem ReadsAs.eq (h : ReadsAs input payload result) : readPayload payload input = result := by
  cases h with
  | missing => rfl
  | unread htext =>
      rw [readPayload_some, htext]
      rfl
  | malformed htext hparse =>
      rw [readPayload_some, htext, Except.bind, hparse]
      rfl
  | other htext hparse hvalue =>
      rw [readPayload_some, htext, Except.bind, hparse, Except.mapError, Except.bind, hvalue]
      rfl
  | object htext hparse =>
      rw [readPayload_some, htext, Except.bind, hparse]
      rfl

theorem exists_readsAs (input : Except IoError Bytes) (payload : Option String) :
    ∃ result, ReadsAs input payload result := by
  cases payload with
  | none => exact ⟨_, .missing⟩
  | some argument =>
      cases htext : payloadText input argument with
      | error failure => exact ⟨_, .unread htext⟩
      | ok text =>
          cases hparse : Json.parse text with
          | error fault => exact ⟨_, .malformed htext hparse⟩
          | ok value =>
              cases value with
              | object fields => exact ⟨_, .object htext hparse⟩
              | _ => exact ⟨_, .other htext hparse rfl⟩

end

/-! ## Before a call -/

/-- How a call is prepared: the first thing that is wrong is the failure, in the order given here. -/
inductive Prepares (s : Surroundings) (arguments : List String) :
    Except Failure (Task × Client) → Prop
  | usage {report} (hordered : ordered arguments = .error report) :
      Prepares s arguments (.error (.usage report))
  | settings {order causes} (hordered : ordered arguments = .ok order)
      (hconfig : s.config arguments = .error causes) :
      Prepares s arguments (.error (.settings causes))
  | logging {order config fault} (hordered : ordered arguments = .ok order)
      (hconfig : s.config arguments = .ok config)
      (hlogging : s.startLogging config = .error fault) :
      Prepares s arguments (.error (.logging fault))
  | payload {order uri payload config failure} (hordered : ordered arguments = .ok order)
      (hcommand : order.command = .call uri payload)
      (hconfig : s.config arguments = .ok config) (hlogging : s.startLogging config = .ok ())
      (hpayload : ReadsAs s.input payload (.error failure)) :
      Prepares s arguments (.error failure)
  | address {order uri payload config body fault} (hordered : ordered arguments = .ok order)
      (hcommand : order.command = .call uri payload)
      (hconfig : s.config arguments = .ok config) (hlogging : s.startLogging config = .ok ())
      (hpayload : ReadsAs s.input payload (.ok body))
      (haddress : config.clientOptions = .error fault) :
      Prepares s arguments (.error (.address fault))
  | ready {order uri payload config body options} (hordered : ordered arguments = .ok order)
      (hcommand : order.command = .call uri payload)
      (hconfig : s.config arguments = .ok config) (hlogging : s.startLogging config = .ok ())
      (hpayload : ReadsAs s.input payload (.ok body))
      (haddress : config.clientOptions = .ok options) :
      Prepares s arguments (.ok (.call uri body order.allowRedirect,
        .fresh options (s.world (config.statePath s.home))))

section

variable {s : Surroundings} {arguments : List String}

theorem Prepares.eq {result : Except Failure (Task × Client)} (h : Prepares s arguments result) :
    prepare s arguments = result := by
  rw [prepare_eq]
  cases h with
  | usage hordered => rw [hordered]; rfl
  | settings hordered hconfig => rw [hordered, hconfig]; rfl
  | logging hordered hconfig hlogging =>
      simp only [hordered, hconfig, hlogging, Except.mapError, Bind.bind, Except.bind]
  | payload hordered hcommand hconfig hlogging hpayload =>
      simp only [hordered, hconfig, hlogging, Order.task_call hcommand, hpayload.eq, Except.map,
        Except.mapError, Bind.bind, Except.bind]
  | address hordered hcommand hconfig hlogging hpayload haddress =>
      simp only [hordered, hconfig, hlogging, Order.task_call hcommand, hpayload.eq, haddress,
        Except.map, Except.mapError, Bind.bind, Except.bind]
  | ready hordered hcommand hconfig hlogging hpayload haddress =>
      simp only [hordered, hconfig, hlogging, Order.task_call hcommand, hpayload.eq, haddress,
        Except.map, Except.mapError, Bind.bind, Except.bind]
      rfl

theorem exists_prepares (hcall : AsksForCall arguments) (s : Surroundings) :
    ∃ result, Prepares s arguments result := by
  cases hordered : ordered arguments with
  | error report => exact ⟨_, .usage hordered⟩
  | ok order =>
      obtain ⟨uri, payload, hcommand⟩ := hcall order hordered
      cases hconfig : s.config arguments with
      | error causes => exact ⟨_, .settings hordered hconfig⟩
      | ok config =>
          cases hlogging : s.startLogging config with
          | error fault => exact ⟨_, .logging hordered hconfig hlogging⟩
          | ok =>
              obtain ⟨_ | body, hpayload⟩ := exists_readsAs s.input payload
              · exact ⟨_, .payload hordered hcommand hconfig hlogging hpayload⟩
              · cases haddress : config.clientOptions with
                | error fault =>
                    exact ⟨_, .address hordered hcommand hconfig hlogging hpayload haddress⟩
                | ok options =>
                    exact ⟨_, .ready hordered hcommand hconfig hlogging hpayload haddress⟩

/-! ## What a call comes to -/

/-- What a call comes to: the failure to prepare it, or what the client gives back. -/
inductive CallEnds (s : Surroundings) (arguments : List String) : Except Failure Reply → Prop
  | rejected {failure} (hprepares : Prepares s arguments (.error failure)) :
      CallEnds s arguments (.error failure)
  | made {uri body allow c} (hprepares : Prepares s arguments (.ok (.call uri body allow, c))) :
      CallEnds s arguments ((outcome (Client.call uri body allow c)).mapError .rpc)

/-- What standard output has to show: the reply, if there is one, whatever its status. -/
def printed : Except Failure Reply → Bytes
  | .ok reply => octets ((Json.object reply.fields).pretty ++ "\n")
  | .error _ => []

/-- What standard error has to show: the failure, if there is one. -/
def complained : Except Failure Reply → Bytes
  | .ok _ => []
  | .error failure => octets (failure.message ++ "\n")

/-- The exit code of a call that comes to this. -/
def exitStatus : Except Failure Reply → Nat
  | .ok reply => if reply.isOk then 0 else 1
  | .error _ => 1

variable {result result' : Except Failure Reply}

theorem exitStatus_eq_zero : exitStatus result = 0 ↔
    ∃ reply, result = .ok reply ∧ reply.get? "requestStatus" = some (.string "ok") := by
  cases result with
  | error failure => exact ⟨nofun, nofun⟩
  | ok reply =>
      simp only [exitStatus, ← Reply.isOk_iff, Except.ok.injEq, exists_eq_left']
      cases reply.isOk <;> decide

theorem exists_callEnds (hcall : AsksForCall arguments) (s : Surroundings) :
    ∃ result, CallEnds s arguments result := by
  obtain ⟨failure | ⟨task, c⟩, hprepares⟩ := exists_prepares hcall s
  · exact ⟨_, .rejected hprepares⟩
  · obtain ⟨uri, body, allow, rfl⟩ : ∃ uri body allow, task = .call uri body allow := by
      cases hprepares
      exact ⟨_, _, _, rfl⟩
    exact ⟨_, .made hprepares⟩

theorem CallEnds.unique (h : CallEnds s arguments result) (h' : CallEnds s arguments result') :
    result = result' := by
  cases h with
  | rejected hprepares =>
      cases h' with
      | rejected hprepares' => cases hprepares.eq.symm.trans hprepares'.eq; rfl
      | made hprepares' => cases hprepares.eq.symm.trans hprepares'.eq
  | made hprepares =>
      cases h' with
      | rejected hprepares' => cases hprepares.eq.symm.trans hprepares'.eq
      | made hprepares' => cases hprepares.eq.symm.trans hprepares'.eq; rfl

/-- If the streams take what they have to show, they show it. -/
theorem CallEnds.run (h : CallEnds s arguments result) (hout : fits s.outRoom (printed result))
    (herr : fits s.errRoom (complained result)) :
    (run s arguments).exitCode = exitStatus result ∧
      (run s arguments).stdout = printed result ∧
      (run s arguments).stderr = complained result := by
  cases h with
  | rejected hprepares =>
      rw [Cli.run, hprepares.eq]
      exact ⟨rfl, kept_of_fits hout, kept_of_fits herr⟩
  | @made uri body allow c hprepares =>
      rw [Cli.run, hprepares.eq]
      simp only [perform]
      cases hcall : Client.call uri body allow c with
      | error e c' =>
          rw [hcall] at hout herr
          exact ⟨rfl, kept_of_fits hout, kept_of_fits herr⟩
      | ok reply c' =>
          rw [hcall] at hout herr
          have hfits : fits s.outRoom (octets ((Json.object reply.fields).pretty ++ "\n")) = true :=
            hout
          simp only [hfits, Bool.not_true, Bool.false_eq_true, if_false]
          exact ⟨rfl, kept_of_fits hout, kept_of_fits herr⟩

/-! ## What is rejected -/

/-- Something that a call is given is rejected, whatever else is. -/
inductive Rejected (s : Surroundings) (arguments : List String) : Prop
  | settings {causes} (hconfig : s.config arguments = .error causes)
  | logging {config fault} (hconfig : s.config arguments = .ok config)
      (hlogging : s.startLogging config = .error fault)
  | payload {order uri payload failure} (hordered : ordered arguments = .ok order)
      (hcommand : order.command = .call uri payload)
      (hpayload : ReadsAs s.input payload (.error failure))
  | address {config fault} (hconfig : s.config arguments = .ok config)
      (haddress : config.controllerAddress = .error fault)

/-- What a run does to the outside. -/
def Outcome.events (o : Outcome) : List Event := (o.world.map World.trace).getD []

/-- The files after a run: as its client leaves them, if it has one. -/
def Outcome.diskAfter (o : Outcome) (s : Surroundings) : Disk :=
  match o.world.map World.store with
  | some (.file _ disk) => disk
  | _ => s.disk

/-- What is rejected is rejected before there is a client. -/
theorem Rejected.exists_of_prepares {prepared : Except Failure (Task × Client)}
    (h : Rejected s arguments) (hprepares : Prepares s arguments prepared) :
    ∃ failure, prepared = .error failure := by
  cases hprepares with
  | ready hordered hcommand hconfig hlogging hpayload haddress =>
      -- A client is there only if nothing has been rejected, be it early or late.
      exfalso
      cases h with
      | settings hconfig' => cases hconfig.symm.trans hconfig'
      | logging hconfig' hlogging' =>
          cases hconfig.symm.trans hconfig'
          cases hlogging.symm.trans hlogging'
      | payload hordered' hcommand' hpayload' =>
          cases hordered.symm.trans hordered'
          cases hcommand.symm.trans hcommand'
          cases hpayload.eq.symm.trans hpayload'.eq
      | address hconfig' haddress' =>
          cases hconfig.symm.trans hconfig'
          cases (controllerAddress_of_clientOptions haddress).symm.trans haddress'
  | _ => exact ⟨_, rfl⟩

theorem Rejected.run (h : Rejected s arguments) (hcall : AsksForCall arguments) :
    (∃ failure, CallEnds s arguments (.error failure)) ∧ (run s arguments).world = none := by
  obtain ⟨prepared, hprepares⟩ := exists_prepares hcall s
  obtain ⟨failure, rfl⟩ := h.exists_of_prepares hprepares
  refine ⟨⟨failure, .rejected hprepares⟩, ?_⟩
  rw [Cli.run, hprepares.eq]
  rfl

/-- A call comes to one thing, a failure or a reply, and if both streams take what they have to show,
the run reports it: the exit code is zero just if there is a reply and its status is `ok`, standard
output shows the reply and standard error the failure. If the settings, the payload or the address of
the controller is rejected, nothing is dialled and the files stay as they were. -/
theorem run_reports_call (hcall : AsksForCall arguments)
    (hroom : ∀ r, CallEnds s arguments r →
      fits s.outRoom (printed r) ∧ fits s.errRoom (complained r)) :
    let o := run s arguments
    ∃ result, (∀ r, CallEnds s arguments r ↔ r = result) ∧
      (o.exitCode = 0 ↔
        ∃ reply, result = .ok reply ∧ reply.get? "requestStatus" = some (.string "ok")) ∧
      (∀ failure, result = .error failure → o.exitCode = 1) ∧
      o.stdout = printed result ∧ o.stderr = complained result ∧
      (Rejected s arguments →
        (∃ failure, result = .error failure) ∧ o.events = [] ∧ o.diskAfter s = s.disk) := by
  intro o
  obtain ⟨result, hends⟩ := exists_callEnds hcall s
  obtain ⟨hout, herr⟩ := hroom result hends
  obtain ⟨hcode, hstdout, hstderr⟩ := hends.run hout herr
  have hresult : ∀ r, CallEnds s arguments r ↔ r = result :=
    fun r => ⟨fun h => h.unique hends, fun h => h ▸ hends⟩
  refine ⟨result, hresult, ?_, ?_, hstdout, hstderr, ?_⟩
  · rw [hcode, exitStatus_eq_zero]
  · rintro failure rfl
    exact hcode
  · intro hrejected
    obtain ⟨⟨failure, hfailure⟩, hworld⟩ := hrejected.run hcall
    refine ⟨⟨failure, ((hresult _).1 hfailure).symm⟩, ?_, ?_⟩
    · rw [Outcome.events, hworld]
      rfl
    · rw [Outcome.diskAfter, hworld]
      rfl

/-- A response that brings an `ok`. -/
def welcome : Bytes :=
  octets ("HTTP/1.0 200 OK\r\nContent-Length: 22\r\n\r\n" ++ "\x7b\"requestStatus\":\"ok\"\x7d")

/-- The controller at `a` answers. -/
def attended : Surroundings :=
  { deserted with dials := [⟨.answered ⟨false, [⟨.data welcome, false⟩], [], []⟩, false⟩] }

/-- The client of a run that calls it. -/
def visitor : Client :=
  .fresh ⟨.ofHost "a" 1 false, 10000, false, none, 0, 1000⟩ (attended.world "cmon.state")

theorem ordered_toDeserted : ordered (toDeserted ["call", "/x"]) = .ok ⟨.call "/x" none, true⟩ := by
  decide +kernel

theorem prepares_visitor : Prepares attended (toDeserted ["call", "/x"])
    (.ok (.call "/x" (.object []) true, visitor)) := by
  have hconfig : attended.config (toDeserted ["call", "/x"]) = .ok ⟨some "http://a:1", none,
      some false, some "cmon.state", none, none, some 0, none, none, none⟩ := by decide +kernel
  exact .ready ordered_toDeserted rfl hconfig rfl .missing (by decide +kernel)

theorem parse_welcome :
    ∃ reply, (Response.parse welcome .fresh).1 = .ok reply ∧ reply.isOk = true := by
  have hparse : ((Response.parse welcome .fresh).1.toOption.any Reply.isOk) = true := by
    decide +kernel
  cases hr : (Response.parse welcome .fresh).1 with
  | error e => rw [hr] at hparse; cases hparse
  | ok reply =>
      rw [hr] at hparse
      exact ⟨reply, rfl, hparse⟩

-- The loop that receives a response does not evaluate, so what it brings is put together here.
theorem exchange_visitor (uri : String) (body : Bytes) :
    ∃ reply c, exchange uri body true visitor = .ok reply c ∧ reply.isOk = true := by
  obtain ⟨c, hconnect, hchannel, hhandle⟩ : ∃ c, ensureConnected true visitor = .ok () c ∧
      c.channel =
        .connected (endpointLabel "a" 1) ⟨false, [⟨.data welcome, false⟩], [], []⟩ ∧
      c.handle = some (.fresh "a" 1) := by
    refine ⟨_, rfl, ?_, ?_⟩ <;> rfl
  have hbrings : Brings [] (welcome ++ []) [⟨.data welcome, false⟩] :=
    .arrives (by decide +kernel) (.spent _)
  rw [List.append_nil] at hbrings
  obtain ⟨reply, hparse, hok⟩ := parse_welcome
  obtain ⟨_, hwrite, -⟩ := writeRequest_of_unscripted uri body hchannel hhandle
  obtain ⟨world, -, houtcome, -⟩ := transact_of_brings hwrite hchannel hhandle hbrings
  rw [show (Handle.fresh "a" 1).session = .fresh from rfl, hparse] at houtcome
  rw [exchange_of_connected hconnect]
  rcases hr : transact uri body c with ⟨reply', c'⟩ | ⟨e, c'⟩ <;> rw [hr] at houtcome <;>
    cases houtcome
  exact ⟨reply, c', rfl, hok⟩

/-- The answer is printed, and the run succeeds. -/
theorem call_of_attended :
    let arguments := toDeserted ["call", "/x"]
    ∃ reply, CallEnds attended arguments (.ok reply) ∧
      reply.get? "requestStatus" = some (.string "ok") ∧
      (run attended arguments).exitCode = 0 ∧
      (run attended arguments).stdout = printed (.ok reply) ∧
      (run attended arguments).stderr = [] := by
  intro arguments
  have hcall : AsksForCall arguments := by
    intro order hordered
    cases ordered_toDeserted.symm.trans hordered
    exact ⟨_, _, rfl⟩
  obtain ⟨reply, c, hexchange, hok⟩ := exchange_visitor "/x" (payloadBytes (.object []))
  have hends : CallEnds attended arguments (.ok reply) := by
    have hmade := CallEnds.made prepares_visitor
    rwa [call_of_ok hexchange hok] at hmade
  have hstatus := Reply.isOk_iff.1 hok
  obtain ⟨result, hresult, hzero, -, hstdout, hstderr, -⟩ :=
    run_reports_call (s := attended) hcall fun _ _ => ⟨rfl, rfl⟩
  obtain rfl := (hresult _).1 hends
  exact ⟨reply, hends, hstatus, hzero.2 ⟨reply, rfl, hstatus⟩, hstdout, hstderr⟩

end

end Cli

end ClusterRpc
