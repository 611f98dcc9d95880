import ClusterRpc.Cli.Run
import ClusterRpc.Proofs.Arguments
import ClusterRpc.Proofs.Conversation
import ClusterRpc.Proofs.Delivery
import ClusterRpc.Proofs.Exhaustion

/-!
# Runs that keep to the configured controller

Without redirects a call dials the endpoint it prefers and no other: that of its handle, or else the
configured one. It neither reads nor writes the store, and makes three requests at most. On the
command line the flag for that is read wherever it stands, and a call obeys it. A subscription does
not: it reads the failover records and dials the endpoints they name.
-/

namespace ClusterRpc

/-! ## Events and worlds -/

/-- Neither a dial to another address nor something that has to do with redirects. -/
def Event.keepsTo (a : Address) : Event → Bool
  | .dial host port _ => (host, port) == a
  | .get _ | .set .. | .follow .. => false
  | _ => true

/-- No address but the given one is dialled, and the store is left alone. -/
structure World.KeepsTo (a : Address) (w w' : World) : Prop where
  store : w'.store = w.store
  grows : w.Grows (Event.keepsTo a) w'

theorem World.passage_keepsTo (a : Address) : World.Passage (World.KeepsTo a) where
  refl := fun w => ⟨rfl, .refl w⟩
  trans := fun h k => ⟨k.store.trans h.store, h.grows.trans k.grows⟩
  emit := by
    intro w e he
    refine ⟨rfl, World.grows_emit ?_⟩
    cases e <;> first | rfl | cases he
  cancel := fun w => ⟨rfl, World.grows_emit rfl⟩

namespace Client

/-! ## Clients -/

/-- The client has kept to the endpoint that `c₀` prefers. -/
structure Confined (c₀ c : Client) : Prop where
  directory : c.directory = c₀.directory
  preferred : c.preferred = c₀.preferred
  /-- A handle is not let go of. -/
  held : c.handle = none → c₀.handle = none
  world : c₀.world.KeepsTo c₀.preferred c.world

section

variable {c₀ c c' : Client}

theorem Confined.refl (c : Client) : Confined c c :=
  ⟨rfl, rfl, id, (World.passage_keepsTo _).refl c.world⟩

theorem Confined.onward (h : Confined c₀ c) (hdirectory : c'.directory = c.directory)
    (hpreferred : c'.preferred = c.preferred) (hheld : c'.handle = none → c.handle = none)
    (hworld : c.world.KeepsTo c₀.preferred c'.world) : Confined c₀ c' :=
  ⟨hdirectory.trans h.directory, hpreferred.trans h.preferred, h.held ∘ hheld,
    (World.passage_keepsTo _).trans h.world hworld⟩

theorem keepsTo_dial (a : Address) (c : Client) :
    c.world.KeepsTo a (finalState (c.dial a.1 a.2)).world := by
  have hhangUp := (World.passage_keepsTo a).hangUp c
  have hstore := (c.hangUp.world.connect_dials a c.options.transportSettings).2
  have hgrows : c.hangUp.world.Grows (Event.keepsTo a)
      (c.hangUp.world.connect a.1 a.2 c.options.transportSettings).2 :=
    World.grows_connect (beq_self_eq_true a) rfl rfl _
  have hconnect := (World.passage_keepsTo a).trans hhangUp ⟨hstore, hgrows⟩
  rw [dial_eq]
  rcases hr : c.hangUp.world.connect a.1 a.2 c.options.transportSettings with ⟨_ | t, w⟩ <;>
    rw [hr] at hconnect
  · exact hconnect
  · let opened : Client :=
      { c with channel := .connected (endpointLabel a.1 a.2) t, world := w }
    have htake : opened.world.KeepsTo a (opened.takeHandle a.1 a.2).world :=
      ⟨by rw [takeHandle]; split <;> rfl, grows_takeHandle rfl opened⟩
    exact (World.passage_keepsTo a).trans hconnect htake

/-- The endpoint that is preferred stays so when it is dialled. -/
theorem preferred_dial (c : Client) :
    (finalState (c.dial c.preferred.1 c.preferred.2)).preferred = c.preferred := by
  have hdial := dial_spec c.preferred c
  rcases hr : c.dial c.preferred.1 c.preferred.2 with ⟨⟨⟩, c'⟩ | ⟨e, c'⟩ <;> rw [hr] at hdial
  · obtain ⟨-, -, -, hat⟩ := hdial
    obtain ⟨handle, hh, hat⟩ := (Option.any_eq_true ..).1 hat
    rw [finalState, preferred, show c'.handle = some handle from hh]
    exact Handle.address_of_isAt hat
  · obtain ⟨hdialled, -, -, hhandle⟩ := hdial
    exact preferred_congr (congrArg _ hhandle) (by rw [finalState, hdialled.directory])

theorem held_dial (a : Address) (c : Client) :
    (finalState (c.dial a.1 a.2)).handle = none → c.handle = none := by
  have hdial := dial_spec a c
  rcases hr : c.dial a.1 a.2 with ⟨⟨⟩, c'⟩ | ⟨e, c'⟩ <;> rw [hr] at hdial
  · obtain ⟨-, -, -, hat⟩ := hdial
    intro hnone
    rw [show c'.handle = none from hnone] at hat
    cases hat
  · obtain ⟨-, -, -, hhandle⟩ := hdial
    exact fun hnone => hhandle ▸ hnone

theorem Confined.dial (h : Confined c₀ c) :
    Confined c₀ (finalState (c.dial c.preferred.1 c.preferred.2)) := by
  refine h.onward (dial_directory ..) (preferred_dial c) (held_dial _ c) ?_
  rw [← h.preferred]
  exact keepsTo_dial c.preferred c

/-- Without redirects no endpoint stands in for the preferred one. -/
theorem keeps_confined_ensureConnected : Keeps (Confined c₀) (ensureConnected false) := by
  refine keeps_of_finalState fun c h => ?_
  have hdial := h.dial
  rw [ensureConnected_eq]
  split
  · exact h
  · simp only [Bool.false_eq_true, if_false, dialPreferred]
    rcases hr : c.dial c.preferred.1 c.preferred.2 with ⟨⟨⟩, c'⟩ | ⟨e, c'⟩ <;> rwa [hr] at hdial

theorem Confined.transact (h : Confined c₀ c) (uri : String) (body : Bytes)
    (hopen : c.channel.isConnected = true) :
    Confined c₀ (finalState (transact uri body c)) := by
  have hworld := ((World.passage_keepsTo c₀.preferred).transact uri body).finalState h.world
  cases hh : c.handle with
  | none =>
      have hunmade : Client.transact uri body c = .error (.transport .notConnected) c := by
        simp only [Client.transact, frame, Bind.bind, EStateM.bind, hh]
      rw [hunmade]
      exact h
  | some handle =>
      obtain ⟨frame, sent, heard, block, world, -, -, hfinal, -⟩ :=
        transact_spec uri body hopen hh
      rw [hfinal] at hworld ⊢
      refine ⟨h.directory, ?_, fun hnone => absurd hnone (Option.some_ne_none _), hworld⟩
      rw [← h.preferred]
      exact preferred_congr (by rw [hh]; rfl) rfl

theorem keeps_confined_exchange (uri : String) (body : Bytes) :
    Keeps (Confined c₀) (exchange uri body false) := by
  refine keeps_of_finalState fun c h => ?_
  have hconnect := keeps_confined_ensureConnected.finalState h
  simp only [exchange, Bind.bind, EStateM.bind]
  rcases hr : ensureConnected false c with ⟨⟨⟩, c'⟩ | ⟨e, c'⟩ <;> rw [hr] at hconnect
  · exact Confined.transact hconnect uri body (isConnected_of_ensureConnected hr)
  · exact hconnect

theorem Confined.setAuthenticated (h : Confined c₀ c) (authenticated : Bool) :
    Confined c₀ (c.setAuthenticated authenticated) := by
  rw [Client.setAuthenticated]
  cases hh : c.handle with
  | none => exact h
  | some handle =>
      refine h.onward rfl ?_ (fun hnone => absurd hnone (Option.some_ne_none _))
        ⟨rfl, World.grows_emit rfl⟩
      exact preferred_congr (by rw [hh]; rfl) rfl

theorem exchanging_confined : Exchanging false (Confined c₀) fun _ _ => Confined c₀ where
  exchange := keeps_confined_exchange
  kept := fun _ _ _ h => h
  followRedirect := nofun
  accept := fun _ _ _ h => h.setAuthenticated true

/-- A call without redirects keeps to the endpoint that is preferred. -/
theorem confined_call (uri : String) (payload : Json) (c : Client) :
    Confined c (finalState (call uri payload false c)) :=
  ((exchanging_confined.request uri payload).recording fun _ _ h =>
    h.onward rfl rfl id ((World.passage_keepsTo _).refl _)).finalState (.refl c)

/-- The handle is at the endpoint that was preferred, or is still missing. -/
theorem Confined.handle (h : Confined c₀ c) :
    c.handle.map Handle.address = some c₀.preferred ∨ c.handle = none ∧ c₀.handle = none := by
  cases hh : c.handle with
  | none => exact .inr ⟨rfl, h.held hh⟩
  | some handle =>
      left
      rw [← h.preferred, Client.preferred, hh]
      rfl

/-- Where no redirect is followed, no turn of a conversation follows one. -/
theorem countP_isFollow_of_keepsTo {a : Address} {new : List Event}
    (h : new.all (Event.keepsTo a) = true) : (turns new).countP Turn.isFollow = 0 := by
  rw [List.countP_eq_zero]
  intro t ht hfollow
  obtain ⟨e, he, hturn⟩ := List.mem_filterMap.1 ht
  have hkept := List.all_eq_true.1 h e he
  cases e with
  | follow uri targets => cases hkept
  | request | reply | failure => cases hturn; cases hfollow
  | _ => cases hturn

/-- A call without redirects leaves the directory and the store alone, whatever the controllers
answer. It dials the endpoint that was preferred and no other, and its handle is there or still
missing. It makes three requests at most, and what it writes are these requests. -/
theorem call_keepsTo_preferred (uri : String) (payload : Json) (c : Client) :
    let c' := finalState (call uri payload false c)
    c'.directory = c.directory ∧ c'.world.store = c.world.store ∧
      (c'.handle.map Handle.address = some c.preferred ∨ c'.handle = none ∧ c.handle = none) ∧
      ∃ new, c'.world.trace = c.world.trace ++ new ∧ new.all (Event.keepsTo c.preferred) = true ∧
        c.world.ledger.Admits Ledger.Faithful new ∧ (turns new).countP Turn.isRequest ≤ 3 := by
  intro c'
  have hconfined : Confined c c' := confined_call uri payload c
  obtain ⟨new, htrace, hkept⟩ := hconfined.world.grows
  refine ⟨hconfined.directory, hconfined.world.store, hconfined.handle, new, htrace, hkept, ?_⟩
  obtain ⟨new', htrace', hadmits, logins, hlogins, hdialogue⟩ :=
    call_adds uri payload false c
  obtain rfl : new' = new := List.append_cancel_left (htrace'.symm.trans htrace)
  refine ⟨hadmits _, ?_⟩
  have hrequests := hdialogue.countP_isRequest_le fun _ _ _ h => h.countP_isRequest_le
  rw [countP_isFollow_of_keepsTo hkept] at hrequests
  omega

end

end Client

/-! ## Runs -/

namespace Cli

open Arguments Client

/-- The order that the arguments of a run give. -/
def ordered (arguments : List String) : Except String Order :=
  Order.read (programName arguments.head?) (splitSettings (arguments.drop 1)).2

/-- The settings of a run. -/
def Surroundings.config (s : Surroundings) (arguments : List String) :
    Except (List Config.LoadCause) Config :=
  Config.load s.environment s.disk (splitSettings (arguments.drop 1)).1

variable {s : Surroundings} {arguments : List String} {task : Task} {c : Client} {w : World}

theorem prepare_eq (s : Surroundings) (arguments : List String) : prepare s arguments = do
    let order ← (ordered arguments).mapError .usage
    let config ← (s.config arguments).mapError .settings
    (s.startLogging config).mapError .logging
    let task ← order.task s.input
    let options ← config.clientOptions.mapError .address
    return (task, .fresh options (s.world (config.statePath s.home))) := by
  simp only [prepare, head?_commandArguments, drop_commandArguments,
    drop_settings_splitArguments, ordered, Surroundings.config]

/-- What a run does is settled by its arguments, its settings and its payload. -/
theorem exists_of_prepare (h : prepare s arguments = .ok (task, c)) :
    ∃ order config options,
      Order.read (programName arguments.head?) (splitSettings (arguments.drop 1)).2 = .ok order ∧
      Config.load s.environment s.disk (splitSettings (arguments.drop 1)).1 = .ok config ∧
      order.task s.input = .ok task ∧ config.clientOptions = .ok options ∧
      c = .fresh options (s.world (config.statePath s.home)) := by
  rw [prepare_eq] at h
  obtain ⟨order, horder, h⟩ := exists_of_bind_eq_ok h
  obtain ⟨config, hconfig, h⟩ := exists_of_bind_eq_ok h
  obtain ⟨-, -, h⟩ := exists_of_bind_eq_ok h
  obtain ⟨task', htask, h⟩ := exists_of_bind_eq_ok h
  obtain ⟨options, hoptions, h⟩ := exists_of_bind_eq_ok h
  cases h
  exact ⟨order, config, options, eq_ok_of_mapError_eq_ok horder, eq_ok_of_mapError_eq_ok hconfig,
    htask, eq_ok_of_mapError_eq_ok hoptions, rfl⟩

theorem controllerAddress_of_clientOptions {config : Config} {options : ClientOptions}
    (h : config.clientOptions = .ok options) :
    config.controllerAddress = .ok options.controller := by
  obtain ⟨controller, hcontroller, h⟩ := exists_of_bind_eq_ok h
  cases h
  exact hcontroller

theorem Order.task_call {order : Order} {uri : String} {payload : Option String}
    (hcommand : order.command = .call uri payload) (input : Except IoError Bytes) :
    order.task input =
      (readPayload payload input).map fun body => .call uri body order.allowRedirect := by
  simp only [Order.task, hcommand]
  cases readPayload payload input <;> rfl

theorem Order.task_of_call {order : Order} {input : Except IoError Bytes} {uri : String}
    {payload : Option String} (hcall : order.command = .call uri payload)
    (h : order.task input = .ok task) :
    ∃ body, task = .call uri body order.allowRedirect := by
  rw [Order.task_call hcall] at h
  cases hread : readPayload payload input <;> rw [hread] at h <;> cases h
  exact ⟨_, rfl⟩

theorem world_perform_call (s : Surroundings) (uri : String) (payload : Json) (allow : Bool)
    (c : Client) : (perform s (.call uri payload allow) c).2.2.2 =
      (finalState (Client.call uri payload allow c)).world := by
  rw [perform]
  cases Client.call uri payload allow c <;> rfl

theorem world_perform_subscribe (s : Surroundings) (request : SubscriptionRequest) (c : Client) :
    (perform s (.subscribe request) c).2.2.2 =
      (finalState (Client.subscribe request (subscriber s) c)).world := by
  rw [perform]
  cases Client.subscribe request (subscriber s) c <;> rfl

theorem world_of_prepare (h : prepare s arguments = .ok (task, c)) :
    (run s arguments).world = some (perform s task c).2.2.2 := by
  rw [run, h]
  rfl

/-- A run that got as far as to have a client has performed its task. -/
theorem exists_of_run (h : (run s arguments).world = some w) :
    ∃ task c, prepare s arguments = .ok (task, c) ∧ w = (perform s task c).2.2.2 := by
  cases hprepare : prepare s arguments with
  | error failure =>
      rw [run, hprepare] at h
      cases h
  | ok prepared =>
      exact ⟨prepared.1, prepared.2, rfl, Option.some.inj (h.symm.trans (world_of_prepare hprepare))⟩

/-- A call with the flag dials the configured controller and nothing else, and neither reads nor
writes the state file. -/
theorem run_call_keepsTo_controller {before after : List String} {order : Order} {uri : String}
    {payload : Option String} (hbefore : "--" ∉ before)
    (hflag : (splitSettings (arguments.drop 1)).2 = before ++ "--no-redirect" :: after)
    (hread : Order.read (programName arguments.head?) (before ++ "--no-redirect" :: after) =
      .ok order)
    (hcall : order.command = .call uri payload) (hw : (run s arguments).world = some w) :
    ∃ config controller,
      Config.load s.environment s.disk (splitSettings (arguments.drop 1)).1 = .ok config ∧
      config.controllerAddress = .ok controller ∧
      (s.world (config.statePath s.home)).KeepsTo (controller.host, controller.port) w := by
  obtain ⟨task, c, hprepare, rfl⟩ := exists_of_run hw
  obtain ⟨order', config, options, hread', hload, htask, hoptions, rfl⟩ :=
    exists_of_prepare hprepare
  rw [hflag] at hread'
  cases hread.symm.trans hread'
  have hkept : order.allowRedirect = false := allowRedirect_of_read hbefore hread
  obtain ⟨body, rfl⟩ := Order.task_of_call hcall htask
  refine ⟨config, options.controller, hload, controllerAddress_of_clientOptions hoptions, ?_⟩
  rw [hkept, world_perform_call]
  exact (confined_call uri body (.fresh options (s.world (config.statePath s.home)))).world

/-- Nothing answers, and a state file names `b` as an endpoint of the controller at `a`. -/
def deserted : Surroundings :=
  { environment := []
    disk :=
      { here := []
        files := [(["cmon.state"],
          octets ("\x7b\"redirects\":[\x7b\"url\":\"http://a:1\"," ++
            "\"controllers\":[\x7b\"hostname\":\"b\",\"port\":1\x7d]\x7d]\x7d"))]
        directories := []
        sealed := none }
    stdin := []
    dials := []
    pauses := []
    cancelled := false
    outRoom := none
    errRoom := none }

/-- A command of a program that is to talk to the controller at `a` and does not reconnect. -/
def toDeserted (command : List String) : List String :=
  ["cmonctl", "--controller", "http://a:1", "--state-file", "cmon.state", "--reconnect-attempts",
    "0"] ++ command

/-- With the flag a call gives up where `a` does not answer. -/
theorem call_of_deserted :
    let arguments := toDeserted ["call", "--no-redirect", "/x"]
    ∃ w, (run deserted arguments).world = some w ∧
      w.trace = [.dial "a" 1 ⟨10000, false, false⟩] ∧
      ∃ config controller,
        Config.load deserted.environment deserted.disk (splitSettings (arguments.drop 1)).1 =
          .ok config ∧
        config.controllerAddress = .ok controller ∧
        (deserted.world (config.statePath deserted.home)).KeepsTo
          (controller.host, controller.port) w := by
  intro arguments
  have htrace : (run deserted arguments).world.map World.trace =
      some [.dial "a" 1 ⟨10000, false, false⟩] := by decide +kernel
  obtain ⟨w, hw, htrace⟩ := Option.map_eq_some_iff.1 htrace
  have hflag : (splitSettings (arguments.drop 1)).2 = ["call"] ++ "--no-redirect" :: ["/x"] := by
    decide +kernel
  have hread : Order.read (programName arguments.head?) (["call"] ++ "--no-redirect" :: ["/x"]) =
      .ok ⟨.call "/x" none, false⟩ := by decide +kernel
  exact ⟨w, hw, htrace, run_call_keepsTo_controller (by decide) hflag hread rfl hw⟩

/-- With the flag a subscription goes on to `b`. -/
theorem subscribe_of_deserted :
    let arguments := toDeserted ["subscribe", "--no-redirect"]
    ∃ config w,
      Config.load deserted.environment deserted.disk (splitSettings (arguments.drop 1)).1 =
        .ok config ∧
      config.controllerAddress = .ok (.ofHost "a" 1 false) ∧
      (run deserted arguments).world = some w ∧
      .dial "b" 1 ⟨10000, false, false⟩ ∈ w.trace := by
  intro arguments
  -- The first attempt can be evaluated; the loop around it only adds to what that leaves behind.
  have hfirst : (prepare deserted arguments).toOption.any (fun (task, c) =>
      match task with
      | .subscribe request => c.options.controller == .ofHost "a" 1 false &&
          (finalState (runStream request (payloadBytes request.payload) (subscriber deserted)
            { c with delivered := [] })).world.trace.contains (.dial "b" 1 ⟨10000, false, false⟩)
      | .call .. => false) = true := by decide +kernel
  cases hprepare : prepare deserted arguments with
  | error failure => rw [hprepare] at hfirst; cases hfirst
  | ok prepared =>
      obtain ⟨task, c⟩ := prepared
      rw [hprepare] at hfirst
      obtain ⟨order, config, options, -, hload, -, hoptions, rfl⟩ := exists_of_prepare hprepare
      cases task with
      | call uri payload allow => cases hfirst
      | subscribe request =>
          obtain ⟨hcontroller, hdial⟩ := Bool.and_eq_true_iff.1 hfirst
          refine ⟨config, (perform deserted (.subscribe request) _).2.2.2, hload, ?_,
            world_of_prepare hprepare, ?_⟩
          · rw [controllerAddress_of_clientOptions hoptions]
            exact congrArg Except.ok (beq_iff_eq.1 hcontroller)
          · rw [world_perform_subscribe]
            exact (trace_of_first request _ rfl).subset (List.contains_iff_mem.1 hdial)

/-- With the flag a subscription does not keep to the configured controller. -/
theorem subscribe_strays :
    let arguments := toDeserted ["subscribe", "--no-redirect"]
    ¬ ∀ config controller w,
      Config.load deserted.environment deserted.disk (splitSettings (arguments.drop 1)).1 =
        .ok config →
      config.controllerAddress = .ok controller → (run deserted arguments).world = some w →
      (deserted.world (config.statePath deserted.home)).KeepsTo
        (controller.host, controller.port) w := by
  intro arguments hall
  obtain ⟨config, w, hload, hcontroller, hw, hdial⟩ := subscribe_of_deserted
  obtain ⟨new, htrace, hkept⟩ := (hall config _ w hload hcontroller hw).grows
  rw [htrace] at hdial
  have hdial : Event.dial "b" 1 ⟨10000, false, false⟩ ∈ new := hdial
  exact absurd (List.all_eq_true.1 hkept _ hdial) (by decide)

end Cli

end ClusterRpc
