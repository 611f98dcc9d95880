import ClusterRpc.Proofs.Failover
import ClusterRpc.Proofs.Reachable

/-!
# When no endpoint is left

The endpoint that a client prefers is always one that its directory knows, so that it is marked like
the others when it cannot be reached. Once every endpoint is marked, connecting dials nothing any
more.
-/

namespace ClusterRpc

def Handle.address (h : Handle) : Address := (h.hostName, h.port)

theorem Handle.address_of_isAt {h : Handle} {a : Address} (hat : h.isAt a.1 a.2 = true) :
    h.address = a := by
  rw [isAt, Bool.and_eq_true, beq_iff_eq, beq_iff_eq] at hat
  rw [address, hat.1, hat.2]

namespace Directory

variable {d : Directory} {a : Address}

/-- Everything that may be marked as failed. -/
def entries (d : Directory) : List Endpoint := d.endpoints ++ [d.configured]

/-- Whether an address is known, be it in another spelling. -/
def Knows (d : Directory) (a : Address) : Prop := ∃ e ∈ d.entries, sameAddress e.address a = true

/-- Before it is loaded a directory has no endpoints of a record. -/
def Fits (d : Directory) : Prop := d.loaded = false → d.endpoints = []

theorem isFailed_eq_true : d.isFailed a.1 a.2 = true ↔
    ∃ e ∈ d.entries, sameAddress e.address a = true ∧ e.failed = true := by
  simp only [isFailed, entries, List.any_eq_true, Bool.and_eq_true, Endpoint.isAt_eq_sameAddress]

theorem entries_flag (d : Directory) (a : Address) :
    (d.flag a.1 a.2).entries = d.entries.map (Endpoint.flagAt a.1 a.2) := by
  simp [entries, flag]

theorem Knows.flag (h : d.Knows a) (b : Address) : (d.flag b.1 b.2).Knows a := by
  obtain ⟨e, he, hsame⟩ := h
  refine ⟨e.flagAt b.1 b.2, ?_, by rwa [Endpoint.address_flagAt]⟩
  rw [entries_flag]
  exact List.mem_map_of_mem he

theorem isFailed_flag_of_isFailed (h : d.isFailed a.1 a.2 = true) (b : Address) :
    (d.flag b.1 b.2).isFailed a.1 a.2 = true := by
  obtain ⟨e, he, hsame, hfailed⟩ := isFailed_eq_true.1 h
  refine isFailed_eq_true.2 ⟨e.flagAt b.1 b.2, ?_, by rwa [Endpoint.address_flagAt], ?_⟩
  · rw [entries_flag]
    exact List.mem_map_of_mem he
  · rw [Endpoint.failed_flagAt, hfailed, Bool.true_or]

/-- What is known can be marked. -/
theorem isFailed_flag_of_knows (h : d.Knows a) : (d.flag a.1 a.2).isFailed a.1 a.2 = true := by
  obtain ⟨e, he, hsame⟩ := h
  refine isFailed_eq_true.2 ⟨e.flagAt a.1 a.2, ?_, by rwa [Endpoint.address_flagAt], ?_⟩
  · rw [entries_flag]
    exact List.mem_map_of_mem he
  · rw [Endpoint.failed_flagAt, hsame, Bool.or_true]

theorem knows_configured (d : Directory) : d.Knows d.configured.address :=
  ⟨d.configured, by simp [entries], sameAddress_self _⟩

theorem knows_of_firstUntried {e : Endpoint} (h : d.firstUntried = some e) : d.Knows e.address := by
  refine ⟨e, ?_, sameAddress_self _⟩
  have hmem : e ∈ d.candidates := List.mem_of_find?_eq_some h
  rw [candidates] at hmem
  rw [entries, List.mem_append]
  split at hmem
  · exact .inr hmem
  · exact .inl hmem

theorem configured_ensureLoaded (d : Directory) (w : World) :
    (d.ensureLoaded w).1.configured = d.configured ∧ (d.ensureLoaded w).1.loaded = true ∧
      (d.ensureLoaded w).1.url = d.url := by
  simp only [ensureLoaded, load, World.getState]
  split
  · exact ⟨rfl, by assumption, rfl⟩
  · cases w.store.get Failover.key <;> exact ⟨rfl, rfl, rfl⟩

/-- Loading keeps what was known: either there was nothing but the configured endpoint, or it was
done before. -/
theorem entries_ensureLoaded (h : d.Fits) (w : World) {e : Endpoint} (he : e ∈ d.entries) :
    e ∈ (d.ensureLoaded w).1.entries := by
  cases hloaded : d.loaded with
  | true =>
      have hsame : (d.ensureLoaded w).1 = d := by simp [ensureLoaded, load, hloaded]
      rwa [hsame]
  | false =>
      rw [entries, h hloaded, List.nil_append, List.mem_singleton] at he
      rw [entries, (d.configured_ensureLoaded w).1, he]
      simp

theorem Knows.ensureLoaded (h : d.Knows a) (hd : d.Fits) (w : World) :
    (d.ensureLoaded w).1.Knows a := by
  obtain ⟨e, he, hsame⟩ := h
  exact ⟨e, entries_ensureLoaded hd w he, hsame⟩

theorem isFailed_ensureLoaded (h : d.isFailed a.1 a.2 = true) (hd : d.Fits) (w : World) :
    (d.ensureLoaded w).1.isFailed a.1 a.2 = true := by
  obtain ⟨e, he, hsame, hfailed⟩ := isFailed_eq_true.1 h
  exact isFailed_eq_true.2 ⟨e, entries_ensureLoaded hd w he, hsame, hfailed⟩

theorem Fits.flag (h : d.Fits) (a : Address) : (d.flag a.1 a.2).Fits := by
  intro hloaded
  rw [Directory.flag, h hloaded]
  rfl

theorem Fits.resetFailures (h : d.Fits) : d.resetFailures.Fits := by
  intro hloaded
  rw [Directory.resetFailures, h hloaded]
  rfl

theorem Knows.resetFailures (h : d.Knows a) : d.resetFailures.Knows a := by
  obtain ⟨e, he, hsame⟩ := h
  refine ⟨{ e with failed := false }, ?_, hsame⟩
  have hentries : d.resetFailures.entries = d.entries.map ({ · with failed := false }) := by
    simp [entries, Directory.resetFailures]
  rw [hentries]
  exact List.mem_map_of_mem (f := ({ · with failed := false })) he

theorem fits_of_loaded (h : d.loaded = true) : d.Fits := by
  intro hnot
  rw [h] at hnot
  cases hnot

theorem fits_ensureLoaded (d : Directory) (w : World) : (d.ensureLoaded w).1.Fits :=
  fits_of_loaded (d.configured_ensureLoaded w).2.1

end Directory

namespace Client

/-- The directory is in order, and knows the endpoint of the handle. -/
structure Known (c : Client) : Prop where
  fits : c.directory.Fits
  handle : ∀ h, c.handle = some h → c.directory.Knows h.address

section

variable {c c' : Client} {a : Address}

/-- The endpoint to be tried first is known. -/
theorem Known.preferred (h : Known c) : c.directory.Knows c.preferred := by
  rw [Client.preferred]
  split
  · rename_i handle hh
    exact h.handle handle hh
  · exact c.directory.knows_configured

/-- Only the directory and the endpoint of the handle matter. -/
theorem Known.congr (h : Known c) (hdirectory : c'.directory = c.directory)
    (hhandle : c'.handle.map Handle.address = c.handle.map Handle.address) : Known c' := by
  refine ⟨by rw [hdirectory]; exact h.fits, fun handle hh => ?_⟩
  rw [hh, Option.map_some, eq_comm, Option.map_eq_some_iff] at hhandle
  obtain ⟨handle', hh', haddress⟩ := hhandle
  rw [hdirectory, ← haddress]
  exact h.handle handle' hh'

theorem Known.flag (h : Known c) (a : Address) (lastError : Option String) :
    Known { c with directory := c.directory.flag a.1 a.2, lastError } :=
  ⟨h.fits.flag a, fun handle hh => (h.handle handle hh).flag a⟩

theorem Known.ensureLoaded (h : Known c) :
    Known { c with
      directory := (c.directory.ensureLoaded c.world).1
      world := (c.directory.ensureLoaded c.world).2 } :=
  ⟨c.directory.fits_ensureLoaded c.world,
    fun handle hh => (h.handle handle hh).ensureLoaded h.fits c.world⟩

theorem Known.dial (h : Known c) (ha : c.directory.Knows a) :
    Known (finalState (c.dial a.1 a.2)) := by
  have hdial := dial_spec a c
  cases hr : c.dial a.1 a.2 with
  | ok _ c' =>
      rw [hr] at hdial
      obtain ⟨hdialled, -, -, hat⟩ := hdial
      refine ⟨by rw [finalState, hdialled.directory]; exact h.fits, fun handle hh => ?_⟩
      rw [show c'.handle = some handle from hh, Option.any_some] at hat
      rw [finalState, hdialled.directory, Handle.address_of_isAt hat]
      exact ha
  | error e c' =>
      rw [hr] at hdial
      obtain ⟨hdialled, -, -, hhandle⟩ := hdial
      exact h.congr hdialled.directory (congrArg _ hhandle)

theorem searching_known : Searching Known where
  dialPreferred := fun _ h => h.dial h.preferred
  dialUntried := fun _ e hsome h =>
    Known.dial (a := e.address) h (Directory.knows_of_firstUntried hsome)
  load := fun _ h => h.ensureLoaded
  flag := fun _ hostName port lastError h => Known.flag h (hostName, port) lastError

theorem keeps_known_ensureConnected (useRedirect : Bool) :
    Keeps Known (Client.ensureConnected useRedirect) :=
  keeps_of_finalState fun _ => searching_known.ensureConnected useRedirect

/-- The leader of a redirect is one of the endpoints from then on. -/
theorem Known.followRedirect (c : Client) (uri : String) (targets : RedirectTargets) :
    Known (followRedirect uri targets c) := by
  let w := c.world.emit (.follow uri targets)
  let d := (c.directory.rememberRedirect targets w).2.1
  let c' : Client :=
    { c with directory := d, world := (c.directory.rememberRedirect targets w).2.2 }
  let leader : Address := (targets.leader.hostName, targets.leader.port)
  change Known (c'.hangUp.takeHandle leader.1 leader.2)
  have hdirectory : (c'.hangUp.takeHandle leader.1 leader.2).directory = d :=
    takeHandle_directory ..
  have hat :
      (c'.hangUp.takeHandle leader.1 leader.2).handle.any (·.isAt leader.1 leader.2) = true :=
    isAt_takeHandle ..
  have hleader : d.Knows leader := by
    let failed := (c.directory.ensureLoaded w).1.endpoints.any fun e =>
      e.failed && e.isAt targets.leader.hostName targets.leader.port
    exact ⟨{ Endpoint.ofTarget targets.leader with failed }, List.mem_cons_self, sameAddress_self _⟩
  refine ⟨?_, fun handle hh => ?_⟩
  · rw [hdirectory]
    exact Directory.fits_of_loaded (c.directory.configured_ensureLoaded w).2.1
  · rw [hh, Option.any_some] at hat
    rw [hdirectory, Handle.address_of_isAt hat]
    exact hleader

/-! ## Everything else -/

theorem Known.learn {handle : Handle} (h : Known c) (hh : c.handle = some handle)
    (block : Option Bytes) (session : Session) : Known (c.learn handle block session) := by
  cases block <;> exact h.congr rfl (by rw [hh]; rfl)

theorem Known.setAuthenticated (h : Known c) (authenticated : Bool) :
    Known (c.setAuthenticated authenticated) := by
  rw [Client.setAuthenticated]
  split
  · exact h
  · rename_i handle hh
    exact h.congr rfl (by rw [hh]; rfl)

theorem keeps_known_onLink {α : Type} (x : Link.Action α) : Keeps Known (onLink x) := by
  intro c h
  simp only [onLink]
  cases x c.link <;> exact h.congr rfl rfl

theorem keeps_known_frame (uri : String) (body : Bytes) : Keeps Known (frame uri body) := by
  intro c h
  simp only [frame]
  cases c.handle with
  | none => exact h
  | some handle => exact h.congr rfl rfl

theorem keeps_known_send (frame : RequestFrame) : Keeps Known (send frame) := by
  intro c h
  have hlink := keeps_known_onLink (do Link.writeAll frame.head; Link.writeAll frame.body) c h
  simp only [send]
  cases hr : onLink (do Link.writeAll frame.head; Link.writeAll frame.body) c with
  | ok _ c' =>
      rw [hr] at hlink
      exact hlink
  | error e c' =>
      rw [hr] at hlink
      exact Known.congr hlink rfl rfl

theorem keeps_known_takeResponse (raw : Bytes) : Keeps Known (takeResponse raw) := by
  intro c h
  simp only [takeResponse]
  cases hh : c.handle with
  | none => exact h
  | some handle =>
      dsimp only
      split <;> rename_i heq <;> split at heq <;> cases heq <;> exact h.learn hh _ _

theorem keeps_known_exchange (uri : String) (body : Bytes) (useRedirect : Bool) :
    Keeps Known (exchange uri body useRedirect) := by
  have htransact : Keeps Known (transact uri body) := by
    refine (keeps_known_frame uri body).bind fun frame => Keeps.noting ?_ uri fun c e h =>
      h.congr rfl rfl
    refine (keeps_known_send frame).bind fun _ => ?_
    refine ((keeps_known_onLink _).closing fun c h => ?_).bind keeps_known_takeResponse
    exact h.congr rfl rfl
  exact (keeps_known_ensureConnected useRedirect).bind fun _ => htransact

theorem exchanging_known (allowRedirect : Bool) :
    Exchanging allowRedirect Known fun _ _ => Known where
  exchange := fun uri body => keeps_known_exchange uri body allowRedirect
  kept := fun _ _ _ h => h
  followRedirect := fun _ uri targets c _ => Known.followRedirect c uri targets
  accept := fun _ _ _ h => h.setAuthenticated true

theorem Known.handOverAll (h : Known c) (subscriber : Subscriber)
    (records : List (Except RpcError Record)) : Known (handOverAll subscriber records c).2 := by
  fun_induction Client.handOverAll subscriber records c with
  | case1 | case2 => exact h
  | case3 | case4 => exact h.congr rfl rfl
  | case5 record rest c c' _ _ ih => exact ih (h.congr rfl rfl)

theorem Known.pump (h : Known c) (subscriber : Subscriber) (stream : RecordStream) :
    Known (finalState (pump subscriber stream c)) := by
  have hdrained {c c'' : Client} {l : Link} {handle : Handle} {block : Option Bytes}
      {session : Session} {records : List (Except RpcError Record)}
      {outcome : Option (Except RpcError StreamOutcome)} (h : Known c)
      (hh : c.handle = some handle) (hd : Client.handOverAll subscriber records
        ((c.withLink l).learn handle block session) = (outcome, c'')) : Known c'' := by
    have hread : Known (c.withLink l) := h.congr rfl rfl
    have hlearnt := hread.learn hh block session
    have hhanded := hlearnt.handOverAll subscriber records
    rwa [hd] at hhanded
  fun_induction Client.pump subscriber stream c with
  | case1 => exact h
  | case2 stream c _ e l hread ht ih => exact ih (h.congr rfl rfl)
  | case3 | case4 | case5 => exact h.congr rfl rfl
  | case6 stream c _ chunk l hread hne handle hh fed drained c' c'' hd ih =>
      exact ih (hdrained h hh hd)
  | case7 stream c _ chunk l hread hne handle hh fed drained c' outcome c'' hd =>
      exact hdrained h hh hd
  | case8 stream c _ chunk l hread hne handle hh fed drained c' e c'' hd =>
      exact hdrained h hh hd

theorem Known.refreshEndpoints (h : Known c) : Known c.refreshEndpoints := by
  have hloaded := h.ensureLoaded
  simp only [Client.refreshEndpoints, Directory.nextUntried]
  by_cases hnone : (c.directory.ensureLoaded c.world).1.firstUntried.isNone = true
  · simp only [hnone, if_true]
    exact ⟨hloaded.fits.resetFailures, fun handle hh => (hloaded.handle handle hh).resetFailures⟩
  · simp only [hnone]
    exact hloaded

theorem known_invariant (options : ClientOptions) : Invariant options Known where
  fresh := fun world _ => ⟨fun _ => rfl, by rintro handle ⟨⟩⟩
  elapse := fun c world _ h => h.congr rfl rfl
  aside := fun c lastError delivered h => h.congr rfl rfl
  close := fun c h => ⟨h.fits, by rintro handle ⟨⟩⟩
  ensureConnected := keeps_known_ensureConnected
  login := fun allowRedirect => (exchanging_known allowRedirect).login
  request := fun uri payload allowRedirect => (exchanging_known allowRedirect).request uri payload
  runStream := fun _ _ subscriber => keeps_runStream (fun c h => h.congr rfl rfl)
    (exchanging_known true).login (keeps_known_ensureConnected true) (keeps_known_frame _ _)
    keeps_known_send (fun c h => h.pump subscriber .fresh) (fun c h => h.congr rfl rfl)
  followRedirect := fun uri targets c _ => Known.followRedirect c uri targets
  logout := fun c h => h.setAuthenticated false
  pause := fun c h => h.congr rfl rfl
  refreshEndpoints := fun c h => h.refreshEndpoints

end

/-! ## Nothing left to dial -/

/-- Every endpoint has failed, the preferred one too. -/
structure Exhausted (c : Client) : Prop where
  closed : c.channel.isConnected = false
  loaded : c.directory.loaded = true
  failed : c.directory.isFailed c.preferred.1 c.preferred.2 = true
  untried : c.directory.firstUntried = none

section

variable {c c' : Client} {url : String} {last last' : Option TransportError}

/-- Only the addresses of the handle and of the configured endpoint matter to what is preferred. -/
theorem preferred_congr
    (hhandle : c'.handle.map Handle.address = c.handle.map Handle.address)
    (hconfigured : c'.directory.configured.address = c.directory.configured.address) :
    c'.preferred = c.preferred := by
  rw [Client.preferred, Client.preferred]
  cases hh : c.handle with
  | none =>
      rw [hh, Option.map_none, Option.map_eq_none_iff] at hhandle
      rw [hhandle]
      exact hconfigured
  | some handle =>
      rw [hh, Option.map_some, Option.map_eq_some_iff] at hhandle
      obtain ⟨handle', hh', haddress⟩ := hhandle
      rw [hh']
      exact haddress

theorem Exhausted.congr (h : Exhausted c) (hchannel : c'.channel = c.channel)
    (hhandle : c'.handle = c.handle) (hdirectory : c'.directory = c.directory) : Exhausted c' := by
  have hpreferred : c'.preferred = c.preferred := preferred_congr (congrArg _ hhandle) (by rw [hdirectory])
  refine ⟨?_, ?_, ?_, ?_⟩
  · rw [hchannel]
    exact h.closed
  · rw [hdirectory]
    exact h.loaded
  · rw [hdirectory, hpreferred]
    exact h.failed
  · rw [hdirectory]
    exact h.untried

/-- Connecting does nothing any more but fail. -/
theorem Exhausted.connect (h : Exhausted c) : connect true c =
    .error (.endpointsExhausted c.directory.url none)
      { c with lastError := some (RpcError.endpointsExhausted c.directory.url none).message } := by
  have hload : c.directory.ensureLoaded c.world = (c.directory, c.world) := by
    simp [Directory.ensureLoaded, Directory.load, h.loaded]
  have hwalk : Client.walk none c = .error (.endpointsExhausted c.directory.url none) c := by
    rw [Client.walk]
    split
    · rfl
    · rename_i e hsome
      rw [h.untried] at hsome
      cases hsome
  have hfailover : failover c = .error (.endpointsExhausted c.directory.url none) c := by
    simp only [failover, h.failed, hload, if_true]
    exact hwalk
  rw [connect_of_closed h.closed, recording, hfailover]

/-- What a walk leaves behind that runs out of endpoints. -/
theorem walk_exhausted (h : Client.walk last c = .error (.endpointsExhausted url last') c') :
    c'.directory.firstUntried = none ∧ c'.directory.loaded = c.directory.loaded ∧
      c'.directory.url = url ∧ c'.preferred = c.preferred ∧
      (c.channel.isConnected = false → c'.channel.isConnected = false) ∧
      ∀ a : Address, c.directory.isFailed a.1 a.2 = true →
        c'.directory.isFailed a.1 a.2 = true := by
  fun_induction Client.walk last c with
  | case1 last c hnone =>
      cases h
      exact ⟨hnone, rfl, rfl, rfl, id, fun _ => id⟩
  | case2 => cases h
  | case3 last c e hsome failure tried hd _ ih =>
      obtain ⟨huntried, hloaded, hurl, hpreferred, hchannel, hfailed⟩ := ih h
      have hdial := dial_spec e.address c
      rw [show c.dial e.address.1 e.address.2 = _ from hd] at hdial
      obtain ⟨hdialled, -, hclosed, hhandle⟩ := hdial
      refine ⟨huntried, hloaded, hurl, ?_, fun _ => hchannel ?_, fun a ha => hfailed a ?_⟩
      · rw [hpreferred]
        exact preferred_congr (congrArg _ hhandle) (c.directory.configured.address_flagAt e.address)
      · rw [hclosed]
        rfl
      · exact Directory.isFailed_flag_of_isFailed ha e.address
  | case4 => cases h

/-- A walk that starts with the preferred endpoint marked ends with all of them marked. -/
theorem exhausted_of_walk (hclosed : c.channel.isConnected = false)
    (hloaded : c.directory.loaded = true)
    (hfailed : c.directory.isFailed c.preferred.1 c.preferred.2 = true)
    (hr : Client.walk last c = .error (.endpointsExhausted url last') c') :
    Exhausted c' ∧ c'.directory.url = url := by
  obtain ⟨huntried, hloaded', hurl, hpreferred, hchannel, hmono⟩ := walk_exhausted hr
  refine ⟨⟨hchannel hclosed, hloaded'.trans hloaded, ?_, huntried⟩, hurl⟩
  rw [hpreferred]
  exact hmono c.preferred hfailed

theorem Known.exhausted_of_failover (h : Known c) (hclosed : c.channel.isConnected = false)
    (hr : failover c = .error (.endpointsExhausted url last) c') :
    Exhausted c' ∧ c'.directory.url = url := by
  have hdial := dial_spec c.preferred c
  simp only [failover] at hr
  split at hr
  · rename_i hfailed
    obtain ⟨hconfigured, hloaded, -⟩ := c.directory.configured_ensureLoaded c.world
    let loaded : Client :=
      { c with
        directory := (c.directory.ensureLoaded c.world).1
        world := (c.directory.ensureLoaded c.world).2 }
    have hpreferred : loaded.preferred = c.preferred :=
      preferred_congr rfl (congrArg Endpoint.address hconfigured)
    refine exhausted_of_walk (c := loaded) hclosed hloaded ?_ hr
    rw [hpreferred]
    exact Directory.isFailed_ensureLoaded hfailed h.fits c.world
  · rcases hd : c.dial c.preferred.1 c.preferred.2 with ⟨⟨⟩, tried⟩ | ⟨e, tried⟩ <;>
      rw [hd] at hr hdial
    · cases hr
    · obtain ⟨hdialled, -, hchannel, hhandle⟩ := hdial
      dsimp only at hr
      split at hr
      · obtain ⟨hconfigured, hloaded, -⟩ := tried.directory.configured_ensureLoaded tried.world
        let marked : Client :=
          { tried with
            lastError := some e.message
            directory := (tried.directory.markFailed c.preferred.1 c.preferred.2 tried.world).1
            world := (tried.directory.markFailed c.preferred.1 c.preferred.2 tried.world).2 }
        have hpreferred : marked.preferred = c.preferred := by
          refine preferred_congr (congrArg _ hhandle) ?_
          rw [← hdialled.directory, ← hconfigured]
          exact (tried.directory.ensureLoaded tried.world).1.configured.address_flagAt c.preferred
        refine exhausted_of_walk (c := marked) ?_ hloaded ?_ hr
        · rw [show marked.channel = _ from hchannel]
          rfl
        · rw [hpreferred]
          refine Directory.isFailed_flag_of_knows (Directory.Knows.ensureLoaded ?_ ?_ tried.world)
          · rw [hdialled.directory]
            exact h.preferred
          · rw [hdialled.directory]
            exact h.fits
      · cases hr

/-- When connecting runs out of endpoints, every endpoint has failed. -/
theorem Known.exhausted (h : Known c) (hclosed : c.channel.isConnected = false)
    (hr : Client.connect true c = .error (.endpointsExhausted url last) c') :
    Exhausted c' ∧ c'.directory.url = url := by
  rw [connect_of_closed hclosed, recording] at hr
  cases hf : failover c with
  | ok _ c'' =>
      rw [hf] at hr
      cases hr
  | error e c'' =>
      rw [hf] at hr
      cases hr
      obtain ⟨hexhausted, hurl⟩ := h.exhausted_of_failover hclosed hf
      exact ⟨hexhausted.congr rfl rfl rfl, hurl⟩

end

/-- How connecting with failover works out for a client whose channel is closed. -/
structure FailsOver (c : Client) : Prop where
  /-- No address is dialled twice. -/
  distinct : (order c).Pairwise fun a b => sameAddress b a = false
  /-- The addresses of the list are dialled up to the first one that answers or fails for good. -/
  walks : ∃ failures rest, Walked none (walkDirectory c failures) c.world (order c) failures rest
    (outcome (connect true c)) (finalState (connect true c))
  /-- If there is none left, connecting fails as the last dial did, or, where nothing was dialled,
  as one that is refused. -/
  kind : ∀ failures, Walked none (walkDirectory c failures) c.world (order c) failures []
      (outcome (connect true c)) (finalState (connect true c)) →
    ∃ e, outcome (connect true c) = .error e ∧
      e.kind = (failures.getLast?.map (·.2.kind)).getD .connectRefusedOrOther
  /-- Once there is none left connecting fails at once, whatever changes outside, and so it goes on:
  only the text of the failure is remembered. -/
  stable : ∀ url last c', connect true c = .error (.endpointsExhausted url last) c' →
    ∀ c'' : Client, c''.channel = c'.channel → c''.handle = c'.handle →
      c''.directory = c'.directory →
      connect true c'' = .error (.endpointsExhausted url none)
        { c'' with lastError := some (RpcError.endpointsExhausted url none).message }

/-- Connecting with failover dials the preferred endpoint, unless it has failed, and then the
endpoints of the directory that have not, each address once and in order, up to the first that
settles it; exactly those that could not be reached are marked; and when none is left it stays like
that. -/
theorem Reachable.failsOver {options : ClientOptions} {c : Client} (h : Reachable options c)
    (hclosed : c.channel.isConnected = false) : FailsOver c where
  distinct := pairwise_eraseDupsBy _
  walks := connect_walks hclosed
  kind := by
    intro failures hwalked
    refine ⟨_, hwalked.ends, ?_⟩
    cases failures.getLast? <;> rfl
  stable := by
    intro url last c' hr c'' hchannel hhandle hdirectory
    have hknown := (known_invariant options).reachable h
    obtain ⟨hexhausted, rfl⟩ := hknown.exhausted hclosed hr
    rw [← hdirectory]
    exact (hexhausted.congr hchannel hhandle hdirectory).connect

/-- The record of a client that is configured for `a`. It names some endpoints more than once. -/
def listing : Json :=
  let named (hostName : String) : RedirectTarget := ⟨hostName, none, 1⟩
  .array [Failover.record "http://a:1" ⟨named "b", ["C", "c", "d", "c", "D"].map named⟩]

/-- A client that has this record, and that neither `a` nor `b` answers. -/
def scattered : Client :=
  let refused : Cued Dial := ⟨.refused World.unanswered, false⟩
  fresh ⟨.ofHost "a" 1 false, 1000, false, none, 0, 0⟩
    { dials := [refused, refused, ⟨.answered ⟨false, [], [], []⟩, false⟩]
      pauses := []
      cancelled := false
      store := .memory [(Failover.key, listing)] none none
      trace := [] }

/-- The client after a call, for which `C` was reached. -/
def gathered : Client := perform (.call "/" .null true) scattered

/-- However often and in whatever letters an address is listed, it is dialled once; and neither the
configured address nor the first one of the list, which have failed, is dialled again. -/
theorem failsOver_of_gathered :
    gathered.directory.endpoints = [⟨"b", 1, true⟩, .fresh "C" 1, .fresh "c" 1, .fresh "d" 1,
        .fresh "c" 1, .fresh "D" 1] ∧
      gathered.directory.isFailed "a" 1 = true ∧ gathered.channel.isConnected = false ∧
      order gathered = [("C", 1), ("d", 1)] ∧ FailsOver gathered := by
  have hgathered : Reachable scattered.options gathered := .perform _ (.fresh _ rfl)
  -- The run is evaluated once for all of these.
  have hrun : gathered.directory.endpoints = [⟨"b", 1, true⟩, .fresh "C" 1, .fresh "c" 1,
        .fresh "d" 1, .fresh "c" 1, .fresh "D" 1] ∧
      gathered.directory.isFailed "a" 1 = true ∧ gathered.channel.isConnected = false ∧
      order gathered = [("C", 1), ("d", 1)] := by decide +kernel
  obtain ⟨hlisted, hfailed, hclosed, horder⟩ := hrun
  exact ⟨hlisted, hfailed, hclosed, horder, Reachable.failsOver hgathered hclosed⟩

end Client

end ClusterRpc
