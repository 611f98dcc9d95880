import ClusterRpc.Proofs.Connecting
import ClusterRpc.Proofs.Extension
import ClusterRpc.Proofs.Ledger
import ClusterRpc.Proofs.Reachable

/-!
# What a client learns from an endpoint stays there

A request is written to the endpoint that the handle names, with the cookies that were learnt from
that endpoint and no others, and a handle counts as logged in only where a login was accepted. The
connection, the handle and the directory change apart from each other; the ledger of the trace says
how they have to agree.
-/

namespace ClusterRpc

/-- What a ledger takes no notice of. -/
def Event.isAside : Event → Bool :=
  isAmong [.get, .set, .attempt, .deliver, .pause, .cancel, .failure, .follow]

namespace Session

variable {s : Session} {authenticated : Bool}

theorem readLine_authenticated (line : Text) :
    readLine { s with authenticated } line = { s.readLine line with authenticated } := by
  simp only [readLine]
  split
  · rfl
  · split
    · simp only [storeCookie]
      split
      · rfl
      · split <;> rfl
    · split
      · split <;> rfl
      · rfl

/-- Header blocks say nothing about logins. -/
theorem readHeaders_authenticated (block : Bytes) :
    readHeaders { s with authenticated } block = { s.readHeaders block with authenticated } := by
  simp only [readHeaders]
  generalize Text.splitWhere _ (Utf8.lossy block) = lines
  induction lines generalizing s with
  | nil => rfl
  | cons line lines ih => rw [List.foldl_cons, readLine_authenticated, ih, List.foldl_cons]

end Session

namespace RecordStream

variable {stream : RecordStream}

theorem block?_eq_some {block : Bytes} (h : stream.block? = some block) :
    stream.headPending = true ∧ ∃ body, splitHead stream.buffer.bytes = some (block, body) := by
  rw [block?] at h
  split at h
  · rename_i hpending hopening
    cases h
    exact ⟨hpending, _, (Opening.of_eq_headed_iff.1 hopening).2⟩
  · cases h

theorem drain_session (session : Session) :
    (stream.drain session).2.2 = stream.block?.elim session session.readHeaders := by
  rcases stream with ⟨buffer, _ | _⟩
  · rfl
  · simp only [drain, passHead, block?, if_true]
    cases Opening.of buffer.bytes <;> rfl

/-- A stream that is still before its header block has not lost anything. -/
theorem buffer_of_drain {session : Session} (h : (stream.drain session).2.1.headPending = true) :
    stream.headPending = true ∧ (stream.drain session).2.1.buffer = stream.buffer := by
  rcases stream with ⟨buffer, _ | _⟩
  · cases h
  · simp only [drain, passHead, if_true] at h ⊢
    cases ho : Opening.of buffer.bytes with
    | undecided => exact ⟨trivial, rfl⟩
    | headless => simp [ho] at h
    | headed head body => simp [ho] at h

end RecordStream

namespace Ledger

/-- The handle that a ledger describes. -/
def handle? (L : Ledger) : Option Handle :=
  L.holder.map fun (hostName, port) =>
    ⟨hostName, port, { L.session with authenticated := L.marked }⟩

/-- Which events are in order, given those before them. A request goes to the endpoint of the handle
and sends the cookies it has learnt; only its octets are written; a header block that is taken in is
that of the response of that endpoint; a reply is one that was heard of it; and no handle is marked
that is not logged in. -/
def Justified (address : ControllerAddress) (L : Ledger) : Event → Prop
  | .request uri h frame => L.isOpen = true ∧ L.peer = L.holder ∧ L.handle? = some h ∧
      ∃ body, frame = .post (address.requestUri uri) body h.hostName h.port L.session
  | .write bytes => L.isOpen = true ∧ L.peer = L.holder ∧ bytes <+: L.unsent
  | .learn block => L.peer = L.holder ∧ ∃ body, splitHead L.received = some (block, body)
  | .reply uri r => L.peer = L.holder ∧ L.Heard uri r
  | .mark authenticated => authenticated = true → L.holder ∈ L.logins
  | _ => True

variable {address : ControllerAddress} {L : Ledger} {new : List Event}

theorem note_aside {e : Event} (h : e.isAside = true) : L.note e = L := by
  cases e <;> first | rfl | cases h

theorem notes_aside (h : new.all Event.isAside = true) : L.notes new = L := by
  induction new with
  | nil => rfl
  | cons e new ih =>
      rw [List.all_cons, Bool.and_eq_true] at h
      rw [notes_cons, note_aside h.1, ih h.2]

theorem justified_of_isAside (L : Ledger) (e : Event) (h : e.isAside = true) :
    L.Justified address e := by
  cases e <;> trivial

theorem justified_of_isIntake (L : Ledger) (e : Event) (h : e.isIntake = true) :
    L.Justified address e := by
  cases e <;> trivial

theorem justified_of_isOutput {e : Event} (hopen : L.isOpen = true) (hpeer : L.peer = L.holder)
    (h : e.isOutput = true) (hfits : L.Fits e) : L.Justified address e := by
  cases e with
  | write bytes => exact ⟨hopen, hpeer, hfits⟩
  | cancel => trivial
  | _ => cases h

/-- Only the cookies of a session are sent. -/
theorem post_session {uri host : String} {payload : Bytes} {port : Nat} {s t : Session}
    (h : s.cookies = t.cookies) :
    RequestFrame.post uri payload host port s = .post uri payload host port t := by
  simp only [RequestFrame.post, Session.cookieHeader, h]

@[simp] theorem notes_ofCue (cancels : Bool) : L.notes (Event.ofCue cancels) = L :=
  notes_aside (Event.all_ofCue rfl cancels)

@[simp] theorem admits_ofCue (cancels : Bool) :
    L.Admits (Justified address) (Event.ofCue cancels) :=
  admits_of_all (Event.all_ofCue rfl cancels) justified_of_isAside

theorem handle?_adopt (w : World) (hostName : String) (port : Nat) :
    (w.emit (.adopt hostName port)).ledger.handle? = some (.fresh hostName port) := by
  rw [World.ledger_emit]
  rfl

theorem handle?_eq_some {h : Handle} (hL : L.handle? = some h) :
    L.holder = some (h.hostName, h.port) ∧
      h.session = { L.session with authenticated := L.marked } := by
  rw [handle?, Option.map_eq_some_iff] at hL
  obtain ⟨⟨hostName, port⟩, hholder, rfl⟩ := hL
  exact ⟨hholder, rfl⟩

/-- What a handle learns is what its ledger learns. -/
theorem handle?_learn {h : Handle} (hL : L.handle? = some h) (block : Option Bytes) :
    (L.notes (block.map .learn).toList).handle? =
      some { h with session := block.elim h.session h.session.readHeaders } := by
  cases block with
  | none => exact hL
  | some block =>
      obtain ⟨hholder, hsession⟩ := handle?_eq_some hL
      have hlearnt : (L.note (.learn block)).session = L.session.readHeaders block := by
        simp [session, note]
      have hholder' : (L.note (.learn block)).holder = some (h.hostName, h.port) := hholder
      rw [Option.elim_some, hsession, Session.readHeaders_authenticated, ← hlearnt]
      change (L.note (.learn block)).handle? = _
      rw [handle?, hholder']
      rfl

theorem handle?_ofResult (uri : String) (result : Except RpcError Reply) :
    (L.note (.ofResult uri result)).handle? = L.handle? := by
  cases result with
  | error e => rfl
  | ok r =>
      simp only [Event.ofResult, note]
      split <;> rfl

end Ledger

namespace Client

/-- The client is as its trace says: everything that happened was in order, and the handle and the
connection are those of the ledger. -/
structure Sound (address : ControllerAddress) (c : Client) : Prop where
  controller : c.options.controller = address
  admits : Ledger.blank.Admits (Ledger.Justified address) c.world.trace
  handle : ∀ h, c.handle = some h → c.world.ledger.handle? = some h
  opened : c.channel.isConnected = true → c.world.ledger.isOpen = true ∧
    c.world.ledger.peer = c.world.ledger.holder ∧ c.handle.isSome = true

section

variable {address : ControllerAddress} {c c' : Client}

/-- After more that is in order. -/
theorem Sound.extend {new : List Event} (h : Sound address c) (hoptions : c'.options = c.options)
    (htrace : c'.world.trace = c.world.trace ++ new)
    (hadmits : c.world.ledger.Admits (Ledger.Justified address) new)
    (hhandle : ∀ h, c'.handle = some h → (c.world.ledger.notes new).handle? = some h)
    (hopened : c'.channel.isConnected = true → (c.world.ledger.notes new).isOpen = true ∧
      (c.world.ledger.notes new).peer = (c.world.ledger.notes new).holder ∧
      c'.handle.isSome = true) : Sound address c' := by
  have hledger := World.ledger_of_trace htrace
  refine ⟨by rw [hoptions, h.controller], ?_, by rwa [hledger], by rwa [hledger]⟩
  rw [htrace]
  exact Ledger.admits_append.2 ⟨h.admits, hadmits⟩

/-- After something that makes no difference. -/
theorem Sound.aside (h : Sound address c) (hoptions : c'.options = c.options)
    (hchannel : c'.channel.isConnected = true → c.channel.isConnected = true)
    (hhandle : c'.handle = c.handle) (hgrows : c.world.Grows Event.isAside c'.world) :
    Sound address c' := by
  obtain ⟨new, htrace, hall⟩ := hgrows
  refine h.extend hoptions htrace (Ledger.admits_of_all hall Ledger.justified_of_isAside) ?_ ?_
  · rw [Ledger.notes_aside hall, hhandle]
    exact h.handle
  · rw [Ledger.notes_aside hall, hhandle]
    exact fun hopen => h.opened (hchannel hopen)

theorem hangUp_channel (c : Client) : c.hangUp.channel = .disconnected := by
  rcases c with ⟨options, channel, directory, handle, lastError, delivered, world⟩
  cases channel <;> rfl

theorem Sound.hangUp (h : Sound address c) : Sound address c.hangUp := by
  refine h.extend rfl c.hangUp_trace ?_ ?_ ?_
  · split <;> simp [Ledger.Admits, Ledger.Justified]
  · intro h' hh
    rw [← h.handle h' hh]
    split <;> rfl
  · rw [hangUp_channel]
    rintro ⟨⟩

theorem Sound.close (h : Sound address c) : Sound address c.close :=
  ⟨h.hangUp.controller, h.hangUp.admits, by rintro h' ⟨⟩, fun hopen => by
    rw [show c.close.channel = _ from c.hangUp_channel] at hopen
    cases hopen⟩

/-- A dial that is answered leaves the handle on the endpoint; the handle of before stays if it is
the one for that endpoint, and after a dial that fails. -/
theorem Sound.dial (h : Sound address c) (hostName : String) (port : Nat) :
    Sound address (finalState (c.dial hostName port)) := by
  have hup := h.hangUp
  obtain ⟨cancels, htrace⟩ :=
    c.hangUp.world.connect_trace hostName port c.options.transportSettings
  rw [dial_eq]
  rcases hr : c.hangUp.world.connect hostName port c.options.transportSettings with
    ⟨e | transport, w⟩ <;> rw [hr] at htrace
  · refine hup.extend rfl htrace ⟨trivial, ?_⟩ ?_ ?_
    · exact Ledger.admits_append.2 ⟨Ledger.admits_ofCue cancels, trivial⟩
    · intro h' hh
      rw [← hup.handle h' hh, Ledger.notes_cons, Ledger.notes_append, Ledger.notes_ofCue]
      rfl
    · rintro ⟨⟩
  · -- The ledger once the dial is answered, before the handle is looked at.
    let L : Ledger := { c.hangUp.world.ledger with
      peer := some (hostName, port), isOpen := true, asked := none, received := [], unsent := [] }
    have hL : w.ledger = L := by
      rw [World.ledger_of_trace htrace, Ledger.notes_cons, Ledger.notes_append, Ledger.notes_ofCue]
      rfl
    have hadmits : Ledger.blank.Admits (Ledger.Justified address) w.trace := by
      rw [show w.trace = _ from htrace]
      exact Ledger.admits_append.2 ⟨hup.admits, trivial,
        Ledger.admits_append.2 ⟨Ledger.admits_ofCue cancels, trivial, trivial⟩⟩
    simp only [finalState, takeHandle]
    split
    · rename_i hat
      have hkeep (h' : Handle) (hh : c.handle = some h') : w.ledger.handle? = some h' := by
        rw [hL, ← hup.handle h' hh]
        rfl
      refine ⟨hup.controller, hadmits, hkeep, fun _ => ?_⟩
      cases hh : c.handle with
      | none => simp [hh] at hat
      | some h' =>
          obtain ⟨hholder, -⟩ := Ledger.handle?_eq_some (hkeep h' hh)
          rw [hh, Option.any_some, Handle.isAt, Bool.and_eq_true, beq_iff_eq, beq_iff_eq] at hat
          refine ⟨by rw [hL], ?_, rfl⟩
          rw [hholder, hL, hat.1, hat.2]
    · refine ⟨hup.controller, ?_, ?_, fun _ => ?_⟩
      · exact Ledger.admits_append.2 ⟨hadmits, trivial, trivial⟩
      · rintro h' ⟨⟩
        exact Ledger.handle?_adopt ..
      · simp only [note, World.ledger_emit, hL]
        exact ⟨rfl, rfl, rfl⟩

theorem searching_sound : Searching (Sound address) where
  dialPreferred := fun _ h => h.dial ..
  dialUntried := fun _ _ _ h => h.dial ..
  load := fun _ h => h.aside rfl id rfl (Directory.grows_ensureLoaded rfl ..)
  flag := fun _ _ _ _ h => h.aside rfl id rfl (.refl _)

theorem keeps_ensureConnected (useRedirect : Bool) :
    Keeps (Sound address) (ensureConnected useRedirect) :=
  keeps_of_finalState fun _ => searching_sound.ensureConnected useRedirect

theorem Sound.takeHandle (h : Sound address c) (hclosed : c.channel.isConnected = false)
    (hostName : String) (port : Nat) : Sound address (c.takeHandle hostName port) := by
  rw [Client.takeHandle]
  split
  · exact h
  · refine ⟨h.controller, Ledger.admits_append.2 ⟨h.admits, trivial, trivial⟩, ?_, ?_⟩
    · rintro h' ⟨⟩
      exact Ledger.handle?_adopt ..
    · intro hopen
      rw [show c.channel.isConnected = true from hopen] at hclosed
      cases hclosed

theorem Sound.followRedirect (h : Sound address c) (uri : String) (targets : RedirectTargets) :
    Sound address (followRedirect uri targets c) := by
  have hgrows : c.world.Grows Event.isAside
      (c.directory.rememberRedirect targets (c.world.emit (.follow uri targets))).2.2 :=
    .trans (World.grows_emit rfl) (Directory.grows_rememberRedirect rfl (fun _ => rfl) ..)
  have hremember : Sound address { c with
      directory := (c.directory.rememberRedirect targets (c.world.emit (.follow uri targets))).2.1
      world := (c.directory.rememberRedirect targets (c.world.emit (.follow uri targets))).2.2 } :=
    h.aside rfl id rfl hgrows
  refine hremember.hangUp.takeHandle ?_ _ _
  rw [hangUp_channel]
  rfl

/-! ## Exchanges -/

/-- The ledger has the acceptance of a login in it, if `reply` is one. -/
def Recorded (uri : String) (reply : Reply) (c : Client) : Prop :=
  uri = loginUri → reply.isOk = true → c.world.ledger.holder ∈ c.world.ledger.logins

/-- After an exchange the handle is the one of before, which has taken in the header block of the
response. An accepted login is on record. -/
theorem Sound.transact (h : Sound address c) (hopen : c.channel.isConnected = true) (uri : String)
    (body : Bytes) : Sound address (finalState (transact uri body c)) ∧
      ∀ r, outcome (transact uri body c) = .ok r →
        Recorded uri r (finalState (transact uri body c)) := by
  obtain ⟨hisOpen, hpeer, hhandle⟩ := h.opened hopen
  obtain ⟨h', hh⟩ := Option.isSome_iff_exists.1 hhandle
  obtain ⟨hholder, hsession⟩ := Ledger.handle?_eq_some (h.handle h' hh)
  obtain ⟨frame, sent, heard, block, world, hframe, ha, hfinal, htrace⟩ :=
    transact_spec uri body hopen hh
  generalize outcome (Client.transact uri body c) = result at ha htrace ⊢
  let L := c.world.ledger
  -- The ledger before the response is taken in: the handle is still the one of before.
  let L' := L.answered uri frame sent heard
  have hL' : L.notes (.request uri h' frame :: (sent ++ (heard ++ [.shutdown]))) = L' :=
    Ledger.notes_answered ha
  have hlearnt := Ledger.handle?_learn (L := L') (h.handle h' hh) block
  have hledger : world.ledger =
      (L'.notes (block.map .learn).toList).note (.ofResult uri result) := by
    rw [World.ledger_of_trace htrace, Ledger.notes_append, Ledger.notes_append, hL']
    rfl
  have hsame : (L'.notes (block.map .learn).toList).peer =
      (L'.notes (block.map .learn).toList).holder := by
    cases block <;> exact hpeer
  rw [hfinal]
  constructor
  · refine h.extend rfl htrace ?_ ?_ ?_
    · rw [Ledger.admits_append, Ledger.admits_append, hL']
      refine ⟨Ledger.admits_answered ha ?_ ?_ ?_ fun _ => trivial, ?_, ?_, trivial⟩
      · refine ⟨hisOpen, hpeer, h.handle h' hh, body, ?_⟩
        rw [hframe, h.controller]
        exact Ledger.post_session (by rw [hsession])
      · exact fun unsent e => Ledger.justified_of_isOutput hisOpen hpeer
      · exact Ledger.justified_of_isIntake
      · cases block with
        | none => trivial
        | some block =>
            have hblock := ha.block_heard block rfl
            rw [Response.block?, Option.map_eq_some_iff] at hblock
            obtain ⟨⟨_, rest⟩, hsplit, rfl⟩ := hblock
            exact ⟨⟨hpeer, rest, hsplit⟩, trivial⟩
      · cases result with
        | error e => trivial
        | ok r => exact ⟨hsame, Ledger.heard_answered ha⟩
    · rintro _ ⟨⟩
      rw [← World.ledger_of_trace htrace, hledger, Ledger.handle?_ofResult]
      exact hlearnt
    · rintro ⟨⟩
  · rintro r rfl rfl hok
    simp only [hledger, Event.ofResult, Ledger.note, hok, and_self, if_true, List.mem_append, hsame,
      List.mem_singleton, or_true]

theorem ensures_ensureConnected (useRedirect : Bool) :
    Ensures (Sound address) (ensureConnected useRedirect)
      (fun _ c => Sound address c ∧ c.channel.isConnected = true) (Sound address) := by
  intro c h
  have hkeeps := keeps_ensureConnected useRedirect c h
  cases hr : ensureConnected useRedirect c with
  | ok a c' =>
      rw [hr] at hkeeps
      exact ⟨hkeeps, isConnected_of_ensureConnected hr⟩
  | error e c' =>
      rw [hr] at hkeeps
      exact hkeeps

theorem ensures_exchange (uri : String) (body : Bytes) (useRedirect : Bool) :
    Ensures (Sound address) (exchange uri body useRedirect)
      (fun r c => Sound address c ∧ Recorded uri r c) (Sound address) := by
  refine (ensures_ensureConnected useRedirect).bind fun _ => ?_
  rintro c ⟨h, hopen⟩
  obtain ⟨hsound, hrecorded⟩ := h.transact hopen uri body
  cases hr : transact uri body c with
  | ok r c' =>
      rw [hr] at hsound hrecorded
      exact ⟨hsound, hrecorded r rfl⟩
  | error e c' =>
      rw [hr] at hsound
      exact hsound

theorem Sound.setAuthenticated (h : Sound address c) {authenticated : Bool}
    (hlogin : authenticated = true → c.world.ledger.holder ∈ c.world.ledger.logins) :
    Sound address (c.setAuthenticated authenticated) := by
  rw [Client.setAuthenticated]
  split
  · exact h
  · rename_i h' hh
    have htrace : (c.note (.mark authenticated)).world.trace =
        c.world.trace ++ [.mark authenticated] := rfl
    refine h.extend rfl htrace ⟨hlogin, trivial⟩ ?_ ?_
    · rintro _ ⟨⟩
      obtain ⟨hholder, hsession⟩ := Ledger.handle?_eq_some (h.handle h' hh)
      rw [hsession]
      simp only [Ledger.handle?, Ledger.notes_cons, Ledger.notes_nil, Ledger.note, hholder]
      rfl
    · intro hopen
      obtain ⟨hisOpen, hpeer, -⟩ := h.opened hopen
      exact ⟨hisOpen, hpeer, rfl⟩

theorem exchanging_sound (allowRedirect : Bool) :
    Exchanging allowRedirect (Sound address) fun uri r c => Sound address c ∧ Recorded uri r c where
  exchange := fun uri body => ensures_exchange uri body allowRedirect
  kept := fun _ _ _ h => h.1
  followRedirect := fun _ uri targets _ h => h.followRedirect uri targets
  accept := fun _ _ hok h => h.1.setAuthenticated fun _ => h.2 rfl hok

/-! ## Subscriptions -/

/-- A request is made, and all of it is still to be written. -/
structure Asked (address : ControllerAddress) (frame : RequestFrame) (c : Client) : Prop where
  sound : Sound address c
  isConnected : c.channel.isConnected = true
  received : c.world.ledger.received = []
  unsent : c.world.ledger.unsent = frame.head ++ frame.body

/-- A stream and the connection it is read from: before its header block it has all that was
received. -/
structure Streaming (address : ControllerAddress) (stream : RecordStream) (c : Client) : Prop where
  sound : Sound address c
  isConnected : c.channel.isConnected = true
  received : stream.headPending = true → c.world.ledger.received = stream.buffer.bytes

theorem ensures_frame (uri : String) (body : Bytes) :
    Ensures (fun c => Sound address c ∧ c.channel.isConnected = true) (frame uri body)
      (Asked address) (Sound address) := by
  rintro c ⟨h, hopen⟩
  obtain ⟨hisOpen, hpeer, hhandle⟩ := h.opened hopen
  obtain ⟨h', hh⟩ := Option.isSome_iff_exists.1 hhandle
  obtain ⟨hholder, hsession⟩ := Ledger.handle?_eq_some (h.handle h' hh)
  simp only [frame, hh]
  refine ⟨h.extend rfl rfl ⟨⟨hisOpen, hpeer, h.handle h' hh, body, ?_⟩, trivial⟩ h.handle h.opened,
    hopen, ?_, ?_⟩
  · rw [h.controller]
    exact Ledger.post_session (by rw [hsession])
  · simp only [note, World.ledger_emit]
    rfl
  · simp only [note, World.ledger_emit]
    rfl

theorem ensures_send (frame : RequestFrame) : Ensures (Asked address frame) (send frame)
    (fun _ => Streaming address .fresh) (Sound address) := by
  rintro c ⟨h, hopen, hreceived, hunsent⟩
  obtain ⟨hisOpen, hpeer, hhandle⟩ := h.opened hopen
  obtain ⟨sent, channel, world, hsent, hpre, htrace, hopen', hcases⟩ := send_connected frame hopen
  have hledger := World.ledger_of_trace htrace
  rw [Ledger.notes_output hsent] at hledger
  have hsound : Sound address { c with channel, world } := by
    refine h.extend rfl htrace ?_ ?_ ?_
    · exact Ledger.admits_output hsent (by rwa [hunsent])
        fun unsent e => Ledger.justified_of_isOutput hisOpen hpeer
    · rw [Ledger.notes_output hsent]
      exact h.handle
    · rw [Ledger.notes_output hsent]
      exact fun _ => h.opened hopen
  rcases hcases with ⟨hsend, -⟩ | ⟨e, hsend⟩
  · rw [hsend]
    refine ⟨hsound, hopen', fun _ => ?_⟩
    rw [hledger]
    exact hreceived
  · rw [hsend]
    have hclosed := hsound.hangUp
    rwa [hangUp_eq hopen'] at hclosed

theorem Sound.read (h : Sound address c) (hopen : c.channel.isConnected = true) :
    Sound address (c.withLink (finalState (Link.read readChunk c.link))) ∧
      (c.withLink (finalState (Link.read readChunk c.link))).channel.isConnected = true ∧
      (finalState (Link.read readChunk c.link)).world.ledger.received =
        c.world.ledger.received ++
          match outcome (Link.read readChunk c.link) with
          | .ok bytes => bytes
          | .error _ => [] := by
  rcases c with ⟨options, channel, directory, handle, lastError, delivered, world⟩
  cases channel with
  | connected endpoint t =>
      obtain ⟨t', w', heard, hfinal, htrace, hall, hoctets⟩ :=
        Link.read_connected readChunk endpoint t world
      simp only [link, hfinal]
      refine ⟨h.extend rfl htrace ?_ ?_ ?_, rfl, ?_⟩
      · exact Ledger.admits_of_all hall Ledger.justified_of_isIntake
      · rw [Ledger.notes_intake hall]
        exact h.handle
      · rw [Ledger.notes_intake hall]
        exact fun _ => h.opened hopen
      · have hreceived : w'.ledger.received =
            world.ledger.received ++ heard.flatMap Event.octetsRead := by
          rw [World.ledger_of_trace htrace, Ledger.notes_intake hall]
        exact hreceived.trans (congrArg _ hoctets)
  | _ => simp [Channel.isConnected] at hopen

/-- The handle may take in a header block of what was received. -/
theorem Sound.learn (h : Sound address c) (hopen : c.channel.isConnected = true) {handle : Handle}
    (hh : c.handle = some handle) {block : Option Bytes}
    (hblock : ∀ b, block = some b → ∃ body, splitHead c.world.ledger.received = some (b, body)) :
    Sound address (c.learn handle block (block.elim handle.session handle.session.readHeaders)) ∧
      (c.learn handle block
        (block.elim handle.session handle.session.readHeaders)).world.ledger.received =
          c.world.ledger.received := by
  obtain ⟨hisOpen, hpeer, -⟩ := h.opened hopen
  obtain ⟨world, heq, htrace⟩ :=
    c.learn_eq handle block (block.elim handle.session handle.session.readHeaders)
  have hlearnt := Ledger.handle?_learn (h.handle handle hh) block
  rw [heq]
  constructor
  · refine h.extend rfl htrace ?_ ?_ ?_
    · cases block with
      | none => trivial
      | some b => exact ⟨⟨hpeer, hblock b rfl⟩, trivial⟩
    · rintro _ ⟨⟩
      exact hlearnt
    · cases block <;> exact fun _ => ⟨hisOpen, hpeer, rfl⟩
  · rw [World.ledger_of_trace htrace]
    cases block <;> rfl

theorem Sound.handOverAll (h : Sound address c) (subscriber : Subscriber)
    (records : List (Except RpcError Record)) :
    Sound address (handOverAll subscriber records c).2 ∧
      (handOverAll subscriber records c).2.world.ledger = c.world.ledger := by
  have hgrows (c : Client) (record : Record) :
      c.world.Grows Event.isAside (c.handOver subscriber record).world :=
    (World.grows_emit rfl).trans (World.grows_cue rfl _)
  have hledger (c : Client) (record : Record) :
      (c.handOver subscriber record).world.ledger = c.world.ledger := by
    obtain ⟨new, htrace, hall⟩ := hgrows c record
    rw [World.ledger_of_trace htrace, Ledger.notes_aside hall]
  have hsound {c : Client} (record : Record) (h : Sound address c) :
      Sound address (c.handOver subscriber record) := h.aside rfl id rfl (hgrows c record)
  fun_induction Client.handOverAll subscriber records c with
  | case1 c => exact ⟨h, rfl⟩
  | case2 e _ c => exact ⟨h, rfl⟩
  | case3 record rest c => exact ⟨hsound record h, hledger c record⟩
  | case4 record rest c => exact ⟨hsound record h, hledger c record⟩
  | case5 record rest c c' _ _ ih =>
      obtain ⟨h', hledger'⟩ := ih (hsound record h)
      exact ⟨h', hledger'.trans (hledger c record)⟩

section

variable {stream : RecordStream} {l : Link} (subscriber : Subscriber)

theorem Streaming.feed {chunk : Bytes} (h : Streaming address stream c)
    (hread : Link.read readChunk c.link = .ok chunk l) :
    Streaming address (stream.feed chunk) (c.withLink l) := by
  obtain ⟨hsound, hopen, hreceived⟩ := h.sound.read h.isConnected
  rw [hread] at hsound hopen hreceived
  refine ⟨hsound, hopen, fun hpending => ?_⟩
  rw [show (c.withLink l).world.ledger.received = _ from hreceived, h.received hpending]
  rfl

theorem Streaming.retry {e : TransportError} (h : Streaming address stream c)
    (hread : Link.read readChunk c.link = .error e l) :
    Streaming address stream (c.withLink l) := by
  obtain ⟨hsound, hopen, hreceived⟩ := h.sound.read h.isConnected
  rw [hread] at hsound hopen hreceived
  refine ⟨hsound, hopen, fun hpending => ?_⟩
  rw [show (c.withLink l).world.ledger.received = _ from hreceived, h.received hpending]
  exact List.append_nil _

/-- What was fed is drained: the handle takes in the header block if it is there, and the records
are handed over. -/
theorem Streaming.drain {handle : Handle} {outcome : Option (Except RpcError StreamOutcome)}
    (h : Streaming address stream c) (hh : c.handle = some handle)
    (hd : handOverAll subscriber (stream.drain handle.session).1
      (c.learn handle stream.block? (stream.drain handle.session).2.2) = (outcome, c')) :
    Streaming address (stream.drain handle.session).2.1 c' := by
  obtain ⟨hlearnt, hreceived⟩ := h.sound.learn h.isConnected hh fun block hb => by
    obtain ⟨hpending, body, hsplit⟩ := RecordStream.block?_eq_some hb
    exact ⟨body, by rwa [h.received hpending]⟩
  rw [← RecordStream.drain_session] at hlearnt hreceived
  obtain ⟨hsound, hledger⟩ := hlearnt.handOverAll subscriber (stream.drain handle.session).1
  have hchannel := handOverAll_channel subscriber (stream.drain handle.session).1
    (c.learn handle stream.block? (stream.drain handle.session).2.2)
  rw [hd] at hsound hledger hchannel
  refine ⟨hsound, ?_, fun hpending => ?_⟩
  · rw [show c'.channel = _ from hchannel, learn_channel]
    exact h.isConnected
  · obtain ⟨hpending, hbuffer⟩ := RecordStream.buffer_of_drain hpending
    rw [show c'.world.ledger = _ from hledger, hreceived, h.received hpending, hbuffer]

theorem Streaming.pump (h : Streaming address stream c) :
    Sound address (finalState (pump subscriber stream c)) := by
  fun_induction Client.pump subscriber stream c with
  | case1 => exact h.sound
  | case2 stream c _ e l hread ht ih => exact ih (h.retry hread)
  | case3 stream c _ e l hread => exact (h.retry hread).sound
  | case4 stream c _ l hread => exact (h.feed hread).sound
  | case5 stream c _ chunk l hread => exact (h.feed hread).sound
  | case6 stream c _ chunk l hread hne handle hh fed drained c' c'' hd ih =>
      exact ih ((h.feed hread).drain subscriber hh hd)
  | case7 stream c _ chunk l hread hne handle hh fed drained c' outcome c'' hd =>
      exact ((h.feed hread).drain subscriber hh hd).sound
  | case8 stream c _ chunk l hread hne handle hh fed drained c' e c'' hd =>
      exact ((h.feed hread).drain subscriber hh hd).sound

end

end

/-! ## All that has happened -/

theorem sound_invariant (options : ClientOptions) :
    Invariant options (Sound options.controller) where
  fresh := by
    intro world htrace
    refine ⟨rfl, ?_, by rintro h ⟨⟩, by rintro ⟨⟩⟩
    rw [show (fresh options world).world.trace = [] from htrace]
    trivial
  elapse := fun c world htrace h => h.aside rfl id rfl (.of_trace_eq htrace)
  aside := fun c lastError delivered h => h.aside rfl id rfl (.refl _)
  close := fun c h => h.close
  ensureConnected := keeps_ensureConnected
  login := fun allowRedirect => (exchanging_sound allowRedirect).login
  request := fun uri payload allowRedirect => (exchanging_sound allowRedirect).request uri payload
  runStream := fun request body subscriber => keeps_runStream
    (fun c h => h.aside rfl id rfl (World.grows_emit rfl)) (exchanging_sound true).login
    (ensures_ensureConnected true) (ensures_frame request.uri body) ensures_send
    (fun c h => h.pump subscriber) (fun c h => h.hangUp)
  followRedirect := fun uri targets c h => h.followRedirect uri targets
  logout := fun c h => h.setAuthenticated (by rintro ⟨⟩)
  pause := fun c h => h.aside rfl id rfl (World.grows_pause rfl rfl c.world)
  refreshEndpoints := fun c h => h.aside rfl id rfl (Directory.grows_ensureLoaded rfl ..)

/-- What a trace tells about endpoints and what was learnt from them. -/
structure Isolated (address : ControllerAddress) (trace : List Event) : Prop where
  /-- A request is made for the endpoint of the handle, to which the connection is open; it names
  that endpoint, and sends the cookies that the handle has learnt since it was taken up. -/
  request : ∀ before uri h frame after, trace = before ++ .request uri h frame :: after →
    (Ledger.of before).isOpen = true ∧ (Ledger.of before).peer = some (h.hostName, h.port) ∧
      (Ledger.of before).holder = some (h.hostName, h.port) ∧
      ∃ body, frame =
        .post (address.requestUri uri) body h.hostName h.port (Ledger.of before).session
  /-- Nothing but the request made last is written, and to no other endpoint. -/
  write : ∀ before bytes after, trace = before ++ .write bytes :: after →
    (Ledger.of before).isOpen = true ∧ (Ledger.of before).peer = (Ledger.of before).holder ∧
      bytes <+: (Ledger.of before).unsent
  /-- What a handle has learnt are header blocks of responses of its own endpoint. -/
  learnt : ∀ before after, trace = before ++ after → ∀ lesson ∈ (Ledger.of before).lessons,
    lesson.peer = (Ledger.of before).holder ∧
      ∃ body, splitHead lesson.received = some (lesson.block, body)
  /-- A reply is read off what its own endpoint sent in answer to the request made last. -/
  reply : ∀ before uri r after, trace = before ++ .reply uri r :: after →
    (Ledger.of before).peer = (Ledger.of before).holder ∧ (Ledger.of before).Heard uri r
  /-- A handle counts as logged in only if its endpoint has accepted a login since it was taken up.
  -/
  marked : ∀ before after, trace = before ++ after → (Ledger.of before).marked = true →
    (Ledger.of before).holder ∈ (Ledger.of before).logins

/-- What the ledger of events that were in order is like. -/
structure Kept (L : Ledger) : Prop where
  lessons : ∀ lesson ∈ L.lessons, lesson.peer = L.holder ∧
    ∃ body, splitHead lesson.received = some (lesson.block, body)
  marked : L.marked = true → L.holder ∈ L.logins

theorem Kept.note {address : ControllerAddress} {L : Ledger} {e : Event} (h : Kept L)
    (he : L.Justified address e) : Kept (L.note e) := by
  cases e with
  | learn block =>
      refine ⟨fun lesson hmem => ?_, h.marked⟩
      rcases List.mem_append.1 hmem with hmem | hmem
      · exact h.lessons lesson hmem
      · obtain rfl := List.mem_singleton.1 hmem
        exact he
  | mark authenticated => exact ⟨h.lessons, he⟩
  | adopt hostName port => exact ⟨by simp [Ledger.note], by rintro ⟨⟩⟩
  | reply uri r =>
      rw [Ledger.note]
      split
      · exact ⟨h.lessons, fun hm => List.mem_append_left _ (h.marked hm)⟩
      · exact h
  | _ => exact ⟨h.lessons, h.marked⟩

theorem isolated_of_admits {address : ControllerAddress} {trace : List Event}
    (h : Ledger.blank.Admits (Ledger.Justified address) trace) : Isolated address trace := by
  have hkept (before after : List Event) (htrace : trace = before ++ after) :
      Kept (Ledger.of before) := by
    rw [htrace, Ledger.admits_append] at h
    exact h.1.preserves ⟨by simp [Ledger.blank], by rintro ⟨⟩⟩ fun L e => Kept.note
  refine ⟨?_, ?_, fun before after ht => (hkept before after ht).lessons, ?_,
    fun before after ht => (hkept before after ht).marked⟩
  · rintro before uri handle frame after rfl
    obtain ⟨hopen, hpeer, hhandle, hframe⟩ := h.at
    obtain ⟨hholder, -⟩ := Ledger.handle?_eq_some hhandle
    exact ⟨hopen, hpeer.trans hholder, hholder, hframe⟩
  · rintro before bytes after rfl
    exact h.at
  · rintro before uri r after rfl
    exact h.at

/-- Whatever operations a client has been through, and whatever answered it, what it learnt from one
endpoint was never sent to another. The handle it holds is the one its trace tells of, and if that
counts as logged in, its endpoint has accepted a login. -/
theorem Reachable.isolated {options : ClientOptions} {c : Client} (h : Reachable options c) :
    Isolated options.controller c.world.trace ∧ ∀ handle, c.handle = some handle →
      c.world.ledger.handle? = some handle ∧ (handle.session.authenticated = true →
        some (handle.hostName, handle.port) ∈ c.world.ledger.logins) := by
  have hsound := (sound_invariant options).reachable h
  have hisolated := isolated_of_admits hsound.admits
  refine ⟨hisolated, fun handle hh => ?_⟩
  have hhandle := hsound.handle handle hh
  obtain ⟨hholder, hsession⟩ := Ledger.handle?_eq_some hhandle
  refine ⟨hhandle, fun hauth => ?_⟩
  rw [← hholder]
  refine hisolated.marked c.world.trace [] (List.append_nil _).symm ?_
  rwa [hsession] at hauth

/-- A connection over which one response arrives, which sets a cookie. -/
def answering (cookie body : String) : Cued Dial :=
  let response := "Set-Cookie: id=" ++ cookie ++ "\n\n" ++ body
  ⟨.answered ⟨false, [⟨.data (octets response), false⟩], [], []⟩, false⟩

/-- A reply that names `b` as the leader. -/
def redirection : String :=
  "\x7b\"requestStatus\":\"Redirect\",\"leader\":\x7b\"hostname\":\"b\",\"port\":1\x7d\x7d"

/-- A client that has not done anything yet, and what its dials will meet. -/
def facing (dials : List (Cued Dial)) : Client :=
  fresh ⟨.ofHost "a" 1 false, 1000, false, some ⟨"u", "p"⟩, 0, 0⟩
    ⟨dials, [], false, .memory [] none none, []⟩

theorem reachable_facing (dials : List (Cued Dial)) :
    Reachable (facing dials).options (facing dials) := .fresh _ rfl

/-- A client that `a` redirects to `b`, which asks it to log in before it answers. -/
def travelling : Client :=
  facing [answering "1" redirection, answering "2" "\x7b\"requestStatus\":\"AuthRequired\"\x7d",
    answering "3" "\x7b\"requestStatus\":\"ok\"\x7d",
    answering "4" "\x7b\"requestStatus\":\"ok\"\x7d"]

/-- The client after a call. -/
def travelled : Client := perform (.call "/" .null true) travelling

/-- The requests among events, each with the handle that it is made for. -/
def requested (events : List Event) : List (String × Handle) :=
  events.filterMap fun
    | .request uri h _ => some (uri, h)
    | _ => none

/-- The cookie of `a` stays behind. The login is sent with the first cookie of `b`, and what was
asked at first with the second one. -/
theorem isolated_of_travelled :
    requested travelled.world.trace =
        [("/", .fresh "a" 1), ("/", .fresh "b" 1),
          (loginUri, ⟨"b", 1, ⟨[("id", "2")], none, false⟩⟩),
          ("/", ⟨"b", 1, ⟨[("id", "3")], none, true⟩⟩)] ∧
      travelled.handle = some ⟨"b", 1, ⟨[("id", "4")], none, true⟩⟩ ∧
      Isolated travelling.options.controller travelled.world.trace ∧
      some ("b", 1) ∈ travelled.world.ledger.logins := by
  have htravelled : Reachable travelling.options travelled := .perform _ (reachable_facing _)
  -- The run is evaluated once for both.
  have hrun : requested travelled.world.trace =
        [("/", .fresh "a" 1), ("/", .fresh "b" 1),
          (loginUri, ⟨"b", 1, ⟨[("id", "2")], none, false⟩⟩),
          ("/", ⟨"b", 1, ⟨[("id", "3")], none, true⟩⟩)] ∧
      travelled.handle = some ⟨"b", 1, ⟨[("id", "4")], none, true⟩⟩ := by decide +kernel
  obtain ⟨hisolated, hholds⟩ := Reachable.isolated htravelled
  exact ⟨hrun.1, hrun.2, hisolated, (hholds _ hrun.2).2 rfl⟩

end Client

end ClusterRpc
