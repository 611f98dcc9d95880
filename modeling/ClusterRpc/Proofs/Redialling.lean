import ClusterRpc.Proofs.Alternation
import ClusterRpc.Proofs.Patience

/-!
# Attempts that dial

Which endpoints have failed is kept from attempt to attempt. Before a subscription tries again after
a setback it asks the directory for an endpoint to try next, and drops all flags if there is none. So
the attempt that follows has something to dial, whatever was marked before; and nowhere else are
flags dropped.
-/

namespace ClusterRpc

/-! ## What a directory goes through -/

/-- The redirects that are followed in a trace. -/
def follows (trace : List Event) : List RedirectTargets :=
  trace.filterMap fun
    | .follow _ targets => some targets
    | _ => none

/-- Follows no redirect. -/
def Event.isUnfollowed : Event → Bool := isApart [.follow]

theorem follows_append (trace new : List Event) :
    follows (trace ++ new) = follows trace ++ follows new := List.filterMap_append

theorem follows_eq_nil {events : List Event} (h : events.all Event.isUnfollowed = true) :
    follows events = [] := by
  rw [follows, List.filterMap_eq_nil_iff]
  intro e he
  have hfollow := List.all_eq_true.1 h e he
  cases e <;> first | rfl | cases hfollow

/-- An exchange by itself follows no redirect. -/
theorem World.passage_unfollowed : Passage (Grows Event.isUnfollowed) where
  refl := .refl
  trans := .trans
  emit := fun _ e he => grows_emit (e.isApart_of_isAmong rfl he)
  cancel := fun _ => grows_emit rfl

namespace Directory

variable {d : Directory} {w : World}

/-- The redirect that a change takes over. -/
def Change.targets? : Change → Option RedirectTargets
  | .rememberRedirect targets => some targets
  | _ => none

theorem afterAll_append (d : Directory) (changes more : List (Change × World)) :
    d.afterAll (changes ++ more) = (d.afterAll changes).afterAll more := List.foldl_append

/-- Once the directory is loaded endpoints are marked without a further look at the store. -/
theorem flagAll_eq_afterAll (h : d.loaded = true) (addresses : List Address) (w : World) :
    d.flagAll addresses = d.afterAll (addresses.map fun a => (.markFailed a.1 a.2, w)) := by
  induction addresses generalizing d with
  | nil => exact d.flagAll_nil
  | cons a addresses ih =>
      have hmark : d.after (.markFailed a.1 a.2) w = d.flag a.1 a.2 := by
        rw [after, markFailed]
        dsimp only
        rw [ensureLoaded_of_loaded h]
      have hloaded : (d.flag a.1 a.2).loaded = true := h
      rw [flagAll_cons, ih hloaded, ← hmark]
      rfl

theorem ensureLoaded_cancelled (d : Directory) (w : World) :
    (d.ensureLoaded w).2.cancelled = w.cancelled := by
  simp only [ensureLoaded, load, World.getState]
  split
  · rfl
  · cases w.store.get Failover.key <;> rfl

theorem isFailed_resetFailures (d : Directory) (a : Address) :
    d.resetFailures.isFailed a.1 a.2 = false := by
  rw [Bool.eq_false_iff]
  intro hfailed
  obtain ⟨e, he, -, hfailed⟩ := isFailed_eq_true.1 hfailed
  rcases List.mem_append.1 he with he | he
  · rw [failed_resetFailures he] at hfailed
    cases hfailed
  · rw [List.mem_singleton.1 he] at hfailed
    cases hfailed

end Directory

namespace Client

/-- From one client to another no flags are dropped: the directory is loaded, endpoints are marked,
and it takes over the redirects that are followed. -/
def Retains (c c' : Client) : Prop :=
  ∃ new changes, c'.world.trace = c.world.trace ++ new ∧
    c'.directory = c.directory.afterAll changes ∧
    changes.filterMap (·.1.targets?) = follows new ∧
    ∀ change ∈ changes, change.1 ≠ .resetFailures

section

variable {c c' c'' c₀ : Client}

theorem Retains.trans (h : Retains c c') (k : Retains c' c'') : Retains c c'' := by
  obtain ⟨new, changes, htrace, hdirectory, htargets, hkept⟩ := h
  obtain ⟨new', changes', htrace', hdirectory', htargets', hkept'⟩ := k
  refine ⟨new ++ new', changes ++ changes', ?_, ?_, ?_, ?_⟩
  · rw [htrace', htrace, List.append_assoc]
  · rw [hdirectory', hdirectory, Directory.afterAll_append]
  · rw [List.filterMap_append, htargets, htargets', follows_append]
  · intro change hchange
    exact (List.mem_append.1 hchange).elim (hkept change) (hkept' change)

/-- After something that has nothing to do with the directory. -/
theorem Retains.aside (hdirectory : c'.directory = c.directory)
    (hgrows : c.world.Grows Event.isUnfollowed c'.world) : Retains c c' := by
  obtain ⟨new, htrace, hnew⟩ := hgrows
  exact ⟨new, [], htrace, hdirectory, (follows_eq_nil hnew).symm, by simp⟩

theorem Retains.refl (c : Client) : Retains c c := .aside rfl (.refl _)

/-- Endpoints are marked once the directory is loaded. -/
theorem Retains.of_flagged {new : List Event} {addresses : List Address}
    (htrace : c'.world.trace = c.world.trace ++ new) (hnew : follows new = [])
    (hdirectory : c'.directory = (c.directory.ensureLoaded c.world).1.flagAll addresses) :
    Retains c c' := by
  let marks := addresses.map fun a => (Directory.Change.markFailed a.1 a.2, c.world)
  have hmarks : ∀ change ∈ (.load, c.world) :: marks,
      change.1.targets? = none ∧ change.1 ≠ .resetFailures := by
    intro change hchange
    rcases List.mem_cons.1 hchange with rfl | hchange
    · exact ⟨rfl, Directory.Change.noConfusion⟩
    · obtain ⟨a, -, rfl⟩ := List.mem_map.1 hchange
      exact ⟨rfl, Directory.Change.noConfusion⟩
  refine ⟨new, (.load, c.world) :: marks, htrace, ?_, ?_, fun change h => (hmarks change h).2⟩
  · have hloaded := (c.directory.configured_ensureLoaded c.world).2.1
    rw [Directory.flagAll_eq_afterAll hloaded _ c.world] at hdirectory
    exact hdirectory
  · rw [hnew, List.filterMap_eq_nil_iff]
    exact fun change h => (hmarks change h).1

/-! ## One attempt -/

/-- A search marks what it dials in vain. -/
theorem retains_ensureConnected (c : Client) :
    Retains c (finalState (ensureConnected true c)) := by
  have hgrows := (grows_ensureConnected true c).mono (q := Event.isUnfollowed)
    (Event.isApart_of_isAmong rfl)
  rw [ensureConnected_eq] at hgrows ⊢
  split at hgrows
  · rw [if_pos ‹_›]
    exact .refl c
  · rw [if_neg ‹_›]
    obtain ⟨failures, rest, hwalked⟩ := failover_spec c
    have hdirectory := hwalked.flags
    rw [walkDirectory] at hdirectory
    split at hdirectory
    · obtain ⟨new, htrace, hnew⟩ := hgrows
      exact .of_flagged htrace (follows_eq_nil hnew) hdirectory
    · have hnone : failures = [] := by simp_all
      rw [hnone, List.map_nil, Directory.flagAll_nil] at hdirectory
      exact .aside hdirectory hgrows

theorem keeps_retains_of_retains {α : Type} {x : Action α}
    (h : ∀ c, Retains c (finalState (x c))) : Keeps (Retains c₀) x :=
  keeps_of_finalState fun c hc => hc.trans (h c)

section

variable {d : Directory}

theorem keeps_directory_onLink {α : Type} (x : Link.Action α) :
    Keeps (·.directory = d) (onLink x) := by
  intro c h
  simp only [onLink]
  cases x c.link <;> exact h

theorem keeps_directory_frame (uri : String) (body : Bytes) :
    Keeps (·.directory = d) (frame uri body) := by
  intro c h
  simp only [frame]
  cases c.handle <;> exact h

theorem keeps_directory_send (frame : RequestFrame) : Keeps (·.directory = d) (send frame) := by
  intro c h
  have hlink := keeps_directory_onLink (do Link.writeAll frame.head; Link.writeAll frame.body) c h
  simp only [send]
  cases hr : onLink (do Link.writeAll frame.head; Link.writeAll frame.body) c <;>
    rw [hr] at hlink <;> exact hlink

theorem learn_directory (c : Client) (handle : Handle) (block : Option Bytes) (session : Session) :
    (c.learn handle block session).directory = c.directory := by
  cases block <;> rfl

theorem keeps_directory_takeResponse (raw : Bytes) :
    Keeps (·.directory = d) (takeResponse raw) := by
  intro c h
  simp only [takeResponse]
  cases c.handle with
  | none => exact h
  | some handle =>
      dsimp only
      split <;> rename_i heq <;> split at heq <;> cases heq <;> exact (learn_directory ..).trans h

theorem keeps_directory_transact (uri : String) (body : Bytes) :
    Keeps (·.directory = d) (transact uri body) := by
  refine (keeps_directory_frame uri body).bind fun frame => Keeps.noting ?_ uri fun _ _ h => h
  refine (keeps_directory_send frame).bind fun _ => ?_
  exact ((keeps_directory_onLink _).closing fun _ h => h).bind keeps_directory_takeResponse

theorem handOverAll_directory (subscriber : Subscriber) (records : List (Except RpcError Record))
    (c : Client) : (handOverAll subscriber records c).2.directory = c.directory := by
  fun_induction handOverAll subscriber records c with
  | case1 | case2 | case3 | case4 => rfl
  | case5 record rest c c' _ _ ih => exact ih

theorem pump_directory (subscriber : Subscriber) (stream : RecordStream) (c : Client) :
    (finalState (pump subscriber stream c)).directory = c.directory := by
  have hhand {c c' : Client} {l : Link} {handle : Handle} {block : Option Bytes}
      {session : Session} {records : List (Except RpcError Record)}
      {result : Option (Except RpcError StreamOutcome)}
      (hd : handOverAll subscriber records ((c.withLink l).learn handle block session) =
        (result, c')) : c'.directory = c.directory := by
    have hhanded := handOverAll_directory subscriber records
      ((c.withLink l).learn handle block session)
    rw [hd, learn_directory] at hhanded
    exact hhanded
  fun_induction pump subscriber stream c with
  | case1 | case3 | case4 | case5 => rfl
  | case2 stream c _ e l _ _ ih => exact ih
  | case6 stream c _ chunk l _ _ handle _ fed drained c' c'' hd ih => exact ih.trans (hhand hd)
  | case7 stream c _ chunk l _ _ handle _ fed drained c' outcome c'' hd
  | case8 stream c _ chunk l _ _ handle _ fed drained c' e c'' hd => exact hhand hd

end

/-- Exchanging octets leaves the directory alone. -/
theorem keeps_retains_of_directory {α : Type} {x : Action α}
    (hdirectory : ∀ d, Keeps (·.directory = d) x)
    (hworld : ∀ w : World, Keeps (fun c => w.Grows Event.isUnfollowed c.world) x) :
    Keeps (Retains c₀) x :=
  keeps_retains_of_retains fun c =>
    .aside ((hdirectory c.directory).finalState rfl) ((hworld c.world).finalState (.refl _))

theorem retains_followRedirect (uri : String) (targets : RedirectTargets) (c : Client) :
    Retains c (followRedirect uri targets c) := by
  obtain ⟨new, htrace, hturning⟩ :=
    (grows_followRedirect uri targets c).mono (q := Event.isUnfollowed)
      (Event.isApart_of_isAmong rfl)
  have hnew : follows new = [] := follows_eq_nil hturning
  refine ⟨.follow uri targets :: new,
    [(.rememberRedirect targets, (c.note (.follow uri targets)).world)], ?_, ?_, ?_, by simp⟩
  · rw [htrace]
    exact List.append_assoc ..
  · exact takeHandle_directory ..
  · exact congrArg (targets :: ·) hnew.symm

theorem retains_setAuthenticated (c : Client) (authenticated : Bool) :
    Retains c (c.setAuthenticated authenticated) := by
  refine .aside ?_ (grows_setAuthenticated rfl c)
  rw [setAuthenticated]
  split <;> rfl

theorem exchanging_retains : Exchanging true (Retains c₀) fun _ _ => Retains c₀ where
  exchange := fun uri body =>
    (keeps_retains_of_retains retains_ensureConnected).bind fun _ =>
      keeps_retains_of_directory (fun _ => keeps_directory_transact uri body)
        fun _ => World.passage_unfollowed.transact uri body
  kept := fun _ _ _ h => h
  followRedirect := fun _ uri targets c h => h.trans (retains_followRedirect uri targets c)
  accept := fun _ c _ h => h.trans (retains_setAuthenticated c true)

/-- An attempt drops no flags. -/
theorem retains_runStream (request : SubscriptionRequest) (body : Bytes) (subscriber : Subscriber)
    (c : Client) : Retains c (finalState (runStream request body subscriber c)) := by
  have hkeeps : Keeps (Retains c) (runStream request body subscriber) := by
    refine keeps_runStream (fun c h => ?_) exchanging_retains.login
      (keeps_retains_of_retains retains_ensureConnected)
      (keeps_retains_of_directory (fun _ => keeps_directory_frame request.uri body)
        fun _ => World.passage_unfollowed.frame request.uri body)
      (fun frame => keeps_retains_of_directory (fun _ => keeps_directory_send frame)
        fun _ => World.passage_unfollowed.send frame)
      (fun c h => ?_) fun c h => ?_
    · exact h.trans (.aside rfl (World.grows_emit rfl))
    · refine h.trans (.aside (pump_directory subscriber .fresh c) ?_)
      exact World.passage_unfollowed.pump (fun _ _ => World.grows_emit rfl) subscriber .fresh c
    · exact h.trans (.aside rfl (grows_hangUp rfl c))
  exact hkeeps.finalState (.refl c)

/-- An attempt leaves the channel closed, however it ends. -/
theorem closed_runStream (request : SubscriptionRequest) (body : Bytes) (subscriber : Subscriber)
    (hc : Held c) : Closed (finalState (runStream request body subscriber c)) := by
  have hlogIn : Ensures Held logIn (fun _ => Held) Closed := by
    intro c hc
    cases hlogs : c.logsIn with
    | false =>
        rw [logIn_of_skipped hlogs]
        exact hc
    | true =>
        have hclosed := closed_logIn hc hlogs
        cases hr : logIn c <;> rw [hr] at hclosed
        · exact hclosed.held
        · exact hclosed
  have hconnect : Ensures Held (ensureConnected true) (fun _ c => c.handle.isSome = true)
      Closed := by
    intro c hc
    have hheld := ensures_ensureConnected_held true c hc
    cases hr : ensureConnected true c with
    | ok _ c' =>
        rw [hr] at hheld
        exact hheld (isConnected_of_ensureConnected hr)
    | error e c' =>
        rw [hr] at hheld
        exact hheld
  have hframe : Ensures (·.handle.isSome = true) (frame request.uri body) (fun _ _ => True)
      Closed := by
    intro c hc
    obtain ⟨handle, hh⟩ := Option.isSome_iff_exists.1 hc
    simp only [frame, hh]
  have hsend (f : RequestFrame) : Ensures (fun _ => True) (send f) (fun _ _ => True) Closed := by
    intro c _
    simp only [send]
    cases onLink (do Link.writeAll f.head; Link.writeAll f.body) c
    · trivial
    · exact closed_hangUp _
  have hpump : Ensures (fun _ => True) (closing (pump subscriber .fresh)) (fun _ => Closed)
      Closed := by
    intro c _
    simp only [closing]
    cases pump subscriber .fresh c <;> exact closed_hangUp _
  have hrun : Ensures Held (logIn >>= fun _ => listen request body subscriber) (fun _ => Closed)
      Closed :=
    hlogIn.bind fun _ => hconnect.bind fun _ => (hframe.bind hsend).bind fun _ => hpump
  have hclosed := hrun (c.note .attempt) hc
  rw [← runStream_apply] at hclosed
  cases hr : runStream request body subscriber c <;> rw [hr] at hclosed <;> exact hclosed

/-! ## Before the next attempt -/

theorem head?_eraseDupsBy {α : Type} (r : α → α → Bool) (l : List α) :
    (l.eraseDupsBy r).head? = l.head? := by
  cases l with
  | nil => rfl
  | cons a l => rw [List.eraseDupsBy_cons, List.head?_cons, List.head?_cons]

/-- What connecting dials first: the preferred endpoint, or else the first that has not failed. -/
theorem head?_order (c : Client) : (order c).head? =
    if c.directory.isFailed c.preferred.1 c.preferred.2 then
      (c.directory.ensureLoaded c.world).1.firstUntried.map Endpoint.address
    else some c.preferred := by
  rw [order, head?_eraseDupsBy]
  split
  · exact Directory.head?_unflagged _
  · rfl

theorem refreshEndpoints_directory (c : Client) : c.refreshEndpoints.directory =
    match c.directory.nextUntried c.world with
    | (none, directory, _) => directory.resetFailures
    | (some _, directory, _) => directory := by
  simp only [refreshEndpoints]
  rcases c.directory.nextUntried c.world with ⟨next, directory, world⟩
  cases next <;> rfl

/-- There is an endpoint to dial once the endpoints are refreshed. It is the preferred one if there
was none left. -/
theorem aims_refreshEndpoints (hclosed : Closed c) : ∃ a, Aims a c.refreshEndpoints ∧
    ((c.directory.nextUntried c.world).1 = none → a = c.refreshEndpoints.preferred) := by
  have hdirectory := c.refreshEndpoints_directory
  have hloaded := (c.directory.configured_ensureLoaded c.world).2.1
  have horder := head?_order c.refreshEndpoints
  rw [Directory.nextUntried] at hdirectory ⊢
  dsimp only at hdirectory ⊢
  generalize (c.directory.ensureLoaded c.world).1 = d at hdirectory hloaded
  cases hnext : d.firstUntried with
  | none =>
      rw [hnext] at hdirectory
      dsimp only at hdirectory
      rw [hdirectory, Directory.isFailed_resetFailures] at horder
      exact ⟨_, ⟨hclosed, horder⟩, fun _ => rfl⟩
  | some e =>
      rw [hnext] at hdirectory
      dsimp only at hdirectory
      rw [hdirectory, Directory.ensureLoaded_of_loaded hloaded, hnext, Option.map_some] at horder
      obtain ⟨a, ha⟩ : ∃ a, (order c.refreshEndpoints).head? = some a := by
        rw [horder]
        split <;> exact ⟨_, rfl⟩
      exact ⟨a, ⟨hclosed, ha⟩, fun hnone => absurd hnone (Option.some_ne_none e)⟩

end

section

variable (request : SubscriptionRequest) (body : Bytes) (subscriber : Subscriber)

/-- How a subscription comes from the end `c` of an attempt to the start `c'` of the next after a
setback. It asks for an endpoint to try next, and drops the flags if there is none; and the next
attempt dials. -/
structure Redials (c c' : Client) : Prop where
  /-- The next attempt is made. -/
  uncancelled : c'.world.cancelled = false
  refreshed : c'.directory = match c.directory.nextUntried c.world.pause with
    | (none, directory, _) => directory.resetFailures
    | (some _, directory, _) => directory
  dials : ∃ a, (order c').head? = some a ∧
    DialsFirst a c' (finalState (runStream request body subscriber c'))
  /-- Where the flags were dropped the next dial is the one to the preferred endpoint. -/
  preferred : (c.directory.nextUntried c.world.pause).1 = none →
    (order c').head? = some c'.preferred

/-- How a subscription comes from one attempt to the next. Flags are dropped only after a setback,
and then only if there is no endpoint to try next. -/
inductive GoesOn (s s' : Standing) : Prop
  | setback : (s.attempted request body subscriber).setback?.isSome = true →
      Retains s.client (finalState (runStream request body subscriber s.client)) →
      Redials request body subscriber (finalState (runStream request body subscriber s.client))
        s'.client → GoesOn s s'
  | other : (s.attempted request body subscriber).setback? = none →
      Retains s.client s'.client → GoesOn s s'

end

/-! ## Runs -/

section

variable {o : ClientOptions} {request : SubscriptionRequest} {body : Bytes}
  {subscriber : Subscriber} {s s' : Standing} {standings : List Standing}
  {result : EStateM.Result RpcError Client SubscriptionEnd}

theorem of_eq_reconnect {t u : Tally} {a : Attempt}
    (h : Decision.of o t a.outcome = .reconnect u) : a.setback?.isSome = true := by
  cases a.counted with
  | setback hsetback => rw [hsetback]; rfl
  | challenge _ hchallenge =>
      rw [Decision.of_challenge hchallenge] at h
      split at h <;> cases h
  | redirect _ _ hredirect =>
      rw [Decision.of_redirect hredirect] at h
      split at h <;> cases h
  | none hsetback hchallenge hredirect =>
      rw [Decision.of_uncounted hsetback hchallenge hredirect] at h
      cases h

theorem not_setback_of_goesOn {t u : Tally} {a : Attempt}
    (h : (Decision.of o t a.outcome).tally? = some u)
    (hreconnect : ∀ u, Decision.of o t a.outcome ≠ .reconnect u) : a.setback? = none := by
  cases hsetback : a.setback? with
  | none => rfl
  | some reason =>
      rw [Decision.of_setback hsetback, Decision.ofFailure] at h hreconnect
      split at h
      · rw [if_pos ‹_›] at hreconnect
        exact absurd rfl (hreconnect _)
      · cases h

theorem decided_of_attempt {d : Decision} {c : Client}
    (h : attempt o request body subscriber s.tally s.client = (d, c)) :
    Decision.of o ((s.attempted request body subscriber).tallied s.tally)
      (s.attempted request body subscriber).outcome = d ∧
      finalState (runStream request body subscriber s.client) = c := by
  rw [← attempt_fst, ← attempt_snd o request body subscriber s.tally, h]
  exact ⟨rfl, rfl⟩

theorem redials_of_reconnect {c : Client} (hclosed : Closed c)
    (hdown : c.world.pause.cancelled = false) : Redials request body subscriber c
      { c with world := c.world.pause }.refreshEndpoints := by
  let paused : Client := { c with world := c.world.pause }
  obtain ⟨a, haims, hpreferred⟩ := aims_refreshEndpoints (c := paused) hclosed
  refine ⟨?_, paused.refreshEndpoints_directory, ⟨a, haims.order, haims.runStream ..⟩, ?_⟩
  · exact (paused.directory.ensureLoaded_cancelled paused.world).trans hdown
  · exact fun hnone => hpreferred hnone ▸ haims.order

theorem Resumes.goesOn (h : Resumes o request body subscriber s s') (hheld : Held s.client) :
    GoesOn request body subscriber s s' ∧ Held s'.client := by
  have hretains := retains_runStream request body subscriber s.client
  have hclosed := closed_runStream request body subscriber hheld
  cases h with
  | @follow t u c c' targets _ h =>
      obtain ⟨hdecided, hfinal⟩ := decided_of_attempt (s := ⟨t, c⟩) h
      have hnone := not_setback_of_goesOn (congrArg Decision.tally? hdecided) (by simp [hdecided])
      rw [hfinal] at hretains
      refine ⟨.other hnone (hretains.trans (retains_followRedirect ..)), Closed.held ?_⟩
      rw [Closed, closed_followRedirect]
      rfl
  | @renew t u c c' _ h =>
      obtain ⟨hdecided, hfinal⟩ := decided_of_attempt (s := ⟨t, c⟩) h
      have hnone := not_setback_of_goesOn (congrArg Decision.tally? hdecided) (by simp [hdecided])
      rw [hfinal] at hretains hclosed
      refine ⟨.other hnone (hretains.trans (retains_setAuthenticated ..)), Closed.held ?_⟩
      rw [setAuthenticated]
      split <;> exact hclosed
  | @reconnect t u c c' _ h hdown =>
      obtain ⟨hdecided, hfinal⟩ := decided_of_attempt (s := ⟨t, c⟩) h
      rw [← hfinal] at hdown ⊢
      exact ⟨.setback (of_eq_reconnect hdecided) hretains (redials_of_reconnect hclosed hdown),
        Closed.held hclosed⟩

theorem Ends.retains (h : Ends o request body subscriber s result) :
    Retains s.client (finalState result) := by
  have hretains := retains_runStream request body subscriber s.client
  cases h with
  | cancelled => exact .refl _
  | @done t c c' _ _ h | @failed t c c' _ _ h =>
      rwa [(decided_of_attempt (s := ⟨t, c⟩) h).2] at hretains
  | @paused t u c c' _ h _ =>
      rw [(decided_of_attempt (s := ⟨t, c⟩) h).2] at hretains
      exact hretains.trans (.aside rfl (World.grows_pause rfl rfl c'.world))

/-- From each standing to the next one a subscription goes on, and it drops no flags after the
last. -/
structure Retries (request : SubscriptionRequest) (body : Bytes) (subscriber : Subscriber)
    (standings : List Standing) (final : Client) : Prop where
  goesOn : ∀ before s s' after, standings = before ++ s :: s' :: after →
    GoesOn request body subscriber s s'
  ends : ∀ before s, standings = before ++ [s] → Retains s.client final

theorem Course.retries (h : Course o request body subscriber (s :: standings) result)
    (hheld : Held s.client) :
    Retries request body subscriber (s :: standings) (finalState result) := by
  generalize hl : s :: standings = l at h
  induction h generalizing s standings with
  | last hends =>
      cases hl
      refine ⟨?_, ?_⟩
      · intro before s₁ s₂ after hsplit
        simp [List.cons_eq_append_iff] at hsplit
      · intro before s₁ hsplit
        obtain ⟨-, hlast⟩ := List.append_inj' ((List.nil_append _).trans hsplit) rfl
        obtain ⟨rfl, -⟩ := List.cons.inj hlast
        exact hends.retains
  | @resumed s s' rest result hstep _ ih =>
      cases hl
      obtain ⟨hgoesOn, hheld'⟩ := hstep.goesOn hheld
      obtain ⟨hrest, hends⟩ := ih hheld' rfl
      refine ⟨?_, ?_⟩
      · intro before s₁ s₂ after hsplit
        cases before with
        | nil =>
            rw [List.nil_append, List.cons.injEq, List.cons.injEq] at hsplit
            obtain ⟨rfl, rfl, -⟩ := hsplit
            exact hgoesOn
        | cons _ before => exact hrest before s₁ s₂ after (List.cons.inj hsplit).2
      · intro before s₁ hsplit
        cases before with
        | nil => simp at hsplit
        | cons _ before => exact hends before s₁ (List.cons.inj hsplit).2

end

/-- Each attempt of a subscription that follows a setback dials. What failed before is kept from
attempt to attempt: the flags are dropped only after a setback, and then only if the directory was
just asked for an endpoint to try next and had none; the next dial is the one to the preferred
endpoint then. -/
theorem Reachable.redials {options : ClientOptions} {c : Client} (h : Reachable options c)
    (request : SubscriptionRequest) (subscriber : Subscriber) :
    ∃ standings : List Standing,
      standings.head? = some ⟨.zero, { c with delivered := [] }⟩ ∧
      Course c.options request (payloadBytes request.payload) subscriber standings
        (subscriptionLoop c.options request (payloadBytes request.payload) subscriber .zero
          { c with delivered := [] }) ∧
      Retries request (payloadBytes request.payload) subscriber standings
        (finalState (subscribe request subscriber c)) := by
  obtain ⟨standings, hcourse⟩ := course_subscriptionLoop c.options request
    (payloadBytes request.payload) subscriber .zero { c with delivered := [] }
  have hheld : Held c := ((orderly_invariant options).reachable h).held
  obtain ⟨hgoesOn, hends⟩ := hcourse.retries hheld
  refine ⟨_, rfl, hcourse, hgoesOn, fun before s hlast => (hends before s hlast).trans ?_⟩
  simp only [subscribe, recording]
  cases subscriptionLoop c.options request (payloadBytes request.payload) subscriber .zero
    { c with delivered := [] } <;> exact .refl _

/-- A client whose dials are all refused, with one reconnect to spare. -/
def stranded : Client :=
  .fresh ⟨.ofHost "a" 1 false, 1000, false, none, 1, 0⟩ ⟨[], [], false, .memory [] none none, []⟩

/-- Its first attempt is in vain, and the only endpoint there is is dialled again. -/
theorem redials_of_stranded : let body := payloadBytes SubscriptionRequest.events.payload
    ∃ c, Redials .events body (fun _ => false)
      (finalState (runStream .events body (fun _ => false) stranded)) c := by
  intro body
  have hsetback : (Standing.attempted .events body (fun _ => false)
      ⟨.zero, stranded⟩).setback?.isSome = true := by decide +kernel
  have hattempt : (match attempt stranded.options .events body (fun _ => false) .zero stranded with
    | (.reconnect _, c) => !c.world.pause.cancelled
    | _ => false) = true := by decide +kernel
  -- So the course has a second standing.
  have hgoes (result : EStateM.Result RpcError Client SubscriptionEnd) :
      ¬ Ends stranded.options .events body (fun _ => false) ⟨.zero, stranded⟩ result := by
    intro hends
    cases hends with
    | cancelled hup => cases hup
    | done _ h | failed _ h => rw [h] at hattempt; cases hattempt
    | paused _ h hup =>
        rw [h] at hattempt
        dsimp only at hattempt
        rw [hup] at hattempt
        cases hattempt
  obtain ⟨standings, hfirst, hcourse, hretries⟩ :=
    Reachable.redials (.fresh stranded.world rfl : Reachable stranded.options stranded) .events
      fun _ => false
  obtain ⟨_, rfl⟩ := List.head?_eq_some_iff.1 hfirst
  cases hcourse with
  | last hends => exact absurd hends (hgoes _)
  | resumed _ _ =>
      cases hretries.goesOn [] _ _ _ rfl with
      | setback _ _ hredials => exact ⟨_, hredials⟩
      | other hnone _ => cases hsetback.symm.trans (congrArg Option.isSome hnone)

end Client

end ClusterRpc
