import ClusterRpc.Proofs.Failover
import ClusterRpc.Proofs.Passage

/-!
# Connections alike

Two connections are alike that differ at most in what there is to read. Which ones have to be the
same is said by how many dials are still to come once they are open, a number that no two
connections of a run have in common. Writing never depends on what there is to read, and nothing
that is done on the channel depends on the world around it.
-/

namespace ClusterRpc

/-! ## What an action on the channel leaves alone -/

/-- Two worlds that differ at most in the trace and the flag. -/
structure World.Untouched (w w' : World) : Prop where
  dials : w'.dials = w.dials
  pauses : w'.pauses = w.pauses
  store : w'.store = w.store

namespace World

variable {u v w : World}

theorem Untouched.refl (w : World) : w.Untouched w := ⟨rfl, rfl, rfl⟩

theorem Untouched.trans (h : u.Untouched v) (k : v.Untouched w) : u.Untouched w :=
  ⟨k.dials.trans h.dials, k.pauses.trans h.pauses, k.store.trans h.store⟩

theorem untouched_emit (w : World) (e : Event) : w.Untouched (w.emit e) := ⟨rfl, rfl, rfl⟩

/-- A pause leaves the dials and the store alone. -/
theorem pause_same (w : World) : w.pause.dials = w.dials ∧ w.pause.store = w.store := by
  simp only [pause]
  split
  · exact ⟨rfl, rfl⟩
  · rename_i cancels _ _
    cases cancels <;> exact ⟨rfl, rfl⟩

theorem passage_untouched : Passage Untouched where
  refl := .refl
  trans := .trans
  emit := fun w e _ => w.untouched_emit e
  cancel := fun _ => ⟨rfl, rfl, rfl⟩

end World

/-- A relation between two worlds that lasts as long as the same happens in both. -/
structure World.InStep (E : World → World → Prop) : Prop where
  emit : ∀ {w w'} (e : Event), E w w' → E (w.emit e) (w'.emit e)
  cancel : ∀ {w w'}, E w w' → E w.cancel w'.cancel

namespace World

variable {E : World → World → Prop} {w w' : World}

theorem InStep.cue (hE : InStep E) (h : E w w') (cancels : Bool) :
    E (w.cue cancels) (w'.cue cancels) := by
  cases cancels with
  | false => exact h
  | true => exact hE.cancel h

theorem inStep_any : InStep fun _ _ => True := ⟨fun _ _ => trivial, fun _ => trivial⟩

end World

/-! ## Connections alike -/

/-- What two connections may have to read, given whether they use TLS. -/
abbrev Reading := Bool → List (Cued ReadStep) → List (Cued ReadStep) → Prop

/-- What two connections may have to read that are open with so many dials still to come. -/
abbrev Likeness := Nat → Reading

/-- There is the same to read. -/
def Reading.same : Reading := fun _ reads reads' => reads' = reads

/-- Two connections that differ at most in what there is to read. -/
def Transport.Like (r : Reading) (t u : Transport) : Prop :=
  ∃ reads, u = { t with reads } ∧ r t.tls t.reads reads

inductive Channel.Like (r : Reading) : Channel → Channel → Prop
  | disconnected : Like r .disconnected .disconnected
  | connecting : Like r .connecting .connecting
  | connected (endpoint : String) {t u : Transport} : t.Like r u →
      Like r (.connected endpoint t) (.connected endpoint u)

inductive Dial.Like (r : Reading) : Dial → Dial → Prop
  | refused (failure : String → TransportError) : Like r (.refused failure) (.refused failure)
  | answered {t u : Transport} : t.Like r u → Like r (.answered t) (.answered u)

/-- Dials to come that meet the same, but for what there is to read. -/
inductive DialsLike (R : Likeness) : List (Cued Dial) → List (Cued Dial) → Prop
  | nil : DialsLike R [] []
  | cons {dial dial' : Cued Dial} {dials dials' : List (Cued Dial)} :
      dial.what.Like (R dials.length) dial'.what → DialsLike R dials dials' →
        DialsLike R (dial :: dials) (dial' :: dials')

theorem DialsLike.tail {R : Likeness} {dials dials' : List (Cued Dial)}
    (h : DialsLike R dials dials') : DialsLike R dials.tail dials'.tail := by
  cases h with
  | nil => exact .nil
  | cons _ h => exact h

/-- Only the connections still to come count. -/
theorem DialsLike.congr {R R' : Likeness} {dials dials' : List (Cued Dial)}
    (h : DialsLike R dials dials') (hR : ∀ n < dials.length, R n = R' n) :
    DialsLike R' dials dials' := by
  induction h with
  | nil => exact .nil
  | @cons dial dial' dials dials' hdial _ ih =>
      refine .cons ?_ (ih fun n hn => hR n (Nat.lt_succ_of_lt hn))
      rw [← hR _ (Nat.lt_succ_self _)]
      exact hdial

/-- The next dial meets the same, but for what there is to read on the connection. -/
theorem DialsLike.answer {R : Likeness} {w w' : World} (h : DialsLike R w.dials w'.dials)
    (a : Address) :
    w'.answer 0 a = w.answer 0 a ∧ (w.answer 0 a).isOk = false ∨
      ∃ t u, w.answer 0 a = .ok t ∧ w'.answer 0 a = .ok u ∧ t.Like (R w.dials.tail.length) u := by
  rw [World.answer, World.answer]
  generalize w.dials = dials at h
  generalize w'.dials = dials' at h
  cases h with
  | nil => exact .inl ⟨rfl, rfl⟩
  | @cons dial dial' _ _ hdial _ =>
      rcases dial with ⟨what, cancels⟩
      rcases dial' with ⟨what', cancels'⟩
      cases hdial with
      | refused failure => exact .inl ⟨rfl, rfl⟩
      | answered ht => exact .inr ⟨_, _, rfl, rfl, ht⟩

theorem Channel.Like.isConnected {r : Reading} {channel channel' : Channel}
    (h : channel.Like r channel') : channel'.isConnected = channel.isConnected := by
  cases h <;> rfl

theorem Channel.Like.same (channel : Channel) : channel.Like .same channel := by
  cases channel with
  | disconnected => exact .disconnected
  | connecting => exact .connecting
  | connected endpoint t => exact .connected endpoint ⟨t.reads, rfl, rfl⟩

theorem Channel.Like.eq_of_same {channel channel' : Channel}
    (h : channel.Like .same channel') : channel' = channel := by
  cases h with
  | disconnected | connecting => rfl
  | connected endpoint ht =>
      obtain ⟨reads, rfl, rfl⟩ := ht
      rfl

/-- Nothing is read while the channel is not open. -/
theorem Channel.Like.congr {r r' : Reading} {channel channel' : Channel}
    (h : channel.Like r channel') (hr : channel.isConnected = true → r = r') :
    channel.Like r' channel' := by
  cases h with
  | disconnected => exact .disconnected
  | connecting => exact .connecting
  | connected endpoint ht =>
      rw [← hr rfl]
      exact .connected endpoint ht

/-! ## The channel -/

namespace Link

/-- Does the same over channels that are alike, touches nothing else, and leaves them alike. -/
structure Couples {α : Type} (r : Reading) (x : Action α) : Prop where
  untouched : ∀ l : Link, l.world.Untouched (finalState (x l)).world
  outcome : ∀ l m : Link, l.channel.Like r m.channel → outcome (x m) = outcome (x l)
  channel : ∀ l m : Link, l.channel.Like r m.channel →
    (finalState (x l)).channel.Like r (finalState (x m)).channel

section

variable {α β : Type} {r : Reading}

theorem Couples.bind {x : Action α} {f : α → Action β} (hx : Couples r x)
    (hf : ∀ a, Couples r (f a)) : Couples r (x >>= f) := by
  refine ⟨fun l => ?_, fun l m h => ?_, fun l m h => ?_⟩
  · have hl := hx.untouched l
    simp only [Bind.bind, EStateM.bind]
    rcases hr : x l with ⟨a, l'⟩ | ⟨e, l'⟩ <;> rw [hr] at hl
    · exact hl.trans ((hf a).untouched l')
    · exact hl
  all_goals
    have houtcome := hx.outcome l m h
    have hchannel := hx.channel l m h
    simp only [Bind.bind, EStateM.bind]
    rcases hr : x l with ⟨a, l'⟩ | ⟨e, l'⟩ <;> rcases hr' : x m with ⟨a', m'⟩ | ⟨e', m'⟩ <;>
      rw [hr, hr'] at houtcome hchannel <;> cases houtcome
  · exact (hf a).outcome l' m' hchannel
  · rfl
  · exact (hf a).channel l' m' hchannel
  · exact hchannel

section

variable {E : World → World → Prop} {w w' : World} (hE : World.InStep E)
include hE

/-- How a run of write steps goes does not depend on the world. -/
theorem writeSteps_congr (endpoint : String) (w w' : World) (h : E w w')
    (steps : List (Cued WriteStep)) (bytes : Bytes) :
    (writeSteps endpoint w' steps bytes).1 = (writeSteps endpoint w steps bytes).1 ∧
      (writeSteps endpoint w' steps bytes).2.1 = (writeSteps endpoint w steps bytes).2.1 ∧
      E (writeSteps endpoint w steps bytes).2.2 (writeSteps endpoint w' steps bytes).2.2 := by
  fun_induction writeSteps endpoint w steps bytes generalizing w' with
  | case1 w steps => exact ⟨by simp [writeSteps], by simp [writeSteps], by simpa [writeSteps]⟩
  | case2 w bytes hne =>
      cases bytes with
      | nil => simp at hne
      | cons b bytes => exact ⟨rfl, rfl, hE.emit _ h⟩
  | case3 w step rest bytes hne hstep =>
      cases bytes with
      | nil => simp at hne
      | cons b bytes =>
          simp only [writeSteps, hstep, if_true]
          exact ⟨trivial, trivial, hE.cue (hE.emit _ h) _⟩
  | case4 w step rest bytes hne count hstep w'' hcount ih =>
      cases bytes with
      | nil => simp at hne
      | cons b bytes =>
          simp only [writeSteps, hstep, hcount, if_false]
          exact ih _ (hE.cue (hE.emit _ h) _)
  | case5 w step rest bytes hne cause hstep w'' hcause ih =>
      cases bytes with
      | nil => simp at hne
      | cons b bytes =>
          simp only [writeSteps, hstep, hcause, if_true]
          exact ih _ (hE.cue h _)
  | case6 w step rest bytes hne cause hstep w'' hcause =>
      cases bytes with
      | nil => simp at hne
      | cons b bytes =>
          simp only [writeSteps, hstep, hcause, Bool.false_eq_true, if_false]
          exact ⟨trivial, trivial, hE.cue h _⟩

theorem flushStep_congr (endpoint : String) (h : E w w') (steps : List (Cued FlushStep)) :
    (flushStep endpoint w' steps).1 = (flushStep endpoint w steps).1 ∧
      (flushStep endpoint w' steps).2.1 = (flushStep endpoint w steps).2.1 ∧
      E (flushStep endpoint w steps).2.2 (flushStep endpoint w' steps).2.2 := by
  fun_cases flushStep endpoint w steps with
  | case1 => exact ⟨rfl, rfl, h⟩
  | case2 step rest w'' hstep | case3 step rest w'' cause hstep =>
      simp only [flushStep, hstep]
      exact ⟨trivial, trivial, hE.cue h _⟩

/-- Writing does not depend on what there is to read. -/
theorem writeAll_congr (w w' : World) (bytes : Bytes) (endpoint : String) (t : Transport)
    (h : E w w') (reads : List (Cued ReadStep)) :
    outcome (writeAll bytes ⟨.connected endpoint { t with reads }, w'⟩) =
        outcome (writeAll bytes ⟨.connected endpoint t, w⟩) ∧
      (∃ writes flushes,
        (finalState (writeAll bytes ⟨.connected endpoint t, w⟩)).channel =
          .connected endpoint { t with writes, flushes } ∧
        (finalState (writeAll bytes ⟨.connected endpoint { t with reads }, w'⟩)).channel =
          .connected endpoint { t with reads, writes, flushes }) ∧
      E (finalState (writeAll bytes ⟨.connected endpoint t, w⟩)).world
        (finalState (writeAll bytes ⟨.connected endpoint { t with reads }, w'⟩)).world := by
  have hwrite := writeSteps_congr hE endpoint w w' h t.writes bytes
  simp only [writeAll]
  rcases hr : writeSteps endpoint w t.writes bytes with ⟨result, writes, v⟩
  rcases hr' : writeSteps endpoint w' t.writes bytes with ⟨result', writes', v'⟩
  rw [hr, hr'] at hwrite
  obtain ⟨rfl, rfl, hv⟩ := hwrite
  cases result' with
  | error e => exact ⟨rfl, ⟨_, _, rfl, rfl⟩, hv⟩
  | ok =>
      have hflush := flushStep_congr hE endpoint hv t.flushes
      dsimp only
      rcases hf : flushStep endpoint v t.flushes with ⟨result, flushes, x⟩
      rcases hf' : flushStep endpoint v' t.flushes with ⟨result', flushes', x'⟩
      rw [hf, hf'] at hflush
      obtain ⟨rfl, rfl, hx⟩ := hflush
      cases result' <;> exact ⟨rfl, ⟨_, _, rfl, rfl⟩, hx⟩

/-- How a read goes does not depend on the world. -/
theorem readRetrying_congr (endpoint : String) (room retries : Nat) (t : Transport)
    (h : E w w') :
    (readRetrying endpoint room retries t w').1 = (readRetrying endpoint room retries t w).1 ∧
      (readRetrying endpoint room retries t w').2.1 =
        (readRetrying endpoint room retries t w).2.1 ∧
      E (readRetrying endpoint room retries t w).2.2
        (readRetrying endpoint room retries t w').2.2 := by
  -- Not along `readRetrying` itself: the two runs have their own worlds.
  induction retries generalizing t w w' with
  | zero =>
      rw [readRetrying, readRetrying]
      rcases t.read room with ⟨_ | _, cancels, t'⟩
      · dsimp only
        split
        · exact ⟨rfl, rfl, hE.cue h _⟩
        · split <;> exact ⟨rfl, rfl, hE.cue h _⟩
      · exact ⟨rfl, rfl, hE.emit _ (hE.cue h _)⟩
  | succ retries ih =>
      rw [readRetrying, readRetrying]
      rcases t.read room with ⟨_ | _, cancels, t'⟩
      · dsimp only
        split
        · exact ih t' (hE.cue h _)
        · split <;> exact ⟨rfl, rfl, hE.cue h _⟩
      · exact ⟨rfl, rfl, hE.emit _ (hE.cue h _)⟩

end

/-! ### The same channel in two worlds -/

/-- Goes the same way whatever the world is, and does the same to it. -/
def Steady {α : Type} (E : World → World → Prop) (x : Action α) : Prop :=
  ∀ channel w w', E w w' → outcome (x ⟨channel, w'⟩) = outcome (x ⟨channel, w⟩) ∧
    (finalState (x ⟨channel, w'⟩)).channel = (finalState (x ⟨channel, w⟩)).channel ∧
    E (finalState (x ⟨channel, w⟩)).world (finalState (x ⟨channel, w'⟩)).world

section

variable {E : World → World → Prop}

theorem Steady.bind {x : Action α} {f : α → Action β} (hx : Steady E x)
    (hf : ∀ a, Steady E (f a)) : Steady E (x >>= f) := by
  intro channel w w' h
  obtain ⟨houtcome, hchannel, hworld⟩ := hx channel w w' h
  simp only [Bind.bind, EStateM.bind]
  rcases hr : x ⟨channel, w⟩ with ⟨a, l⟩ | ⟨e, l⟩ <;>
    rcases hr' : x ⟨channel, w'⟩ with ⟨a', ⟨channel', v⟩⟩ | ⟨e', m⟩ <;>
    rw [hr, hr'] at houtcome hchannel hworld <;> cases houtcome
  · obtain rfl : channel' = l.channel := hchannel
    exact hf a l.channel l.world v hworld
  · exact ⟨rfl, hchannel, hworld⟩

variable (hE : World.InStep E)
include hE

theorem steady_writeAll (bytes : Bytes) : Steady E (writeAll bytes) := by
  intro channel w w' h
  cases channel with
  | connected endpoint t =>
      obtain ⟨houtcome, ⟨writes, flushes, hl, hm⟩, hworld⟩ :=
        writeAll_congr hE w w' bytes endpoint t h t.reads
      exact ⟨houtcome, hm.trans hl.symm, hworld⟩
  | _ => exact ⟨rfl, rfl, h⟩

theorem steady_read (room : Nat) : Steady E (read room) := by
  intro channel w w' h
  cases channel with
  | connected endpoint t =>
      obtain ⟨houtcome, htransport, hworld⟩ :=
        readRetrying_congr hE endpoint room (retryLimit t.tls) t h
      simp only [read]
      rcases hr : readRetrying endpoint room (retryLimit t.tls) t w with ⟨result, u, v⟩
      rcases hr' : readRetrying endpoint room (retryLimit t.tls) t w' with ⟨result', u', v'⟩
      rw [hr, hr'] at houtcome htransport hworld
      obtain rfl := houtcome
      obtain rfl := htransport
      cases result' <;> exact ⟨rfl, rfl, hworld⟩
  | _ => exact ⟨rfl, rfl, h⟩

end

/-- Receiving, without the proof that it ends. -/
theorem receive_eq (buffer : ReceiveBuffer) (l : Link) : receive buffer l =
    if Response.isComplete buffer.bytes then .ok buffer.bytes l
    else
      match read readChunk l with
      | .error e l => .error e l
      | .ok chunk l =>
          if chunk = [] then .ok buffer.bytes l else receive (buffer.append chunk) l := by
  rw [receive]
  split
  · rfl
  · split <;> rename_i hr <;> rw [hr]
    rfl

theorem steady_receive {E : World → World → Prop} (hE : World.InStep E)
    (buffer : ReceiveBuffer) : Steady E (receive buffer) := by
  intro channel w w' h
  generalize hl : (⟨channel, w⟩ : Link) = l
  fun_induction receive buffer l generalizing channel w w' with
  | case1 buffer l hc =>
      subst hl
      rw [receive_eq, if_pos hc]
      exact ⟨rfl, rfl, h⟩
  | case2 buffer l hc e l' hr | case3 buffer l hc l' hr =>
      subst hl
      obtain ⟨houtcome, hchannel, hworld⟩ := steady_read hE readChunk channel w w' h
      rcases hr' : read readChunk ⟨channel, w'⟩ with ⟨chunk, m⟩ | ⟨e', m⟩ <;>
        rw [hr, hr'] at houtcome hchannel hworld <;> cases houtcome
      rw [receive_eq, if_neg hc, hr']
      exact ⟨rfl, hchannel, hworld⟩
  | case4 buffer l hc chunk l' hr hne ih =>
      subst hl
      obtain ⟨houtcome, hchannel, hworld⟩ := steady_read hE readChunk channel w w' h
      rcases hr' : read readChunk ⟨channel, w'⟩ with ⟨chunk', ⟨channel', v⟩⟩ | ⟨e', m⟩ <;>
        rw [hr, hr'] at houtcome hchannel hworld <;> cases houtcome
      obtain rfl : channel' = l'.channel := hchannel
      simp only [receive_eq buffer, if_neg hc, hr', if_neg hne]
      exact ih l'.channel l'.world v hworld rfl

/-! ### Channels that are alike -/

theorem couples_writeAll (r : Reading) (bytes : Bytes) : Couples r (writeAll bytes) := by
  refine ⟨World.passage_untouched.writeAll bytes, ?_, ?_⟩
  · rintro ⟨channel, w⟩ ⟨channel', w'⟩ h
    cases h with
    | connected endpoint ht =>
        obtain ⟨reads, rfl, -⟩ := ht
        exact (writeAll_congr World.inStep_any w w' bytes endpoint _ trivial reads).1
    | _ => rfl
  · rintro ⟨channel, w⟩ ⟨channel', w'⟩ h
    cases h with
    | connected endpoint ht =>
        obtain ⟨reads, rfl, hreads⟩ := ht
        obtain ⟨-, ⟨writes, flushes, hl, hm⟩, -⟩ :=
          writeAll_congr World.inStep_any w w' bytes endpoint _ trivial reads
        rw [hl, hm]
        exact .connected endpoint ⟨reads, rfl, hreads⟩
    | disconnected => exact .disconnected
    | connecting => exact .connecting

/-- An action that does not depend on the world and touches nothing but the trace and the flag. -/
theorem couples_of_steady {x : Action α} (h : Steady (fun _ _ => True) x)
    (huntouched : ∀ l : Link, l.world.Untouched (finalState (x l)).world) : Couples .same x := by
  refine ⟨huntouched, ?_, ?_⟩
  · rintro ⟨channel, w⟩ ⟨channel', w'⟩ hlike
    obtain rfl := hlike.eq_of_same
    exact (h channel' w w' trivial).1
  · rintro ⟨channel, w⟩ ⟨channel', w'⟩ hlike
    obtain rfl := hlike.eq_of_same
    rw [(h channel' w w' trivial).2.1]
    exact .same _

theorem couples_receive (buffer : ReceiveBuffer) : Couples .same (receive buffer) :=
  couples_of_steady (steady_receive World.inStep_any buffer)
    (World.passage_untouched.receive buffer)

end

end Link

end ClusterRpc
