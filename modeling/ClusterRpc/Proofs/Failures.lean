import ClusterRpc.Proofs.Course

/-!
# The failures of an action

Only two failures come of several things in a row: redirects that are not followed any more, and
reconnects that are not tried any more. A single request never fails like the first, and a single
attempt of a subscription never like the second.
-/

namespace ClusterRpc

namespace RpcError

/-- Comes of one request, or of looking for an endpoint that answers. -/
def isSingle : RpcError → Bool
  | transport _ | malformedReply _ | authRequired _ | endpointsExhausted .. => true
  | redirect _ | reconnectsExhausted .. => false

/-- Comes of the attempts of a subscription together. -/
def isJoint : RpcError → Bool
  | reconnectsExhausted .. => true
  | _ => false

theorem not_isJoint_of_isSingle {e : RpcError} (h : e.isSingle = true) : e.isJoint = false := by
  cases e <;> first | rfl | cases h

theorem kind_ne_redirect_of_isSingle {e : RpcError} (h : e.isSingle = true) :
    e.kind ≠ .redirect := by
  have htransport (cause : TransportError) : cause.kind ≠ .redirect := by
    cases cause <;> simp [TransportError.kind]
  cases e with
  | transport cause => exact htransport cause
  | endpointsExhausted url last =>
      cases last with
      | none => simp [kind]
      | some cause => exact htransport cause
  | malformedReply | authRequired => simp [kind]
  | redirect | reconnectsExhausted => cases h

end RpcError

/-! ## Malformed replies -/

namespace RecordStream

theorem malformed_of_nextRecord {buffer : ReceiveBuffer} {e : RpcError}
    (h : (nextRecord buffer).1 = some (.error e)) : ∃ reason, e = .malformedReply reason := by
  fun_induction nextRecord buffer with
  | case1 => cases h
  | case2 buffer text rest _ _ _ ih => exact ih h
  | case3 buffer text rest _ _ _ =>
      simp only [Reply.decode] at h
      cases hread : Reply.read text with
      | ok reply => rw [hread] at h; cases h
      | error reason =>
          rw [hread] at h
          cases h
          exact ⟨reason, rfl⟩

theorem malformed_of_drainBuffer {buffer : ReceiveBuffer} {e : RpcError}
    (h : .error e ∈ (drainBuffer buffer).1) : ∃ reason, e = .malformedReply reason := by
  fun_induction drainBuffer buffer with
  | case1 => cases h
  | case2 buffer record hrecord _ others ih =>
      rcases List.mem_cons.1 h with rfl | h
      · exact malformed_of_nextRecord hrecord
      · exact ih h

/-- A record that is no record is a malformed reply. -/
theorem malformed_of_drain {stream : RecordStream} {session : Session} {e : RpcError}
    (h : .error e ∈ (stream.drain session).1) : ∃ reason, e = .malformedReply reason := by
  simp only [drain] at h
  split at h
  · cases h
  · exact malformed_of_drainBuffer h

end RecordStream

/-- A response that cannot be read is a malformed reply. -/
theorem Response.malformed_of_parse {raw : Bytes} {session : Session} {e : RpcError}
    (h : (parse raw session).1 = .error e) : ∃ reason, e = .malformedReply reason := by
  have hmap {x : Except String Reply} (h : x.mapError RpcError.malformedReply = .error e) :
      ∃ reason, e = .malformedReply reason := by
    cases x <;> cases h
    exact ⟨_, rfl⟩
  rw [parse] at h
  cases hsplit : splitHead raw with
  | none =>
      rw [hsplit] at h
      cases h
      exact ⟨_, rfl⟩
  | some parts =>
      rw [hsplit] at h
      exact hmap h

namespace Client

/-! ## Actions that fail in certain ways only -/

/-- Fails with errors that satisfy `P` only. -/
def FailsWith {α : Type} (P : RpcError → Bool) (x : Action α) : Prop :=
  ∀ c e c', x c = .error e c' → P e = true

section

variable {α β : Type} {P Q : RpcError → Bool} {x : Action α}

theorem FailsWith.mono (hx : FailsWith P x) (h : ∀ e, P e = true → Q e = true) : FailsWith Q x :=
  fun c e c' hr => h e (hx c e c' hr)

theorem FailsWith.bind {f : α → Action β} (hx : FailsWith P x) (hf : ∀ a, FailsWith P (f a)) :
    FailsWith P (x >>= f) := by
  intro c e c' h
  simp only [Bind.bind, EStateM.bind] at h
  cases hr : x c with
  | ok a d =>
      rw [hr] at h
      exact hf a d e c' h
  | error e' d =>
      rw [hr] at h
      cases h
      exact hx c _ _ hr

theorem FailsWith.closing (hx : FailsWith P x) : FailsWith P (closing x) := by
  intro c e c' h
  simp only [Client.closing] at h
  cases hr : x c <;> rw [hr] at h <;> cases h
  exact hx c _ _ hr

theorem FailsWith.noting {x : Action Reply} (hx : FailsWith P x) (uri : String) :
    FailsWith P (noting uri x) := by
  intro c e c' h
  simp only [Client.noting] at h
  cases hr : x c <;> rw [hr] at h <;> cases h
  exact hx c _ _ hr

theorem failsWith_pure (a : α) : FailsWith P (pure a) := by
  rintro c _ _ ⟨⟩

theorem failsWith_modify (f : Client → Client) : FailsWith P (modify f : Action PUnit) := by
  rintro c _ _ ⟨⟩

theorem failsWith_throw {e : RpcError} (h : P e = true) : FailsWith P (throw e : Action α) := by
  rintro c _ _ ⟨⟩
  exact h

/-- The state may be looked at first. -/
theorem failsWith_get_bind {f : Client → Action α} (hf : ∀ c, FailsWith P (f c)) :
    FailsWith P (MonadState.get >>= f) := fun c => hf c c

end

/-! ## One request -/

theorem failsWith_onLink {α : Type} (x : Link.Action α) : FailsWith (·.isSingle) (onLink x) := by
  intro c e c' h
  simp only [onLink] at h
  cases hr : x c.link <;> rw [hr] at h <;> cases h
  rfl

theorem failsWith_walk (last : Option TransportError) : FailsWith (·.isSingle) (walk last) := by
  intro c e c' h
  fun_induction walk last c with
  | case1 | case4 =>
      cases h
      rfl
  | case2 => cases h
  | case3 last c _ _ failure tried _ _ ih => exact ih h

theorem failsWith_ensureConnected (useRedirect : Bool) :
    FailsWith (·.isSingle) (ensureConnected useRedirect) := by
  intro c e c' h
  rw [ensureConnected_eq] at h
  split at h
  · cases h
  split at h
  · simp only [failover] at h
    split at h
    · exact failsWith_walk _ _ _ _ h
    · split at h
      · cases h
      · split at h
        · exact failsWith_walk _ _ _ _ h
        · cases h
          rfl
  · simp only [dialPreferred] at h
    split at h <;> cases h
    rfl

theorem failsWith_frame (uri : String) (body : Bytes) : FailsWith (·.isSingle) (frame uri body) := by
  intro c e c' h
  simp only [frame] at h
  split at h <;> cases h
  rfl

theorem failsWith_send (frame : RequestFrame) : FailsWith (·.isSingle) (send frame) := by
  intro c e c' h
  simp only [send] at h
  cases hr : onLink (do Link.writeAll frame.head; Link.writeAll frame.body) c with
  | ok a d => rw [hr] at h; cases h
  | error e' d =>
      rw [hr] at h
      cases h
      exact failsWith_onLink _ c _ _ hr

theorem failsWith_takeResponse (raw : Bytes) : FailsWith (·.isSingle) (takeResponse raw) := by
  intro c e c' h
  simp only [takeResponse] at h
  split at h
  · cases h
    rfl
  · rename_i handle _
    rcases hr : Response.parse raw handle.session with ⟨reply, session⟩
    rw [hr] at h
    cases reply with
    | ok reply => cases h
    | error failure =>
        obtain ⟨reason, rfl⟩ := Response.malformed_of_parse (congrArg Prod.fst hr)
        cases h
        rfl

theorem failsWith_writeRequest (uri : String) (body : Bytes) :
    FailsWith (·.isSingle) (writeRequest uri body) :=
  (failsWith_frame uri body).bind failsWith_send

theorem failsWith_exchange (uri : String) (body : Bytes) (useRedirect : Bool) :
    FailsWith (·.isSingle) (exchange uri body useRedirect) :=
  (failsWith_ensureConnected useRedirect).bind fun _ => (failsWith_frame uri body).bind
    fun frame => FailsWith.noting ((failsWith_send frame).bind fun _ =>
      (failsWith_onLink _).closing.bind failsWith_takeResponse) uri

/-! ## One connection of a subscription -/

/-- A failure among the records, or a verdict that is one. -/
theorem isSingle_of_handOverAll {subscriber : Subscriber} {records : List (Except RpcError Record)}
    {c c' : Client} {e : RpcError}
    (hrecords : ∀ e, .error e ∈ records → ∃ reason, e = .malformedReply reason)
    (h : handOverAll subscriber records c = (some (.error e), c')) : e.isSingle = true := by
  fun_induction handOverAll subscriber records c with
  | case1 => cases h
  | case2 e' rest c =>
      cases h
      obtain ⟨reason, rfl⟩ := hrecords _ List.mem_cons_self
      rfl
  | case3 record rest c c'' outcome hverdict =>
      obtain rfl : outcome = .error e := by simpa using congrArg Prod.fst h
      cases record with
      | event fields => cases hverdict
      | reply reply =>
          simp only [verdict] at hverdict
          split at hverdict
          · cases hverdict
          · split at hverdict <;> cases hverdict
            rfl
  | case4 => cases h
  | case5 record rest c c'' _ _ ih =>
      exact ih (fun e he => hrecords e (List.mem_cons_of_mem _ he)) h

theorem failsWith_pump (subscriber : Subscriber) (stream : RecordStream) :
    FailsWith (·.isSingle) (pump subscriber stream) := by
  intro c e c' h
  fun_induction pump subscriber stream c with
  | case1 => cases h
  | case2 stream c _ e' l _ _ ih => exact ih h
  | case3 | case5 =>
      cases h
      rfl
  | case4 => cases h
  | case6 stream c _ chunk l _ _ handle _ fed drained c'' _ _ ih => exact ih h
  | case7 => cases h
  | case8 =>
      rename_i hd
      cases h
      exact isSingle_of_handOverAll (fun e he => RecordStream.malformed_of_drain he) hd

theorem failsWith_listen (request : SubscriptionRequest) (body : Bytes) (subscriber : Subscriber) :
    FailsWith (·.isSingle) (listen request body subscriber) :=
  (failsWith_ensureConnected true).bind fun _ => (failsWith_writeRequest request.uri body).bind
    fun _ => (failsWith_pump subscriber .fresh).closing

/-! ## Logins and attempts -/

theorem failsWith_converse {uri : String} {body : Bytes} {allowRedirect : Bool}
    {login : Option (Action Unit)} (hlogin : ∀ x, login = some x → FailsWith (!·.isJoint) x)
    (hops logins : Nat) :
    FailsWith (!·.isJoint) (converse uri body allowRedirect login hops logins) := by
  fun_induction converse uri body allowRedirect login hops logins with
  | case1 hops logins ih ih' =>
      have hexchange : FailsWith (!·.isJoint) (exchange uri body allowRedirect) :=
        (failsWith_exchange uri body allowRedirect).mono fun e he => by
          rw [RpcError.not_isJoint_of_isSingle he]
          rfl
      refine hexchange.bind fun reply => ?_
      split
      · split
        · exact failsWith_throw rfl
        · split
          · exact failsWith_throw rfl
          · exact (failsWith_modify _).bind fun _ => ih
      · split
        · split
          · exact failsWith_throw rfl
          · exact (hlogin _ rfl).bind fun _ => ih'
        · exact failsWith_pure _

theorem failsWith_login (allowRedirect : Bool) : FailsWith (!·.isJoint) (login allowRedirect) := by
  refine failsWith_get_bind fun c => ?_
  split
  · exact failsWith_throw rfl
  refine (failsWith_converse (by simp) 1 0).bind fun reply => ?_
  split
  · exact (failsWith_throw rfl).bind fun _ => failsWith_modify _
  · exact failsWith_modify _

/-- One attempt never gives up reconnecting. -/
theorem failsWith_runStream (request : SubscriptionRequest) (body : Bytes)
    (subscriber : Subscriber) :
    FailsWith (!·.isJoint) (runStream request body subscriber) := by
  have hlogIn : FailsWith (!·.isJoint) logIn := by
    refine failsWith_get_bind fun c => ?_
    split
    · exact failsWith_login true
    · exact failsWith_pure _
  have hlisten : FailsWith (!·.isJoint) (listen request body subscriber) :=
    (failsWith_listen request body subscriber).mono fun e he => by
      rw [RpcError.not_isJoint_of_isSingle he]
      rfl
  intro c e c' h
  rw [runStream_apply] at h
  exact hlogIn.bind (fun _ => hlisten) _ e c' h

end Client

end ClusterRpc
