import ClusterRpc.Proofs.Failures
import ClusterRpc.Proofs.Signals

/-!
# How much a subscription puts up with

A subscription counts what goes wrong since the last event: setbacks, redirects and challenges each
against a limit of their own. Whatever order they come in, it gives up as soon as one of them is one
too many, and not before.
-/

namespace ClusterRpc

/-- What one attempt of a subscription comes to. -/
structure Attempt where
  outcome : Except RpcError StreamOutcome
  /-- Whether an event was handed over. -/
  eventful : Bool

namespace Attempt

/-- The reason why a subscription tries to reconnect: the stream was closed, a connection failed, or
no endpoint could be reached. -/
def setback? (a : Attempt) : Option String :=
  match a.outcome with
  | .ok .closed => some "controller closed the subscription"
  | .error (.transport cause) => some (RpcError.transport cause).message
  | .error (.endpointsExhausted url last) => some (RpcError.endpointsExhausted url last).message
  | _ => none

/-- The message of a challenge. -/
def challenge? (a : Attempt) : Option String :=
  match a.outcome with
  | .error (.authRequired message) => some message
  | _ => none

/-- Where a redirect in the stream leads. -/
def redirect? (a : Attempt) : Option RedirectTargets :=
  match a.outcome with
  | .ok (.redirected targets) => some targets
  | _ => none

end Attempt

/-- The attempts since the last event. The one that brought it is the first of them. -/
def sinceEvent : List Attempt → List Attempt
  | [] => []
  | a :: rest => if rest.any (·.eventful) then sinceEvent rest else a :: rest

theorem sinceEvent_concat (history : List Attempt) (a : Attempt) :
    sinceEvent (history ++ [a]) = (if a.eventful then [] else sinceEvent history) ++ [a] := by
  induction history with
  | nil => cases a.eventful <;> rfl
  | cons b rest ih =>
      cases ha : a.eventful with
      | true => simpa [sinceEvent, ha] using ih
      | false =>
          simp only [ha, Bool.false_eq_true, if_false] at ih
          simp only [List.cons_append, sinceEvent, List.any_append, List.any_cons, List.any_nil, ha,
            Bool.or_false, Bool.false_eq_true, if_false, ih]
          split <;> rfl

/-- Why a subscription gives up after its last attempt `a`. Only the attempts `recent` count, which
are those since the last event. -/
inductive Concedes (o : ClientOptions) (recent : List Attempt) (a : Attempt) : RpcError → Prop
  | setback {reason : String} : a.setback? = some reason →
      recent.countP (·.setback?.isSome) = o.reconnectAttempts + 1 →
      Concedes o recent a (.reconnectsExhausted o.reconnectAttempts reason)
  | challenge {message : String} : a.challenge? = some message →
      (o.credentials = none ∨ recent.countP (·.challenge?.isSome) = 4) →
      Concedes o recent a (.authRequired message)
  | redirect {targets : RedirectTargets} : a.redirect? = some targets →
      recent.countP (·.redirect?.isSome) = 2 → Concedes o recent a (.redirect targets.leader.label)
  /-- No other failure is got over. -/
  | other {e : RpcError} : a.outcome = .error e → a.setback? = none → a.challenge? = none →
      e.isJoint = false → Concedes o recent a e

/-! ## Tallies -/

/-- A tally has counted the attempts `recent`, and none of its counts is over its limit. -/
structure Tally.Counts (t : Tally) (o : ClientOptions) (recent : List Attempt) : Prop where
  failures : recent.countP (·.setback?.isSome) = t.failures
  challenges : recent.countP (·.challenge?.isSome) = t.challenges
  redirects : recent.countP (·.redirect?.isSome) = t.redirects
  length : recent.length = t.failures + t.challenges + t.redirects
  failures_le : t.failures ≤ o.reconnectAttempts
  challenges_le : t.challenges ≤ Tally.maxChallenges
  redirects_le : t.redirects ≤ Tally.maxRedirects

/-- The tally with which the end of an attempt is judged. An event starts it afresh. -/
def Attempt.tallied (a : Attempt) (t : Tally) : Tally := if a.eventful then .zero else t

section

variable {o : ClientOptions} {t u : Tally} {recent history : List Attempt} {a : Attempt}

theorem Tally.counts_zero (o : ClientOptions) : Tally.zero.Counts o [] :=
  ⟨rfl, rfl, rfl, rfl, Nat.zero_le _, Nat.zero_le _, Nat.zero_le _⟩

/-- What an attempt is judged with has counted all those since the last event but itself. -/
theorem Tally.Counts.tallied (h : t.Counts o (sinceEvent history)) (a : Attempt) :
    (a.tallied t).Counts o (if a.eventful then [] else sinceEvent history) := by
  rw [Attempt.tallied]
  cases a.eventful with
  | true => exact counts_zero o
  | false => exact h

/-- An attempt counts as one thing at most. -/
inductive Attempt.Counted (a : Attempt) : Prop
  | setback {reason : String} : a.setback? = some reason → a.challenge? = none →
      a.redirect? = none → Counted a
  | challenge {message : String} : a.setback? = none → a.challenge? = some message →
      a.redirect? = none → Counted a
  | redirect {targets : RedirectTargets} : a.setback? = none → a.challenge? = none →
      a.redirect? = some targets → Counted a
  | none : a.setback? = none → a.challenge? = none → a.redirect? = none → Counted a

theorem Attempt.counted (a : Attempt) : a.Counted := by
  rcases a with ⟨e | (_ | _ | targets), eventful⟩
  · cases e with
    | transport | endpointsExhausted => exact .setback rfl rfl rfl
    | authRequired => exact .challenge rfl rfl rfl
    | malformedReply | redirect | reconnectsExhausted => exact .none rfl rfl rfl
  · exact .none rfl rfl rfl
  · exact .setback rfl rfl rfl
  · exact .redirect rfl rfl rfl

namespace Decision

theorem of_setback {reason : String} (h : a.setback? = some reason) :
    of o t a.outcome = ofFailure o t reason := by
  have htransport (cause : TransportError) : cause.kind ≠ .authRequired := by
    cases cause <;> simp [TransportError.kind]
  have hexhausted (url : String) (last : Option TransportError) :
      (RpcError.endpointsExhausted url last).kind ≠ .authRequired := by
    cases last with
    | none => simp [RpcError.kind]
    | some cause => exact htransport cause
  rcases a with ⟨e | (_ | _ | targets), eventful⟩
  · cases e with
    | transport cause =>
        cases h
        exact if_neg (htransport cause)
    | endpointsExhausted url last =>
        cases h
        exact if_neg (hexhausted url last)
    | _ => cases h
  · cases h
  · cases h
    rfl
  · cases h

theorem of_challenge {message : String} (h : a.challenge? = some message) :
    of o t a.outcome =
      if o.credentials.isSome ∧ t.challenges + 1 ≤ Tally.maxChallenges then
        .renew { t with challenges := t.challenges + 1 }
      else .finish (.error (.authRequired message)) := by
  rcases a with ⟨e | (_ | _ | targets), eventful⟩
  · cases e <;> cases h
    rfl
  all_goals cases h

theorem of_redirect {targets : RedirectTargets} (h : a.redirect? = some targets) :
    of o t a.outcome =
      if t.redirects + 1 ≤ Tally.maxRedirects then
        .follow targets { t with redirects := t.redirects + 1 }
      else .finish (.error (.redirect targets.leader.label)) := by
  rcases a with ⟨e | (_ | _ | found), eventful⟩ <;> cases h
  rfl

/-- What counts as nothing ends the subscription. -/
theorem of_uncounted (hsetback : a.setback? = none) (hchallenge : a.challenge? = none)
    (hredirect : a.redirect? = none) :
    of o t a.outcome = .finish (a.outcome.map fun _ => .cancelled) := by
  rcases a with ⟨e | (_ | _ | found), eventful⟩
  · cases e with
    | transport | endpointsExhausted => cases hsetback
    | authRequired => cases hchallenge
    | malformedReply | redirect | reconnectsExhausted => rfl
  · rfl
  · cases hsetback
  · cases hredirect

end Decision

theorem countP_concat_of_some {β : Type} {f : Attempt → Option β} {b : β} {n : Nat}
    (hcount : recent.countP (fun a => (f a).isSome) = n) (h : f a = some b) :
    (recent ++ [a]).countP (fun a => (f a).isSome) = n + 1 := by
  rw [List.countP_append, List.countP_singleton, hcount, h]
  rfl

theorem countP_concat_of_none {β : Type} {f : Attempt → Option β} {n : Nat}
    (hcount : recent.countP (fun a => (f a).isSome) = n) (h : f a = none) :
    (recent ++ [a]).countP (fun a => (f a).isSome) = n := by
  rw [List.countP_append, List.countP_singleton, hcount, h]
  rfl

/-- A tally with which the subscription goes on has counted the attempt as well. -/
theorem Tally.Counts.goesOn (h : t.Counts o recent)
    (hu : (Decision.of o t a.outcome).tally? = some u) : u.Counts o (recent ++ [a]) := by
  have hlength : (recent ++ [a]).length = t.failures + t.challenges + t.redirects + 1 := by
    rw [List.length_append, h.length, List.length_singleton]
  cases a.counted with
  | setback hsetback hchallenge hredirect =>
      rw [Decision.of_setback hsetback, Decision.ofFailure] at hu
      split at hu <;> cases hu
      rename_i hroom
      exact {
        failures := countP_concat_of_some h.failures hsetback
        challenges := countP_concat_of_none h.challenges hchallenge
        redirects := countP_concat_of_none h.redirects hredirect
        length := by dsimp only; omega
        failures_le := hroom
        challenges_le := h.challenges_le
        redirects_le := h.redirects_le }
  | challenge hsetback hchallenge hredirect =>
      rw [Decision.of_challenge hchallenge] at hu
      split at hu <;> cases hu
      rename_i hroom
      exact {
        failures := countP_concat_of_none h.failures hsetback
        challenges := countP_concat_of_some h.challenges hchallenge
        redirects := countP_concat_of_none h.redirects hredirect
        length := by dsimp only; omega
        failures_le := h.failures_le
        challenges_le := hroom.2
        redirects_le := h.redirects_le }
  | redirect hsetback hchallenge hredirect =>
      rw [Decision.of_redirect hredirect] at hu
      split at hu <;> cases hu
      rename_i hroom
      exact {
        failures := countP_concat_of_none h.failures hsetback
        challenges := countP_concat_of_none h.challenges hchallenge
        redirects := countP_concat_of_some h.redirects hredirect
        length := hlength
        failures_le := h.failures_le
        challenges_le := h.challenges_le
        redirects_le := hroom }
  | none hsetback hchallenge hredirect =>
      rw [Decision.of_uncounted hsetback hchallenge hredirect] at hu
      cases hu

/-- Where a subscription gives up there is a reason to. -/
theorem Tally.Counts.concedes (h : t.Counts o recent) {e : RpcError}
    (ha : ∀ e, a.outcome = .error e → e.isJoint = false)
    (hfinish : Decision.of o t a.outcome = .finish (.error e)) :
    Concedes o (recent ++ [a]) a e := by
  cases a.counted with
  | setback hsetback hchallenge hredirect =>
      have hcount := countP_concat_of_some h.failures hsetback
      rw [Decision.of_setback hsetback, Decision.ofFailure] at hfinish
      split at hfinish <;> cases hfinish
      apply Concedes.setback hsetback
      have hle := h.failures_le
      omega
  | challenge hsetback hchallenge hredirect =>
      have hcount := countP_concat_of_some h.challenges hchallenge
      rw [Decision.of_challenge hchallenge] at hfinish
      split at hfinish <;> cases hfinish
      rename_i hroom
      apply Concedes.challenge hchallenge
      cases hcredentials : o.credentials with
      | none => exact .inl rfl
      | some credentials =>
          have hle := h.challenges_le
          simp only [hcredentials, Option.isSome_some, true_and, Tally.maxChallenges] at hroom hle
          exact .inr (by omega)
  | redirect hsetback hchallenge hredirect =>
      have hcount := countP_concat_of_some h.redirects hredirect
      rw [Decision.of_redirect hredirect] at hfinish
      split at hfinish <;> cases hfinish
      rename_i hroom
      apply Concedes.redirect hredirect
      have hle := h.redirects_le
      rw [Tally.maxRedirects] at hroom hle
      omega
  | none hsetback hchallenge hredirect =>
      rw [Decision.of_uncounted hsetback hchallenge hredirect] at hfinish
      cases houtcome : a.outcome with
      | ok outcome => rw [houtcome] at hfinish; cases hfinish
      | error e' =>
          rw [houtcome] at hfinish
          cases hfinish
          exact .other houtcome hsetback hchallenge (ha _ houtcome)

/-- Where there is a reason to a subscription gives up. -/
theorem Concedes.finish {e : RpcError} (h : Concedes o (recent ++ [a]) a e)
    (hcounts : t.Counts o recent) : Decision.of o t a.outcome = .finish (.error e) := by
  cases h with
  | setback hsetback hcount =>
      rw [countP_concat_of_some hcounts.failures hsetback] at hcount
      rw [Decision.of_setback hsetback, Decision.ofFailure, if_neg (by omega)]
  | challenge hchallenge hcount =>
      rw [countP_concat_of_some hcounts.challenges hchallenge] at hcount
      rw [Decision.of_challenge hchallenge, if_neg]
      rintro ⟨hcredentials, hroom⟩
      rw [Tally.maxChallenges] at hroom
      rcases hcount with hnone | hcount
      · rw [hnone] at hcredentials
        cases hcredentials
      · omega
  | redirect hredirect hcount =>
      rw [countP_concat_of_some hcounts.redirects hredirect] at hcount
      rw [Decision.of_redirect hredirect, Tally.maxRedirects, if_neg (by omega)]
  | other houtcome hsetback hchallenge _ =>
      have hredirect : a.redirect? = none := by rw [Attempt.redirect?, houtcome]
      rw [Decision.of_uncounted hsetback hchallenge hredirect, houtcome]
      rfl

end

/-! ## Runs -/

namespace Client

section

variable (request : SubscriptionRequest) (body : Bytes) (subscriber : Subscriber)

/-- The attempt made from a standing. What it handed over is told by the trace. -/
def Standing.attempted (s : Standing) : Attempt where
  outcome := outcome (runStream request body subscriber s.client)
  eventful := eventful s.client (finalState (runStream request body subscriber s.client))

/-- The attempts made from standings. There is none where the flag is up. -/
def attempts (standings : List Standing) : List Attempt :=
  (standings.filter (!·.client.world.cancelled)).map (Standing.attempted request body subscriber)

end

/-- How the attempts of a subscription and its result belong together, given the attempts of before.
Those since the last event are never many. Where there is a reason to give up the subscription ends
with it, and there is one where it ends in a failure. -/
structure Endures (o : ClientOptions) (history attempts : List Attempt)
    (result : Except RpcError SubscriptionEnd) : Prop where
  recent : ∀ before a after, attempts = before ++ a :: after →
    (sinceEvent (history ++ before ++ [a])).length ≤ o.reconnectAttempts + 5
  ends : ∀ before a after e, attempts = before ++ a :: after →
    Concedes o (sinceEvent (history ++ before ++ [a])) a e → after = [] ∧ result = .error e
  failed : ∀ e, result = .error e → ∃ before a, attempts = before ++ [a] ∧
    Concedes o (sinceEvent (history ++ before ++ [a])) a e

section

variable {o : ClientOptions} {t : Tally} {history : List Attempt} {a : Attempt}
  {result : Except RpcError SubscriptionEnd}

theorem Endures.nil (h : ∀ e, result ≠ .error e) : Endures o history [] result where
  recent := by simp
  ends := by simp
  failed := fun e he => absurd he (h e)

theorem length_sinceEvent_concat (h : t.Counts o (sinceEvent history)) (a : Attempt) :
    (sinceEvent (history ++ [a])).length ≤ o.reconnectAttempts + 5 := by
  obtain ⟨-, -, -, hlength, hle, hle', hle''⟩ := h.tallied a
  rw [Tally.maxChallenges] at hle'
  rw [Tally.maxRedirects] at hle''
  rw [sinceEvent_concat, List.length_append, hlength, List.length_singleton]
  omega

/-- The last attempt. -/
theorem Endures.single (h : t.Counts o (sinceEvent history))
    (ha : ∀ e, a.outcome = .error e → e.isJoint = false)
    (hresult : ∀ e, Decision.of o (a.tallied t) a.outcome = .finish (.error e) ↔
      result = .error e) : Endures o history [a] result where
  recent := by
    intro before a' after hsplit
    obtain ⟨rfl, rfl, rfl⟩ : before = [] ∧ a' = a ∧ after = [] := by
      simpa [List.cons_eq_append_iff, and_comm] using hsplit
    rw [List.append_nil]
    exact length_sinceEvent_concat h a'
  ends := by
    intro before a' after e hsplit hconcedes
    obtain ⟨rfl, rfl, rfl⟩ : before = [] ∧ a' = a ∧ after = [] := by
      simpa [List.cons_eq_append_iff, and_comm] using hsplit
    rw [List.append_nil, sinceEvent_concat] at hconcedes
    exact ⟨rfl, (hresult e).1 (hconcedes.finish (h.tallied a'))⟩
  failed := by
    intro e he
    refine ⟨[], a, rfl, ?_⟩
    rw [List.append_nil, sinceEvent_concat]
    exact (h.tallied a).concedes ha ((hresult e).2 he)

/-- An attempt after which the subscription goes on. -/
theorem Endures.cons {u : Tally} {rest : List Attempt} (h : t.Counts o (sinceEvent history))
    (hu : (Decision.of o (a.tallied t) a.outcome).tally? = some u)
    (hrest : Endures o (history ++ [a]) rest result) : Endures o history (a :: rest) result where
  recent := by
    intro before b after hsplit
    cases before with
    | nil =>
        obtain ⟨rfl, rfl⟩ := List.cons.inj hsplit
        rw [List.append_nil]
        exact length_sinceEvent_concat h a
    | cons _ before =>
        obtain ⟨rfl, htail⟩ := List.cons.inj hsplit
        rw [List.append_cons history]
        exact hrest.recent before b after htail
  ends := by
    intro before b after e hsplit hconcedes
    cases before with
    | nil =>
        obtain ⟨rfl, rfl⟩ := List.cons.inj hsplit
        rw [List.append_nil, sinceEvent_concat] at hconcedes
        rw [hconcedes.finish (h.tallied a)] at hu
        cases hu
    | cons _ before =>
        obtain ⟨rfl, htail⟩ := List.cons.inj hsplit
        rw [List.append_cons history] at hconcedes
        exact hrest.ends before b after e htail hconcedes
  failed := by
    intro e he
    obtain ⟨before, b, rfl, hconcedes⟩ := hrest.failed e he
    refine ⟨a :: before, b, rfl, ?_⟩
    rw [List.append_cons history a before]
    exact hconcedes

end

section

variable {o : ClientOptions} {request : SubscriptionRequest} {body : Bytes}
  {subscriber : Subscriber} {s : Standing} {standings : List Standing} {history : List Attempt}
  {result : EStateM.Result RpcError Client SubscriptionEnd}

theorem attempt_fst (s : Standing) :
    (attempt o request body subscriber s.tally s.client).1 =
      .of o ((s.attempted request body subscriber).tallied s.tally)
        (s.attempted request body subscriber).outcome := by
  rw [attempt_eq, (told_runStream request body subscriber s.client).progressed]
  rfl

/-- No attempt gives up reconnecting by itself. -/
theorem not_isJoint_of_attempted {e : RpcError}
    (h : (s.attempted request body subscriber).outcome = .error e) : e.isJoint = false := by
  simp only [Standing.attempted] at h
  cases hr : runStream request body subscriber s.client with
  | ok outcome c => rw [hr] at h; cases h
  | error e' c =>
      rw [hr] at h
      cases h
      simpa using failsWith_runStream request body subscriber _ _ _ hr

theorem Ends.endures (h : Ends o request body subscriber s result)
    (ht : s.tally.Counts o (sinceEvent history)) :
    Endures o history (attempts request body subscriber [s]) (outcome result) := by
  -- An attempt is made if the flag is down, and it is the last one.
  have hsingle (hdown : s.client.world.cancelled = false)
      (hresult : ∀ e, (attempt o request body subscriber s.tally s.client).1 =
        .finish (.error e) ↔ outcome result = .error e) :
      Endures o history (attempts request body subscriber [s]) (outcome result) := by
    have hattempts : attempts request body subscriber [s] =
        [s.attempted request body subscriber] := by simp [attempts, hdown]
    rw [attempt_fst] at hresult
    rw [hattempts]
    exact .single ht (fun e he => not_isJoint_of_attempted he) hresult
  cases h with
  | cancelled hup =>
      have hattempts (t : Tally) (c : Client) (hup : c.world.cancelled = true) :
          attempts request body subscriber [⟨t, c⟩] = [] := by simp [attempts, hup]
      rw [hattempts _ _ hup]
      exact .nil fun e h => nomatch h
  | done hdown hattempt | failed hdown hattempt | paused hdown hattempt _ =>
      apply hsingle hdown
      intro e
      simp [hattempt, outcome]

theorem Course.endures (h : Course o request body subscriber (s :: standings) result)
    (ht : s.tally.Counts o (sinceEvent history)) :
    Endures o history (attempts request body subscriber (s :: standings)) (outcome result) := by
  generalize hl : s :: standings = l at h
  induction h generalizing s standings history with
  | last hends =>
      cases hl
      exact hends.endures ht
  | @resumed s s' rest result hstep _ ih =>
      cases hl
      have hu := hstep.carriedOut.1
      rw [attempt_fst] at hu
      have hnext : s'.tally.Counts o
          (sinceEvent (history ++ [s.attempted request body subscriber])) := by
        rw [sinceEvent_concat]
        exact (ht.tallied _).goesOn hu
      have hattempts : attempts request body subscriber (s :: s' :: rest) =
          s.attempted request body subscriber :: attempts request body subscriber (s' :: rest) := by
        simp [attempts, hstep.uncancelled]
      rw [hattempts]
      exact .cons ht hu (ih hnext rfl)

end

end Client

end ClusterRpc
