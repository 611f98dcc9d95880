import ClusterRpc.Client.Subscribe
import ClusterRpc.Proofs.Connecting
import ClusterRpc.Proofs.Ledger
import Mathlib.Data.List.Chain
import Mathlib.Tactic.Ring

/-!
# What a call says and hears

A call is a conversation: requests, the replies they bring, the redirects that are followed, and the
login that answers a challenge. This file reads the conversation off the trace and bounds it.
-/

namespace ClusterRpc

/-- What belongs to a conversation. -/
inductive Turn where
  | request (uri : String)
  | reply (uri : String) (reply : Reply)
  | failure (uri : String) (cause : RpcError)
  | follow (uri : String)
deriving DecidableEq

namespace Turn

def of : Event → Option Turn
  | .request uri _ _ => some (.request uri)
  | .reply uri r => some (.reply uri r)
  | .failure uri cause => some (.failure uri cause)
  | .follow uri _ => some (.follow uri)
  | _ => none

def isRequest : Turn → Bool
  | request _ => true
  | _ => false

def isFollow : Turn → Bool
  | follow _ => true
  | _ => false

/-- The URI of the request that a turn belongs to. -/
def uri : Turn → String
  | request uri | reply uri _ | failure uri _ | follow uri => uri

/-- What may follow what in a call for `uri`. Nothing follows a failure; and another request is only
made on account of a reply: one that redirects, one that challenges, or one that accepts a login. -/
inductive Next (uri : String) (allowRedirect : Bool) : Turn → Turn → Prop
  | reply (v : String) (r : Reply) : Next uri allowRedirect (.request v) (.reply v r)
  | failure (v : String) (e : RpcError) : Next uri allowRedirect (.request v) (.failure v e)
  | follow (v : String) {r : Reply} : allowRedirect = true → r.isRedirect = true →
      r.redirectTargets?.isSome = true → Next uri allowRedirect (.reply v r) (.follow v)
  | redirected (v : String) : Next uri allowRedirect (.follow v) (.request v)
  | challenged {r : Reply} : uri ≠ Client.loginUri → r.isAuthRequired = true →
      Next uri allowRedirect (.reply uri r) (.request Client.loginUri)
  | accepted {r : Reply} : uri ≠ Client.loginUri → r.isOk = true →
      Next uri allowRedirect (.reply Client.loginUri r) (.request uri)

end Turn

/-- The turns of a conversation among the events of a trace. -/
def turns (events : List Event) : List Turn := events.filterMap Turn.of

@[simp] theorem turns_append (events new : List Event) :
    turns (events ++ new) = turns events ++ turns new := List.filterMap_append

theorem turns_cons_request (uri : String) (h : Handle) (frame : RequestFrame)
    (events : List Event) : turns (.request uri h frame :: events) = .request uri :: turns events :=
  rfl

/-- No turn of a conversation. -/
def Event.isUnspoken : Event → Bool := isApart [.request, .reply, .failure, .follow]

theorem Turn.of_isUnspoken (e : Event) (h : e.isUnspoken = true) : Turn.of e = none := by
  cases e <;> first | rfl | cases h

/-- Neither a turn of a conversation nor octets put on a connection. -/
def Event.isQuiet : Event → Bool := isApart [.request, .reply, .failure, .follow, .write]

theorem Event.octetsWritten_of_isQuiet (e : Event) (h : e.isQuiet = true) :
    e.octetsWritten = [] := by
  cases e <;> first | rfl | cases h

theorem turns_eq_nil {p : Event → Bool} {events : List Event} (h : events.all p = true)
    (hp : ∀ e, p e = true → e.isUnspoken = true) : turns events = [] :=
  List.filterMap_eq_nil_iff.2 fun e he =>
    Turn.of_isUnspoken e (hp e (List.all_eq_true.1 h e he))

/-- Each write brings what comes next of the latest request, and a reply is one that was heard. -/
def Ledger.Faithful (L : Ledger) (e : Event) : Prop :=
  L.Fits e ∧ ∀ uri r, e = .reply uri r → L.Heard uri r

theorem Ledger.faithful_of_ne_reply {L : Ledger} {e : Event} (h : L.Fits e)
    (hne : ∀ uri r, e ≠ .reply uri r) : L.Faithful e :=
  ⟨h, fun uri r he => absurd he (hne uri r)⟩

theorem Ledger.faithful_of_isQuiet (L : Ledger) (e : Event) (h : e.isQuiet = true) :
    L.Faithful e := by
  refine faithful_of_ne_reply ?_ ?_
  · rw [Fits, e.octetsWritten_of_isQuiet h]
    exact List.nil_prefix
  · rintro uri r rfl
    cases h

namespace Client

/-- Adds events that satisfy `S`, given how it ends, and that are faithful whatever was before. -/
def Adds {α : Type} (x : Action α) (S : Except RpcError α → List Turn → Prop) : Prop :=
  ∀ c, ∃ new, (finalState (x c)).world.trace = c.world.trace ++ new ∧
    (∀ L : Ledger, L.Admits Ledger.Faithful new) ∧ S (outcome (x c)) (turns new)

section

variable {α β : Type} {S R : Except RpcError α → List Turn → Prop}

theorem Adds.bind {T : α → Except RpcError β → List Turn → Prop}
    {R : Except RpcError β → List Turn → Prop} {x : Action α} {f : α → Action β} (hx : Adds x S)
    (hf : ∀ a, Adds (f a) (T a)) (herror : ∀ e ts, S (.error e) ts → R (.error e) ts)
    (hok : ∀ a r ts ts', S (.ok a) ts → T a r ts' → R r (ts ++ ts')) :
    Adds (x >>= f) R := by
  intro c
  obtain ⟨new, hnew, hadmits, hS⟩ := hx c
  simp only [Bind.bind, EStateM.bind]
  cases hr : x c with
  | error e c' =>
      rw [hr] at hnew hS
      exact ⟨new, hnew, hadmits, herror e _ hS⟩
  | ok a c' =>
      rw [hr] at hnew hS
      obtain ⟨new', hnew', hadmits', hT⟩ := hf a c'
      refine ⟨new ++ new', ?_, fun L => Ledger.admits_append.2 ⟨hadmits L, hadmits' _⟩, ?_⟩
      · rw [hnew', show c'.world.trace = _ from hnew, List.append_assoc]
      · rw [turns_append]
        exact hok a _ _ _ hS hT

theorem Adds.mono {x : Action α} (h : Adds x S) (hSR : ∀ r ts, S r ts → R r ts) : Adds x R := by
  intro c
  obtain ⟨new, hnew, hadmits, hS⟩ := h c
  exact ⟨new, hnew, hadmits, hSR _ _ hS⟩

theorem Adds.throw {e : RpcError} (h : S (.error e) []) : Adds (throw e : Action α) S :=
  fun _ => ⟨[], (List.append_nil _).symm, fun _ => trivial, h⟩

theorem Adds.pure {a : α} (h : S (.ok a) []) : Adds (pure a : Action α) S :=
  fun _ => ⟨[], (List.append_nil _).symm, fun _ => trivial, h⟩

/-- An update of the client with quiet events, after some that are turns. -/
theorem adds_modify {f : Client → Client} (es : List Event)
    (hes : ∀ L : Ledger, L.Admits Ledger.Faithful es)
    (h : ∀ c : Client, ∃ quiet, (f c).world.trace = c.world.trace ++ es ++ quiet ∧
      quiet.all Event.isQuiet = true) :
    Adds (modify f : Action PUnit) fun r ts => r = .ok ⟨⟩ ∧ ts = turns es := by
  intro c
  obtain ⟨quiet, htrace, hquiet⟩ := h c
  refine ⟨es ++ quiet, by rw [← List.append_assoc]; exact htrace, fun L => ?_, rfl, ?_⟩
  · exact Ledger.admits_append.2 ⟨hes L, Ledger.admits_of_all hquiet Ledger.faithful_of_isQuiet⟩
  · rw [turns_append, turns_eq_nil hquiet (Event.isApart_mono rfl), List.append_nil]

end

/-! ## Exchanges -/

/-- How an exchange may go: without a request, or with one that brings a reply or fails. -/
inductive Exchanged (uri : String) : Except RpcError Reply → List Turn → Prop
  | unsent (e : RpcError) : Exchanged uri (.error e) []
  | replied (r : Reply) : Exchanged uri (.ok r) [.request uri, .reply uri r]
  | failed (e : RpcError) : Exchanged uri (.error e) [.request uri, .failure uri e]

theorem faithful_ofResult {L : Ledger} {uri : String} {h : Handle} {frame : RequestFrame}
    {sent heard : List Event} {block : Option Bytes} {result : Except RpcError Reply}
    (ha : Answers frame h sent heard block result) :
    ((L.answered uri frame sent heard).notes (block.map Event.learn).toList).Faithful
      (.ofResult uri result) := by
  cases result with
  | error e =>
      refine Ledger.faithful_of_ne_reply ?_ ?_
      · exact List.nil_prefix
      · rintro uri r ⟨⟩
  | ok r =>
      refine ⟨List.nil_prefix, ?_⟩
      rintro uri r ⟨⟩
      exact Ledger.heard_answered ha

/-- Of an exchange its end is a turn, and nothing between. -/
theorem turns_answered {uri : String} {h : Handle} {frame : RequestFrame} {sent heard : List Event}
    {block : Option Bytes} {result : Except RpcError Reply}
    (ha : Answers frame h sent heard block result) :
    turns (sent ++ (heard ++ [.shutdown]) ++
      ((block.map .learn).toList ++ [.ofResult uri result])) = turns [.ofResult uri result] := by
  have hsent := turns_eq_nil ha.sent_all (Event.isApart_of_isAmong rfl)
  have hheard := turns_eq_nil ha.heard_all (Event.isApart_of_isAmong rfl)
  have hlearn : turns (block.map Event.learn).toList = [] := by cases block <;> rfl
  rw [turns_append, turns_append, turns_append, turns_append, hsent, hheard, hlearn]
  rfl

theorem transact_adds (uri : String) (body : Bytes) {c : Client}
    (hopen : c.channel.isConnected = true) : ∃ new,
      (finalState (transact uri body c)).world.trace = c.world.trace ++ new ∧
      (∀ L : Ledger, L.Admits Ledger.Faithful new) ∧
      Exchanged uri (outcome (transact uri body c)) (turns new) := by
  cases hh : c.handle with
  | none =>
      have hx : transact uri body c = .error (.transport .notConnected) c := by
        simp only [transact, frame, Bind.bind, EStateM.bind, hh]
      rw [hx]
      exact ⟨[], (List.append_nil _).symm, fun _ => trivial, .unsent _⟩
  | some h =>
      obtain ⟨frame, sent, heard, block, world, -, ha, hfinal, htrace⟩ :=
        transact_spec uri body hopen hh
      generalize outcome (transact uri body c) = result at ha htrace ⊢
      refine ⟨_, by rw [hfinal]; exact htrace, fun L => ?_, ?_⟩
      · rw [Ledger.admits_append, Ledger.notes_answered ha, Ledger.admits_append]
        refine ⟨Ledger.admits_answered ha ?_ ?_ ?_ ?_, ?_, faithful_ofResult ha, trivial⟩
        · exact Ledger.faithful_of_ne_reply List.nil_prefix (by rintro uri r ⟨⟩)
        · intro unsent e he hfits
          refine Ledger.faithful_of_ne_reply hfits ?_
          rintro uri r rfl
          cases he
        · exact fun L e he => L.faithful_of_isQuiet e (e.isApart_of_isAmong rfl he)
        · exact fun L => L.faithful_of_isQuiet _ rfl
        · refine Ledger.admits_of_all ?_ Ledger.faithful_of_isQuiet
          cases block <;> rfl
      · rw [List.cons_append, turns_cons_request, turns_answered ha]
        cases result with
        | ok r => exact .replied r
        | error e => exact .failed e

theorem exchange_adds (uri : String) (body : Bytes) (useRedirect : Bool) :
    Adds (exchange uri body useRedirect) (Exchanged uri) := by
  intro c
  obtain ⟨quiet, hquiet, hall⟩ := grows_ensureConnected useRedirect c
  have hadmits : ∀ L : Ledger, L.Admits Ledger.Faithful quiet := fun L =>
    Ledger.admits_of_all hall fun L e he => L.faithful_of_isQuiet e (e.isApart_of_isAmong rfl he)
  have hturns : turns quiet = [] :=
    turns_eq_nil hall (Event.isApart_of_isAmong rfl)
  simp only [exchange, Bind.bind, EStateM.bind]
  rcases hr : ensureConnected useRedirect c with ⟨⟨⟩, c'⟩ | ⟨e, c'⟩ <;> rw [hr] at hquiet
  · obtain ⟨new, hnew, hnew', hex⟩ := transact_adds uri body (isConnected_of_ensureConnected hr)
    refine ⟨quiet ++ new, ?_, fun L => Ledger.admits_append.2 ⟨hadmits L, hnew' _⟩, ?_⟩
    · rw [hnew, show c'.world.trace = _ from hquiet, List.append_assoc]
    · rw [turns_append, hturns]
      exact hex
  · refine ⟨quiet, hquiet, hadmits, ?_⟩
    rw [hturns]
    exact .unsent e

/-! ## Calls -/

/-- How a call for `uri` may go. At most `hops` redirects of it are followed, and at most `logins`
challenges are answered, if challenges are answered at all; `Answer` says how a login may go. -/
inductive Dialogue (uri : String) (allowRedirect answers : Bool)
    (Answer : Except RpcError Unit → List Turn → Prop) :
    Nat → Nat → Except RpcError Reply → List Turn → Prop
  | broken {hops logins : Nat} {e : RpcError} {ts : List Turn} : Exchanged uri (.error e) ts →
      Dialogue uri allowRedirect answers Answer hops logins (.error e) ts
  | refused {hops logins : Nat} {r : Reply} {e : RpcError} {ts : List Turn} :
      Exchanged uri (.ok r) ts →
      Dialogue uri allowRedirect answers Answer hops logins (.error e) ts
  | finished {hops logins : Nat} {r : Reply} {ts : List Turn} : Exchanged uri (.ok r) ts →
      (r.isRedirect && allowRedirect) = false → (r.isAuthRequired && answers) = false →
      Dialogue uri allowRedirect answers Answer hops logins (.ok r) ts
  | followed {hops logins : Nat} {r : Reply} {result : Except RpcError Reply}
      {ts ts' : List Turn} : Exchanged uri (.ok r) ts →
      allowRedirect = true → r.isRedirect = true → r.redirectTargets?.isSome = true →
      Dialogue uri allowRedirect answers Answer hops logins result ts' →
      Dialogue uri allowRedirect answers Answer (hops + 1) logins result (ts ++ .follow uri :: ts')
  | unanswered {hops logins : Nat} {r : Reply} {e : RpcError} {ts ts' : List Turn} :
      Exchanged uri (.ok r) ts → answers = true → r.isAuthRequired = true → Answer (.error e) ts' →
      Dialogue uri allowRedirect answers Answer hops (logins + 1) (.error e) (ts ++ ts')
  | answered {hops logins : Nat} {r : Reply} {result : Except RpcError Reply}
      {ts ts' ts'' : List Turn} : Exchanged uri (.ok r) ts → answers = true →
      r.isAuthRequired = true → Answer (.ok ()) ts' →
      Dialogue uri allowRedirect answers Answer hops logins result ts'' →
      Dialogue uri allowRedirect answers Answer hops (logins + 1) result (ts ++ (ts' ++ ts''))

theorem followRedirect_adds (uri : String) (targets : RedirectTargets) :
    Adds (modify (followRedirect uri targets) : Action PUnit)
      fun r ts => r = .ok ⟨⟩ ∧ ts = [.follow uri] := by
  refine adds_modify [.follow uri targets] (fun L => ?_) fun c => ?_
  · exact ⟨Ledger.faithful_of_ne_reply List.nil_prefix (by rintro uri r ⟨⟩), trivial⟩
  · obtain ⟨quiet, hquiet, hall⟩ :=
      (grows_followRedirect uri targets c).mono (q := Event.isQuiet)
        (Event.isApart_of_isAmong rfl)
    exact ⟨quiet, hquiet, hall⟩

/-- A call goes as dialogues go. -/
theorem converse_adds (uri : String) (body : Bytes) (allowRedirect : Bool)
    {login : Option (Action Unit)} (Answer : Except RpcError Unit → List Turn → Prop)
    (hl : ∀ x, login = some x → Adds x Answer) (hops logins : Nat) :
    Adds (converse uri body allowRedirect login hops logins)
      (Dialogue uri allowRedirect login.isSome Answer hops logins) := by
  fun_induction converse uri body allowRedirect login hops logins with
  | case1 hops logins ih ih' =>
      let T (reply : Reply) (r : Except RpcError Reply) (ts' : List Turn) : Prop :=
        ∀ ts, Exchanged uri (.ok reply) ts →
          Dialogue uri allowRedirect login.isSome Answer hops logins r (ts ++ ts')
      refine (exchange_adds uri body allowRedirect).bind (T := T) (fun reply => ?_) ?_ ?_
      · have hrefused (e : RpcError) : T reply (.error e) [] := by
          intro ts h
          rw [List.append_nil]
          exact .refused h
        split
        · rename_i hredirect
          rw [Bool.and_eq_true] at hredirect
          split
          · exact Adds.throw (hrefused _)
          · rename_i targets htargets
            split
            · exact Adds.throw (hrefused _)
            · rename_i hops
              refine (followRedirect_adds uri targets).bind (fun _ => ih) ?_ ?_
              · rintro e ts ⟨⟨⟩, -⟩
              · rintro _ r ts' ts'' ⟨-, rfl⟩ hd ts h
                exact .followed h hredirect.2 hredirect.1 (by rw [htargets]; rfl) hd
        · rename_i hredirect
          split
          · rename_i answer hauth
            split
            · exact Adds.throw (hrefused _)
            · rename_i logins
              refine (hl answer rfl).bind (fun _ => ih') ?_ ?_
              · intro e ts' hanswer ts h
                exact .unanswered h rfl hauth hanswer
              · intro _ r ts' ts'' hanswer hd ts h
                exact .answered h rfl hauth hanswer hd
          · rename_i hnone
            refine Adds.pure fun ts h => ?_
            rw [List.append_nil]
            refine .finished h (Bool.eq_false_iff.2 hredirect) (Bool.eq_false_iff.2 ?_)
            intro hand
            rw [Bool.and_eq_true, Option.isSome_iff_exists] at hand
            obtain ⟨hauth, x, hx⟩ := hand
            exact hnone x hauth hx
      · exact fun e ts h => .broken h
      · exact fun reply r ts ts' h hT => hT ts h

/-! ## What a dialogue amounts to -/

section

variable {top uri : String} {allowRedirect answers : Bool}
  {Answer : Except RpcError Unit → List Turn → Prop} {hops logins : Nat}
  {result : Except RpcError Reply} {ts : List Turn}

/-- The turns of a dialogue that are counted: those of every exchange, of every redirect that is
followed, and of every login. -/
theorem Dialogue.countP_le {p : Turn → Bool} {a b n : Nat}
    (h : Dialogue uri allowRedirect answers Answer hops logins result ts)
    (hexchange : ∀ r ts, Exchanged uri r ts → ts.countP p ≤ a)
    (hfollow : [Turn.follow uri].countP p ≤ b)
    (hanswer : answers = true → ∀ r ts, Answer r ts → ts.countP p ≤ n) :
    ts.countP p ≤ (hops + logins + 1) * a + hops * b + logins * n := by
  induction h with
  | broken hex | refused hex | finished hex =>
      have := hexchange _ _ hex
      rw [Nat.add_mul]
      omega
  | @followed hops logins r result ts ts' hex _ _ _ _ ih =>
      have := hexchange _ _ hex
      have hstep : (hops + 1 + logins + 1) * a + (hops + 1) * b + logins * n =
          (hops + logins + 1) * a + hops * b + logins * n + a + b := by ring
      rw [hstep, ← List.singleton_append, List.countP_append, List.countP_append]
      omega
  | @unanswered hops logins r e ts ts' hex hans _ hlogin =>
      have := hexchange _ _ hex
      have := hanswer hans _ _ hlogin
      have hstep : (hops + (logins + 1) + 1) * a + hops * b + (logins + 1) * n =
          (hops + logins + 1) * a + hops * b + logins * n + a + n := by ring
      rw [hstep, List.countP_append]
      omega
  | @answered hops logins r result ts ts' ts'' hex hans _ hlogin _ ih =>
      have := hexchange _ _ hex
      have := hanswer hans _ _ hlogin
      have hstep : (hops + (logins + 1) + 1) * a + hops * b + (logins + 1) * n =
          (hops + logins + 1) * a + hops * b + logins * n + a + n := by ring
      rw [hstep, List.countP_append, List.countP_append]
      omega

/-- What turns are, from their first one, `start`, to the result of a request for `uri`: they go on
as they may in a call for `top`; no request is left without its end; a reply that is given back is
the last turn; and a failure is given back. -/
structure Coherent (top : String) (allowRedirect : Bool) (start : Turn) (uri : String)
    (result : Except RpcError Reply) (ts : List Turn) : Prop where
  chain : ts.IsChain (Turn.Next top allowRedirect)
  first : ∀ t ∈ ts.head?, t = start
  last : ∀ t ∈ ts.getLast?, t.isRequest = false
  replied : ∀ r, result = .ok r → ts.getLast? = some (.reply uri r)
  failed : ∀ v e, .failure v e ∈ ts → result = .error e

/-- Turns that bring a reply, and those that are made on account of it. -/
theorem Coherent.append {start start' : Turn} {uri' : String} {r : Reply} {ts' : List Turn}
    (h : Coherent top allowRedirect start uri (.ok r) ts)
    (h' : Coherent top allowRedirect start' uri' result ts')
    (hnext : Turn.Next top allowRedirect (.reply uri r) start') :
    Coherent top allowRedirect start uri' result (ts ++ ts') where
  chain := by
    refine List.isChain_append.2 ⟨h.chain, h'.chain, ?_⟩
    rintro x hx y hy
    rw [h.replied r rfl, Option.mem_some_iff] at hx
    rw [← hx, h'.first y hy]
    exact hnext
  first := by
    have hne : ts ≠ [] := by
      rintro rfl
      cases h.replied r rfl
    rw [List.head?_append_of_ne_nil _ hne]
    exact h.first
  last := by
    intro t ht
    rw [List.getLast?_append, Option.mem_def, Option.or_eq_some_iff] at ht
    rcases ht with ht | ⟨-, ht⟩
    · exact h'.last t ht
    · exact h.last t ht
  replied := by
    intro r' hr'
    rw [List.getLast?_append, h'.replied r' hr']
    rfl
  failed := by
    intro v e hmem
    rcases List.mem_append.1 hmem with hmem | hmem
    · cases h.failed v e hmem
    · exact h'.failed v e hmem

/-- A redirect is followed by a request of the same URI. -/
theorem Coherent.follow (h : Coherent top allowRedirect (.request uri) uri result ts) :
    Coherent top allowRedirect (.follow uri) uri result (.follow uri :: ts) where
  chain := by
    cases ts with
    | nil => exact .singleton _
    | cons t ts =>
        refine .cons_cons ?_ h.chain
        rw [h.first t rfl]
        exact .redirected uri
  first := by
    rintro t ⟨⟩
    rfl
  last := by
    intro t ht
    rw [← List.singleton_append, List.getLast?_append, Option.mem_def, Option.or_eq_some_iff] at ht
    rcases ht with ht | ⟨-, ⟨⟩⟩
    · exact h.last t ht
    · rfl
  replied := by
    intro r hr
    rw [← List.singleton_append, List.getLast?_append, h.replied r hr]
    rfl
  failed := by
    intro v e hmem
    rw [List.mem_cons] at hmem
    rcases hmem with ⟨⟨⟩⟩ | hmem
    exact h.failed v e hmem

/-- A reply need not be given back. -/
theorem Coherent.refuse {start : Turn} {r : Reply} (e : RpcError)
    (h : Coherent top allowRedirect start uri (.ok r) ts) :
    Coherent top allowRedirect start uri (.error e) ts where
  chain := h.chain
  first := h.first
  last := h.last
  replied := by rintro r' ⟨⟩
  failed := by
    intro v e' hmem
    cases h.failed v e' hmem

theorem Exchanged.coherent (h : Exchanged uri result ts) :
    Coherent top allowRedirect (.request uri) uri result ts := by
  cases h with
  | unsent e => exact ⟨.nil, by simp, by simp, by simp, by simp⟩
  | replied r =>
      refine ⟨List.isChain_pair.2 (.reply uri r), by simp, by simp [Turn.isRequest], ?_, by simp⟩
      rintro _ ⟨⟩
      rfl
  | failed e =>
      refine ⟨List.isChain_pair.2 (.failure uri e), by simp, by simp [Turn.isRequest], ?_, ?_⟩
      · rintro _ ⟨⟩
      · simp

/-- How far the turns of a login may be trusted, given how it ends. -/
def Settles (top : String) (allowRedirect : Bool) (r : Except RpcError Unit) (ts : List Turn) :
    Prop :=
  match r with
  | .ok () => ∃ reply : Reply, reply.isOk = true ∧
      Coherent top allowRedirect (.request loginUri) loginUri (.ok reply) ts
  | .error e => Coherent top allowRedirect (.request loginUri) loginUri (.error e) ts

theorem Dialogue.coherent (h : Dialogue uri allowRedirect answers Answer hops logins result ts)
    (htop : answers = true → top = uri ∧ uri ≠ loginUri)
    (hanswer : answers = true → ∀ r ts, Answer r ts → Settles top allowRedirect r ts) :
    Coherent top allowRedirect (.request uri) uri result ts := by
  induction h with
  | broken hex => exact hex.coherent
  | finished hex => exact hex.coherent
  | refused hex => exact hex.coherent.refuse _
  | followed hex hallow hredirect htargets _ ih =>
      exact hex.coherent.append ih.follow (.follow uri hallow hredirect htargets)
  | unanswered hex hans hauth hlogin =>
      obtain ⟨rfl, hne⟩ := htop hans
      have hlogin : Coherent top allowRedirect (.request loginUri) loginUri (.error _) _ :=
        hanswer hans _ _ hlogin
      have h := hex.coherent.append hlogin (.challenged hne hauth)
      exact ⟨h.chain, h.first, h.last, by rintro r ⟨⟩, h.failed⟩
  | answered hex hans hauth hlogin _ ih =>
      obtain ⟨rfl, hne⟩ := htop hans
      obtain ⟨reply, hreply, hlogin⟩ := hanswer hans _ _ hlogin
      exact hex.coherent.append (hlogin.append ih (.accepted hne hreply)) (.challenged hne hauth)

/-- The turns of a call are its own but for those of one login. -/
theorem Dialogue.single_login (h : Dialogue uri allowRedirect answers Answer hops logins result ts)
    (hlogins : logins ≤ 1)
    (hanswer : answers = true → ∀ r ts, Answer r ts → ∀ t ∈ ts, t.uri = loginUri) :
    ∃ before login after, ts = before ++ (login ++ after) ∧
      (∀ t ∈ before, t.uri = uri) ∧ (∀ t ∈ login, t.uri = loginUri) ∧ (∀ t ∈ after, t.uri = uri) ∧
      (answers = false ∨ logins = 0 → login = []) := by
  have hown : ∀ {r : Except RpcError Reply} {ts : List Turn}, Exchanged uri r ts →
      ∀ t ∈ ts, t.uri = uri := by
    rintro r ts (e | r | e) <;> simp [Turn.uri]
  induction h with
  | broken hex | refused hex | finished hex =>
      exact ⟨_, [], [], by simp, hown hex, by simp, by simp, fun _ => rfl⟩
  | @followed _ _ _ _ ts ts' hex _ _ _ _ ih =>
      obtain ⟨before, login, after, rfl, hbefore, hlogin, hafter, hnil⟩ := ih hlogins
      refine ⟨ts ++ .follow uri :: before, login, after, by simp, ?_, hlogin, hafter, hnil⟩
      intro t ht
      rw [List.mem_append, List.mem_cons] at ht
      rcases ht with ht | rfl | ht
      · exact hown hex t ht
      · rfl
      · exact hbefore t ht
  | @unanswered _ _ _ _ ts ts' hex hans _ hlogin =>
      exact ⟨ts, ts', [], by simp, hown hex, hanswer hans _ _ hlogin, by simp, by simp [hans]⟩
  | @answered _ logins _ _ ts ts' ts'' hex hans _ hlogin _ ih =>
      obtain ⟨before, login, after, rfl, hbefore, -, hafter, hnil⟩ := ih (by omega)
      obtain rfl := hnil (.inr (by omega))
      refine ⟨ts, ts', before ++ after, by simp, hown hex, hanswer hans _ _ hlogin, ?_,
        by simp [hans]⟩
      intro t ht
      exact (List.mem_append.1 ht).elim (hbefore t) (hafter t)

end

/-! ## Logins -/

/-- How a login may go: without credentials nothing happens, and otherwise a reply is to accept it.
-/
inductive LoggedIn (allowRedirect : Bool) : Except RpcError Unit → List Turn → Prop
  | barred (e : RpcError) : LoggedIn allowRedirect (.error e) []
  | broken {e : RpcError} {ts : List Turn} :
      Dialogue loginUri allowRedirect false (fun _ _ => False) 1 0 (.error e) ts →
      LoggedIn allowRedirect (.error e) ts
  | refused {r : Reply} {e : RpcError} {ts : List Turn} :
      Dialogue loginUri allowRedirect false (fun _ _ => False) 1 0 (.ok r) ts →
      LoggedIn allowRedirect (.error e) ts
  | accepted {r : Reply} {ts : List Turn} :
      Dialogue loginUri allowRedirect false (fun _ _ => False) 1 0 (.ok r) ts → r.isOk = true →
      LoggedIn allowRedirect (.ok ()) ts

theorem login_adds (allowRedirect : Bool) :
    Adds (login allowRedirect) (LoggedIn allowRedirect) := by
  have hmark (authenticated : Bool) :
      Adds (modify (·.setAuthenticated authenticated) : Action PUnit)
        fun r ts => r = .ok ⟨⟩ ∧ ts = turns [] := by
    refine adds_modify [] (fun _ => trivial) fun c => ?_
    rw [List.append_nil]
    exact grows_setAuthenticated rfl c
  have hattempt (body : Bytes) :
      Adds (do
        let reply ← converse loginUri body allowRedirect none 1 0
        if !reply.isOk then throw (.authRequired reply.errorString)
        modify (·.setAuthenticated true)) (LoggedIn allowRedirect) := by
    let T (reply : Reply) (r : Except RpcError Unit) (ts' : List Turn) : Prop :=
      ∀ ts, Dialogue loginUri allowRedirect false (fun _ _ => False) 1 0 (.ok reply) ts →
        LoggedIn allowRedirect r (ts ++ ts')
    have hdialogue : Adds (converse loginUri body allowRedirect none 1 0)
        (Dialogue loginUri allowRedirect false (fun _ _ => False) 1 0) :=
      converse_adds loginUri body allowRedirect _ (by simp) 1 0
    refine hdialogue.bind (T := T) (fun reply => ?_) (fun e ts hd => .broken hd)
      (fun reply r ts ts' hd hT => hT ts hd)
    cases hok : reply.isOk with
    | false =>
        refine Adds.bind (S := fun r ts => r = .error (.authRequired reply.errorString) ∧ ts = [])
          (Adds.throw ⟨rfl, rfl⟩) (fun _ => hmark true) ?_ ?_
        · rintro e ts ⟨⟨⟩, rfl⟩ ts hd
          rw [List.append_nil]
          exact .refused hd
        · rintro _ r ts ts' ⟨⟨⟩, -⟩
    | true =>
        refine (hmark true).mono ?_
        rintro r ts' ⟨rfl, rfl⟩ ts hd
        rw [show turns [] = [] from rfl, List.append_nil]
        exact .accepted hd hok
  intro c
  cases hc : c.options.credentials with
  | none =>
      have hlogin : login allowRedirect c =
          .error (.authRequired "no credentials configured") c := by
        simp only [login, Bind.bind, EStateM.bind, get_apply, hc]
        rfl
      rw [hlogin]
      exact ⟨[], (List.append_nil _).symm, fun _ => trivial, .barred _⟩
  | some credentials =>
      have h := hattempt (payloadBytes (loginPayload credentials)) c
      simp only [login, Bind.bind, EStateM.bind, get_apply, hc]
      exact h

section

variable {allowRedirect : Bool} {r : Except RpcError Unit} {ts : List Turn}

theorem LoggedIn.settles (h : LoggedIn allowRedirect r ts) (top : String) :
    Settles top allowRedirect r ts := by
  cases h with
  | barred e => exact ⟨.nil, by simp, by simp, by simp, by simp⟩
  | broken hd => exact hd.coherent (by simp) (by simp)
  | refused hd => exact (hd.coherent (by simp) (by simp)).refuse _
  | accepted hd hok => exact ⟨_, hok, hd.coherent (by simp) (by simp)⟩

/-- A login is one dialogue, or nothing. -/
theorem LoggedIn.dialogue (h : LoggedIn allowRedirect r ts) : ts = [] ∨ ∃ result,
    Dialogue loginUri allowRedirect false (fun _ _ => False) 1 0 result ts := by
  cases h with
  | barred e => exact .inl rfl
  | broken hd => exact .inr ⟨_, hd⟩
  | refused hd => exact .inr ⟨_, hd⟩
  | accepted hd _ => exact .inr ⟨_, hd⟩

theorem LoggedIn.countP_le {p : Turn → Bool} {a b : Nat} (h : LoggedIn allowRedirect r ts)
    (hexchange : ∀ r ts, Exchanged loginUri r ts → ts.countP p ≤ a)
    (hfollow : [Turn.follow loginUri].countP p ≤ b) : ts.countP p ≤ 2 * a + b := by
  rcases h.dialogue with rfl | ⟨result, hd⟩
  · exact Nat.zero_le _
  · have := hd.countP_le hexchange hfollow (n := 0) (by simp)
    omega

theorem LoggedIn.uri (h : LoggedIn allowRedirect r ts) : ∀ t ∈ ts, t.uri = loginUri := by
  rcases h.dialogue with rfl | ⟨result, hd⟩
  · simp
  · obtain ⟨before, login, after, rfl, hbefore, hlogin, hafter, -⟩ :=
      hd.single_login (by omega) (by simp)
    intro t ht
    rw [List.mem_append, List.mem_append] at ht
    exact ht.elim (hbefore t) fun ht => ht.elim (hlogin t) (hafter t)

end

/-! ## Calls as a whole -/

/-- What a call for `uri` says and hears on the way to its result. -/
structure Conversation (uri : String) (allowRedirect : Bool) (result : Except RpcError Reply)
    (ts : List Turn) : Prop where
  /-- It makes at most five requests, -/
  requests_le : ts.countP Turn.isRequest ≤ 5
  /-- of which at most three are its own, -/
  own_le : ts.count (.request uri) ≤ 3
  /-- and follows at most one redirect of them. -/
  follows_le : ts.count (.follow uri) ≤ 1
  /-- It logs in at most once, unless it is a login itself, with at most two requests and one
  redirect that is followed. -/
  single_login : ∃ before login after, ts = before ++ (login ++ after) ∧
    (∀ t ∈ before, t.uri = uri) ∧ (∀ t ∈ after, t.uri = uri) ∧
    (uri = loginUri → login = []) ∧ (∀ t ∈ login, t.uri = loginUri) ∧
    login.count (.request loginUri) ≤ 2 ∧ login.count (.follow loginUri) ≤ 1
  /-- One turn leads to the next. -/
  coherent : Coherent uri allowRedirect (.request uri) uri result ts
  /-- Nothing follows a failure, and it is given back. -/
  failed : ∀ v e before after, ts = before ++ .failure v e :: after → after = [] ∧ result = .error e
  /-- A reply that is given back calls for nothing more. -/
  settled : ∀ r, result = .ok r → (r.isRedirect = true → allowRedirect = false) ∧
    (r.isAuthRequired = true → uri = loginUri)

theorem Coherent.failure_last {top uri v : String} {allowRedirect : Bool} {start : Turn}
    {result : Except RpcError Reply} {before after : List Turn} {e : RpcError}
    (h : Coherent top allowRedirect start uri result (before ++ .failure v e :: after)) :
    after = [] ∧ result = .error e := by
  refine ⟨?_, h.failed v e (by simp)⟩
  cases after with
  | nil => rfl
  | cons t after =>
      obtain ⟨-, hnext, -⟩ := List.isChain_append_cons_cons.1 h.chain
      cases hnext

theorem Dialogue.settled {uri : String} {allowRedirect answers : Bool}
    {Answer : Except RpcError Unit → List Turn → Prop} {hops logins : Nat}
    {result : Except RpcError Reply} {ts : List Turn}
    (h : Dialogue uri allowRedirect answers Answer hops logins result ts) :
    ∀ r, result = .ok r → (r.isRedirect && allowRedirect) = false ∧
      (r.isAuthRequired && answers) = false := by
  induction h with
  | broken _ | refused _ | unanswered _ _ _ _ => rintro r ⟨⟩
  | finished _ hredirect hauth =>
      rintro r ⟨⟩
      exact ⟨hredirect, hauth⟩
  | followed _ _ _ _ _ ih => exact ih
  | answered _ _ _ _ _ ih => exact ih

section

variable {uri v : String} {r : Except RpcError Reply} {ts : List Turn}

theorem Exchanged.countP_isRequest_le (h : Exchanged uri r ts) : ts.countP Turn.isRequest ≤ 1 := by
  cases h <;> simp [List.countP_cons, Turn.isRequest]

theorem Exchanged.count_request_le (h : Exchanged uri r ts) : ts.count (.request v) ≤ 1 := by
  cases h <;> simp [List.count_cons] <;> split <;> omega

theorem Exchanged.count_request_eq (h : Exchanged uri r ts) (hne : v ≠ uri) :
    ts.count (.request v) = 0 := by
  cases h <;> simp [Ne.symm hne]

theorem Exchanged.count_follow_eq (h : Exchanged uri r ts) : ts.count (.follow v) = 0 := by
  cases h <;> simp

theorem Dialogue.conversation {allowRedirect : Bool} {logins : Nat}
    (h : Dialogue uri allowRedirect (decide (uri ≠ loginUri)) (LoggedIn allowRedirect) 1 logins r
      ts) (hlogins : logins ≤ 1) : Conversation uri allowRedirect r ts := by
  have hcoherent : Coherent uri allowRedirect (.request uri) uri r ts :=
    h.coherent (fun hne => ⟨rfl, of_decide_eq_true hne⟩) fun _ _ _ hl => hl.settles uri
  refine ⟨?_, ?_, ?_, ?_, hcoherent, ?_, ?_⟩
  · have := h.countP_le (n := 2) (fun _ _ hex => hex.countP_isRequest_le) (Nat.zero_le 0)
      fun _ _ _ hl => hl.countP_le (fun _ _ hex => hex.countP_isRequest_le) (Nat.zero_le 0)
    omega
  · have := h.countP_le (p := (· == .request uri)) (b := 0) (n := 0)
      (fun _ _ hex => hex.count_request_le) (by simp)
      fun hne _ _ hl => hl.countP_le (a := 0) (b := 0)
        (fun _ _ hex => (hex.count_request_eq (of_decide_eq_true hne)).le) (by simp)
    rw [List.count]
    omega
  · have := h.countP_le (p := (· == .follow uri)) (a := 0) (b := 1) (n := 0)
      (fun _ _ hex => hex.count_follow_eq.le) (by simp)
      fun hne _ _ hl => hl.countP_le (a := 0) (b := 0) (fun _ _ hex => hex.count_follow_eq.le)
        (by simpa using Ne.symm (of_decide_eq_true hne))
    rw [List.count]
    omega
  · obtain ⟨before, login, after, hts, hbefore, hlogin, hafter, hnil⟩ :=
      h.single_login hlogins fun _ _ _ hl => hl.uri
    refine ⟨before, login, after, hts, hbefore, hafter, fun he => hnil (.inl (by simp [he])),
      hlogin, ?_⟩
    by_cases hne : uri = loginUri
    · rw [hnil (.inl (by simp [hne]))]
      simp
    have hsub : login.Sublist ts := by
      rw [hts]
      exact (List.sublist_append_left ..).trans (List.sublist_append_right ..)
    have hrequests := h.countP_le (p := (· == .request loginUri)) (a := 0) (b := 0) (n := 2)
      (fun _ _ hex => (hex.count_request_eq (Ne.symm hne)).le) (by simp)
      fun _ _ _ hl => hl.countP_le (b := 0) (fun _ _ hex => hex.count_request_le) (by simp)
    have hfollows := h.countP_le (p := (· == .follow loginUri)) (a := 0) (b := 0) (n := 1)
      (fun _ _ hex => hex.count_follow_eq.le) (by simpa using hne)
      fun _ _ _ hl => hl.countP_le (a := 0) (b := 1) (fun _ _ hex => hex.count_follow_eq.le)
        (by simp)
    constructor
    · have := hsub.count_le (.request loginUri)
      rw [List.count] at this ⊢
      omega
    · have := hsub.count_le (.follow loginUri)
      rw [List.count] at this ⊢
      omega
  · rintro v e before after rfl
    exact hcoherent.failure_last
  · intro r hr
    obtain ⟨hredirect, hauth⟩ := h.settled r hr
    refine ⟨fun hr => by rwa [hr, Bool.true_and] at hredirect, fun ha => ?_⟩
    rw [ha, Bool.true_and, decide_eq_false_iff_not] at hauth
    exact not_not.1 hauth

end

section

variable {uri : String} {allowRedirect answers : Bool}
  {Answer : Except RpcError Unit → List Turn → Prop} {hops logins : Nat}
  {result : Except RpcError Reply} {r : Except RpcError Unit} {ts : List Turn}

/-- Apart from the redirects that are followed, what is asked again is asked on account of a login,
and a login takes one request. -/
theorem Dialogue.countP_isRequest_le
    (h : Dialogue uri allowRedirect answers Answer hops logins result ts)
    (hanswer : answers = true → ∀ r ts, Answer r ts →
      ts.countP Turn.isRequest ≤ ts.countP Turn.isFollow + 1) :
    ts.countP Turn.isRequest ≤ ts.countP Turn.isFollow + 2 * logins + 1 := by
  induction h with
  | broken hex | refused hex | finished hex =>
      have := hex.countP_isRequest_le
      omega
  | followed hex _ _ _ _ ih =>
      have := hex.countP_isRequest_le
      have hfollow : ¬ Turn.isRequest (.follow uri) = true := Bool.false_ne_true
      rw [List.countP_append, List.countP_append, List.countP_cons_of_neg hfollow,
        List.countP_cons_of_pos rfl]
      omega
  | unanswered hex hans _ hlogin =>
      have := hex.countP_isRequest_le
      have := hanswer hans _ _ hlogin
      simp only [List.countP_append]
      omega
  | answered hex hans _ hlogin _ ih =>
      have := hex.countP_isRequest_le
      have := hanswer hans _ _ hlogin
      simp only [List.countP_append]
      omega

theorem LoggedIn.countP_isRequest_le (h : LoggedIn allowRedirect r ts) :
    ts.countP Turn.isRequest ≤ ts.countP Turn.isFollow + 1 := by
  rcases h.dialogue with rfl | ⟨result, hd⟩
  · exact Nat.zero_le _
  · exact hd.countP_isRequest_le (by simp)

end

theorem Adds.recording {α : Type} {x : Action α} {S : Except RpcError α → List Turn → Prop}
    (h : Adds x S) : Adds (recording x) S := by
  intro c
  obtain ⟨new, hnew, hadmits, hS⟩ := h c
  simp only [Client.recording]
  cases hr : x c <;> rw [hr] at hnew hS <;> exact ⟨new, hnew, hadmits, hS⟩

/-- A call goes as a dialogue that follows at most one redirect and, if it is not a login itself,
logs in at most once. -/
theorem call_adds (uri : String) (payload : Json) (allowRedirect : Bool) :
    Adds (call uri payload allowRedirect) fun r ts => ∃ logins ≤ 1,
      Dialogue uri allowRedirect (decide (uri ≠ loginUri)) (LoggedIn allowRedirect) 1 logins r
        ts := by
  intro c
  let answer := if uri = loginUri then none else some (login allowRedirect)
  let logins := if c.options.credentials.isSome then 1 else 0
  have hlogins : logins ≤ 1 := by
    simp only [logins]
    split <;> omega
  have hanswer : ∀ x, answer = some x → Adds x (LoggedIn allowRedirect) := by
    intro x hx
    simp only [answer] at hx
    split at hx
    · cases hx
    · cases hx
      exact login_adds allowRedirect
  have hsome : answer.isSome = decide (uri ≠ loginUri) := by
    simp only [answer]
    split <;> simp_all
  have h := converse_adds uri (payloadBytes payload) allowRedirect _ hanswer 1 logins
  rw [hsome] at h
  obtain ⟨new, hnew, hadmits, hd⟩ := h.recording c
  exact ⟨new, hnew, hadmits, logins, hlogins, hd⟩

end Client

end ClusterRpc
