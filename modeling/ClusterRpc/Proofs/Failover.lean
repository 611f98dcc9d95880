import ClusterRpc.Proofs.Connecting
import ClusterRpc.Proofs.Ledger

/-!
# Which endpoints are dialled

Connecting with failover dials the endpoints of a list that is fixed beforehand, one after another,
until one of them answers or there is no more: the preferred endpoint, and then those known that
have not failed, each address once. When there is no more it stays like that.
-/

namespace ClusterRpc

/-- Addresses that differ at most in the case of the host. -/
def sameAddress (a b : Address) : Bool := a.2 == b.2 && sameHost a.1 b.1

theorem sameAddress_self (a : Address) : sameAddress a a = true := by
  simp [sameAddress, sameHost, Text.sameLetters]

section EraseDups

variable {α : Type} {r : α → α → Bool}

theorem mem_of_mem_eraseDupsBy {a : α} : ∀ {l : List α}, a ∈ l.eraseDupsBy r → a ∈ l
  | [], h => h
  | b :: l, h => by
      have hlt : (l.filter fun b' => !r b' b).length < l.length + 1 :=
        Nat.lt_succ_of_le (List.length_filter_le ..)
      rw [List.eraseDupsBy_cons, List.mem_cons] at h
      rcases h with rfl | h
      · exact List.mem_cons_self
      · exact List.mem_cons_of_mem _ (List.mem_filter.1 (mem_of_mem_eraseDupsBy h)).1
termination_by l => l.length

/-- What is left of a list has nothing in it twice. -/
theorem pairwise_eraseDupsBy :
    ∀ l : List α, (l.eraseDupsBy r).Pairwise fun a b => r b a = false
  | [] => List.Pairwise.nil
  | a :: l => by
      have hlt : (l.filter fun b => !r b a).length < l.length + 1 :=
        Nat.lt_succ_of_le (List.length_filter_le ..)
      rw [List.eraseDupsBy_cons]
      refine List.Pairwise.cons (fun b hb => ?_) (pairwise_eraseDupsBy _)
      have hmem := mem_of_mem_eraseDupsBy hb
      rw [List.mem_filter] at hmem
      exact of_decide_eq_true hmem.2
termination_by l => l.length

end EraseDups

/-! ## Candidates -/

namespace Endpoint

def address (e : Endpoint) : Address := (e.hostName, e.port)

theorem isAt_eq_sameAddress (e : Endpoint) (a : Address) :
    e.isAt a.1 a.2 = sameAddress e.address a := rfl

/-- The endpoint, marked as failed if it is at one of these addresses. -/
def flagAny (addresses : List Address) (e : Endpoint) : Endpoint :=
  { e with failed := e.failed || addresses.any (sameAddress e.address) }

theorem address_flagAt (e : Endpoint) (a : Address) : (e.flagAt a.1 a.2).address = e.address := by
  rw [flagAt]
  split <;> rfl

theorem failed_flagAt (e : Endpoint) (a : Address) :
    (e.flagAt a.1 a.2).failed = (e.failed || sameAddress e.address a) := by
  rw [flagAt, isAt_eq_sameAddress]
  split
  · rename_i h
    rw [h, Bool.or_true]
  · rename_i h
    rw [Bool.eq_false_iff.2 h, Bool.or_false]

theorem flagAny_cons (a : Address) (addresses : List Address) (e : Endpoint) :
    e.flagAny (a :: addresses) = (e.flagAt a.1 a.2).flagAny addresses := by
  rw [flagAt, isAt_eq_sameAddress]
  cases h : sameAddress e.address a with
  | false => simp [flagAny, h]
  | true =>
      simp only [flagAny, List.any_cons, h, Bool.true_or, Bool.or_true, if_true]

end Endpoint

namespace Directory

variable {d : Directory}

/-- The directory with everything at these addresses marked as failed. -/
def flagAll (d : Directory) (addresses : List Address) : Directory :=
  { d with
    endpoints := d.endpoints.map (Endpoint.flagAny addresses)
    configured := d.configured.flagAny addresses }

theorem flagAll_nil (d : Directory) : d.flagAll [] = d := by
  have h (e : Endpoint) : e.flagAny [] = e := by simp [Endpoint.flagAny]
  have h' : Endpoint.flagAny [] = id := funext h
  simp [flagAll, h, h']

theorem flagAll_cons (d : Directory) (a : Address) (addresses : List Address) :
    d.flagAll (a :: addresses) = (d.flag a.1 a.2).flagAll addresses := by
  simp only [flagAll, flag, List.map_map, Endpoint.flagAny_cons, Directory.mk.injEq, true_and,
    and_true]
  exact List.map_congr_left fun e _ => Endpoint.flagAny_cons a addresses e

/-- The addresses of the candidates that have not failed. -/
def unflagged (d : Directory) : List Address :=
  (d.candidates.filter (!·.failed)).map Endpoint.address

theorem head?_unflagged (d : Directory) :
    d.unflagged.head? = d.firstUntried.map Endpoint.address := by
  rw [unflagged, List.head?_map, List.head?_filter, firstUntried]

theorem unflagged_flag (d : Directory) (a : Address) :
    (d.flag a.1 a.2).unflagged = d.unflagged.filter fun b => sameAddress b a = false := by
  have haddress : Endpoint.address ∘ Endpoint.flagAt a.1 a.2 = Endpoint.address :=
    funext fun e => e.address_flagAt a
  simp only [unflagged, candidates_flag, List.filter_map, List.map_map, haddress,
    List.filter_filter]
  congr 1
  refine List.filter_congr fun e _ => ?_
  rw [Function.comp_apply, Function.comp_apply, Endpoint.failed_flagAt]
  cases e.failed <;> cases sameAddress e.address a <;> rfl

/-- The addresses that a walk through the candidates dials, if none of them answers. -/
def untriedOnce (d : Directory) : List Address := d.unflagged.eraseDupsBy sameAddress

theorem untriedOnce_of_none (h : d.firstUntried = none) : d.untriedOnce = [] := by
  have hhead := d.head?_unflagged
  rw [h, Option.map_none, List.head?_eq_none_iff] at hhead
  rw [untriedOnce, hhead, List.eraseDupsBy_nil]

theorem untriedOnce_of_some {e : Endpoint} (h : d.firstUntried = some e) :
    d.untriedOnce = e.address :: (d.flag e.hostName e.port).untriedOnce := by
  have hhead := d.head?_unflagged
  rw [h, Option.map_some, List.head?_eq_some_iff] at hhead
  obtain ⟨rest, hrest⟩ := hhead
  have hflag := d.unflagged_flag e.address
  rw [hrest, List.filter_cons_of_neg (by simp [sameAddress_self])] at hflag
  rw [untriedOnce, hrest, List.eraseDupsBy_cons, ← hflag]
  rfl

end Directory

/-! ## Dials -/

/-- The addresses dialled in a trace. -/
def dialled (trace : List Event) : List Address :=
  trace.filterMap fun
    | .dial host port _ => some (host, port)
    | _ => none

theorem dialled_append (trace new : List Event) :
    dialled (trace ++ new) = dialled trace ++ dialled new := List.filterMap_append

namespace World

/-- What the dial after the next `n` dials meets at an address. -/
def answer (w : World) (n : Nat) (a : Address) : Except TransportError Transport :=
  let label := s!"{a.1}:{a.2}"
  match w.dials[n]? with
  | none => .error (unanswered label)
  | some dial =>
      match dial.what with
      | .refused failure => .error (failure label)
      | .answered transport => .ok transport

theorem answer_congr {w w' : World} (h : w'.dials = w.dials) (n : Nat) (a : Address) :
    w'.answer n a = w.answer n a := by
  rw [answer, answer, h]

theorem answer_succ {w w' : World} (h : w'.dials = w.dials.tail) (n : Nat) (a : Address) :
    w'.answer n a = w.answer (n + 1) a := by
  rw [answer, answer, h, List.getElem?_tail]

theorem connect_fst (w : World) (a : Address) (settings : TransportSettings) :
    (w.connect a.1 a.2 settings).1 = w.answer 0 a := by
  rw [connect, answer]
  cases hw : w.dials with
  | nil => simp [emit, hw]
  | cons dial rest =>
      simp only [emit, hw, List.getElem?_cons_zero]
      cases dial.what <;> rfl

theorem cue_dials (w : World) (cancels : Bool) : (w.cue cancels).dials = w.dials := by
  cases cancels <;> rfl

theorem cue_store (w : World) (cancels : Bool) : (w.cue cancels).store = w.store := by
  cases cancels <;> rfl

theorem connect_dials (w : World) (a : Address) (settings : TransportSettings) :
    (w.connect a.1 a.2 settings).2.dials = w.dials.tail ∧
      (w.connect a.1 a.2 settings).2.store = w.store := by
  rw [connect]
  cases hw : w.dials with
  | nil => simp [emit, hw]
  | cons dial rest =>
      simp only [emit, hw]
      cases dial.what <;> exact ⟨cue_dials .., cue_store ..⟩

end World

namespace Client

theorem isAt_takeHandle (c : Client) (hostName : String) (port : Nat) :
    (c.takeHandle hostName port).handle.any (·.isAt hostName port) = true := by
  rw [takeHandle]
  split
  · assumption
  · simp [Handle.fresh, Handle.isAt]

/-- What a dial changes, whether it is answered or not. -/
structure Dialled (c c' : Client) (a : Address) : Prop where
  directory : c'.directory = c.directory
  dials : c'.world.dials = c.world.dials.tail
  store : c'.world.store = c.world.store
  dialled : dialled c'.world.trace = dialled c.world.trace ++ [a]

theorem dial_spec (a : Address) (c : Client) :
    match c.dial a.1 a.2 with
    | .ok () c' => Dialled c c' a ∧ (∃ t, c.world.answer 0 a = .ok t) ∧
        c'.channel.isConnected = true ∧ c'.handle.any (·.isAt a.1 a.2) = true
    | .error e c' => Dialled c c' a ∧ c.world.answer 0 a = .error e ∧
        c'.channel = .disconnected ∧ c'.handle = c.handle := by
  let settings := c.options.transportSettings
  obtain ⟨cancels, htrace⟩ := c.hangUp.world.connect_trace a.1 a.2 settings
  obtain ⟨hdials, hstore⟩ := c.hangUp.world.connect_dials a settings
  have hanswer := c.hangUp.world.connect_fst a settings
  have hup : c.hangUp.world.dials = c.world.dials ∧ c.hangUp.world.store = c.world.store ∧
      dialled c.hangUp.world.trace = dialled c.world.trace := by
    rcases c with ⟨options, channel, directory, handle, lastError, delivered, world⟩
    cases channel with
    | connected endpoint t => exact ⟨rfl, rfl, by simp [hangUp_trace, dialled]⟩
    | _ => exact ⟨rfl, rfl, rfl⟩
  have hnew : dialled (c.hangUp.world.connect a.1 a.2 settings).2.trace =
      dialled c.world.trace ++ [a] := by
    rw [htrace, dialled_append, hup.2.2]
    cases cancels <;> cases (c.hangUp.world.connect a.1 a.2 settings).1 <;> rfl
  have hanswer' : c.hangUp.world.answer 0 a = c.world.answer 0 a := World.answer_congr hup.1 0 a
  rw [hup.1] at hdials
  rw [hup.2.1] at hstore
  rw [hanswer'] at hanswer
  rw [dial_eq]
  rcases hr : c.hangUp.world.connect a.1 a.2 settings with ⟨e | transport, w⟩ <;>
    rw [hr] at hdials hstore hanswer hnew
  · exact ⟨⟨rfl, hdials, hstore, hnew⟩, hanswer.symm, rfl, rfl⟩
  · refine ⟨?_, ⟨transport, hanswer.symm⟩, ?_, isAt_takeHandle ..⟩
    · rw [takeHandle]
      split
      · exact ⟨rfl, hdials, hstore, hnew⟩
      · refine ⟨rfl, hdials, hstore, ?_⟩
        exact (dialled_append _ [.adopt a.1 a.2]).trans (by rw [← hnew]; exact List.append_nil _)
    · rw [takeHandle]
      split <;> rfl

/-! ## Walks -/

/-- What a walk comes to when the dials of `failures` are behind it and `rest` is left: without an
address to dial it gives up with the latest failure, which may be one of before the walk; otherwise
the next dial decides. -/
def Decided (last : Option TransportError) (d : Directory) (w : World)
    (failures : List (Address × TransportError)) (result : Except RpcError Unit) (c : Client) :
    List Address → Prop
  | [] => result = .error (.endpointsExhausted d.url ((failures.getLast?.map Prod.snd).or last))
  | a :: _ =>
      match w.answer failures.length a with
      | .ok _ => result = .ok () ∧ c.channel.isConnected = true ∧
          c.handle.any (·.isAt a.1 a.2) = true
      | .error e => result = .error (.transport e) ∧ e.isFailover = false

/-- How a walk along `order` goes that starts with the directory `d`, the dials meeting what is in
`w`. The dials at the addresses of `failures` fail, and these are marked and no others; the next
dial, if there is an address left, is the last one. -/
structure Walked (last : Option TransportError) (d : Directory) (w : World) (order : List Address)
    (failures : List (Address × TransportError)) (rest : List Address)
    (result : Except RpcError Unit) (c : Client) : Prop where
  sequence : order = failures.map Prod.fst ++ rest
  dials : dialled c.world.trace = dialled w.trace ++ (failures.map Prod.fst ++ rest.take 1)
  failed : ∀ i a e, failures[i]? = some (a, e) →
    w.answer i a = .error e ∧ e.isFailover = true
  flags : c.directory = d.flagAll (failures.map Prod.fst)
  ends : Decided last d w failures result c rest

section

variable {last : Option TransportError} {d d' : Directory} {w w' : World} {order : List Address}
  {failures : List (Address × TransportError)} {rest : List Address}
  {result : Except RpcError Unit} {c c' : Client} {a : Address} {e : TransportError}

/-- A walk that starts with a dial that fails. -/
theorem Walked.cons (h : Walked (some e) d' w' order failures rest result c)
    (hd : d' = d.flag a.1 a.2) (hdials : w'.dials = w.dials.tail)
    (hdialled : dialled w'.trace = dialled w.trace ++ [a]) (hanswer : w.answer 0 a = .error e)
    (hfailover : e.isFailover = true) :
    Walked last d w (a :: order) ((a, e) :: failures) rest result c where
  sequence := by rw [h.sequence, List.map_cons, List.cons_append]
  dials := by rw [h.dials, hdialled, List.map_cons, List.append_assoc, List.singleton_append,
    List.cons_append]
  failed := by
    intro i a' e' hi
    cases i with
    | zero =>
        cases hi
        exact ⟨hanswer, hfailover⟩
    | succ i =>
        rw [List.getElem?_cons_succ] at hi
        rw [← World.answer_succ hdials]
        exact h.failed i a' e' hi
  flags := by rw [h.flags, hd, List.map_cons, Directory.flagAll_cons]
  ends := by
    have hresult := h.ends
    cases rest with
    | nil =>
        rw [Decided] at hresult ⊢
        rw [hresult, hd, List.getLast?_cons]
        cases failures.getLast? <;> rfl
    | cons a' rest =>
        rw [Decided] at hresult ⊢
        rw [List.length_cons, ← World.answer_succ hdials]
        exact hresult

/-- Only the dials to come and those of before count. -/
theorem Walked.of_world (h : Walked last d w order failures rest result c)
    (hdials : w'.dials = w.dials) (hdialled : dialled w'.trace = dialled w.trace) :
    Walked last d w' order failures rest result c where
  sequence := h.sequence
  dials := by rw [h.dials, hdialled]
  failed := by
    intro i a e hi
    rw [World.answer_congr hdials]
    exact h.failed i a e hi
  flags := h.flags
  ends := by
    have hresult := h.ends
    cases rest with
    | nil => exact hresult
    | cons a rest =>
        rw [Decided] at hresult ⊢
        rw [World.answer_congr hdials]
        exact hresult

/-- A walk of one dial, which decides. -/
theorem Walked.single (hdialled : Dialled c c' a) (hresult : match c.world.answer 0 a with
      | .ok _ => result = .ok () ∧ c'.channel.isConnected = true ∧
          c'.handle.any (·.isAt a.1 a.2) = true
      | .error e => result = .error (.transport e) ∧ e.isFailover = false) :
    Walked last c.directory c.world (a :: rest) [] (a :: rest) result c' where
  sequence := rfl
  dials := hdialled.dialled
  failed := by simp
  flags := by rw [hdialled.directory, List.map_nil, Directory.flagAll_nil]
  ends := hresult

end

theorem walk_spec (last : Option TransportError) (c : Client) : ∃ failures rest,
    Walked last c.directory c.world c.directory.untriedOnce failures rest (outcome (walk last c))
      (finalState (walk last c)) := by
  fun_induction walk last c with
  | case1 last c hnone =>
      refine ⟨[], [], ?_⟩
      rw [Directory.untriedOnce_of_none hnone]
      exact ⟨rfl, (List.append_nil _).symm, by simp, (Directory.flagAll_nil _).symm, rfl⟩
  | case2 last c e hsome c' hd =>
      have hdial := dial_spec e.address c
      rw [show c.dial e.address.1 e.address.2 = _ from hd] at hdial
      obtain ⟨hdialled, ⟨t, hanswer⟩, hopen, hat⟩ := hdial
      rw [Directory.untriedOnce_of_some hsome]
      refine ⟨[], _, Walked.single hdialled ?_⟩
      rw [hanswer]
      exact ⟨rfl, hopen, hat⟩
  | case3 last c e hsome failure tried hd hfailover ih =>
      have hdial := dial_spec e.address c
      rw [show c.dial e.address.1 e.address.2 = _ from hd] at hdial
      obtain ⟨hdialled, hanswer, -, -⟩ := hdial
      obtain ⟨failures, rest, hwalked⟩ := ih
      rw [Directory.untriedOnce_of_some hsome]
      exact ⟨(e.address, failure) :: failures, rest,
        hwalked.cons rfl hdialled.dials hdialled.dialled hanswer hfailover⟩
  | case4 last c e hsome failure tried hd hfailover =>
      have hdial := dial_spec e.address c
      rw [show c.dial e.address.1 e.address.2 = _ from hd] at hdial
      obtain ⟨hdialled, hanswer, -, -⟩ := hdial
      rw [Directory.untriedOnce_of_some hsome]
      refine ⟨[], _, Walked.single hdialled ?_⟩
      rw [hanswer]
      exact ⟨rfl, Bool.eq_false_iff.2 hfailover⟩

/-- The list of addresses that connecting dials in turn, each once: the preferred one unless it is
known to have failed, and then those of the loaded directory that have not failed. -/
def order (c : Client) : List Address :=
  let first := if c.directory.isFailed c.preferred.1 c.preferred.2 then [] else [c.preferred]
  (first ++ (c.directory.ensureLoaded c.world).1.unflagged).eraseDupsBy sameAddress

theorem ensureLoaded_of_store {d : Directory} {w w' : World} (h : w'.store = w.store) :
    (d.ensureLoaded w').1 = (d.ensureLoaded w).1 := by
  simp only [Directory.ensureLoaded, Directory.load, World.getState, h]
  split
  · rfl
  · cases w.store.get Failover.key <;> rfl

theorem ensureLoaded_world (d : Directory) (w : World) :
    (d.ensureLoaded w).2.dials = w.dials ∧
      dialled (d.ensureLoaded w).2.trace = dialled w.trace := by
  simp only [Directory.ensureLoaded, Directory.load, World.getState]
  split
  · exact ⟨rfl, rfl⟩
  · cases w.store.get Failover.key <;> exact ⟨rfl, by simp [World.emit, dialled]⟩

/-- The directory that a walk goes by: it is loaded once it is needed. -/
def walkDirectory (c : Client) (failures : List (Address × TransportError)) : Directory :=
  if c.directory.isFailed c.preferred.1 c.preferred.2 || !failures.isEmpty then
    (c.directory.ensureLoaded c.world).1
  else c.directory

theorem failover_spec (c : Client) : ∃ failures rest,
    Walked none (walkDirectory c failures) c.world (order c) failures rest (outcome (failover c))
      (finalState (failover c)) := by
  let d := (c.directory.ensureLoaded c.world).1
  let others := (d.flag c.preferred.1 c.preferred.2).untriedOnce
  have horder (h : c.directory.isFailed c.preferred.1 c.preferred.2 = false) :
      order c = c.preferred :: others := by
    rw [order, h]
    exact List.eraseDupsBy_cons.trans
      (congrArg _ (congrArg _ (Directory.unflagged_flag d c.preferred).symm))
  have hdial := dial_spec c.preferred c
  simp only [failover]
  split
  · rename_i hfailed
    obtain ⟨hdials, hdialled⟩ := ensureLoaded_world c.directory c.world
    obtain ⟨failures, rest, hwalked⟩ := walk_spec none
      { c with directory := d, world := (c.directory.ensureLoaded c.world).2 }
    refine ⟨failures, rest, ?_⟩
    have hstart : walkDirectory c failures = d := by simp [walkDirectory, hfailed, d]
    have horder : order c = d.untriedOnce := by simp [order, hfailed, Directory.untriedOnce, d]
    rw [hstart, horder]
    exact hwalked.of_world hdials.symm hdialled.symm
  · rename_i hfailed
    have hstart : walkDirectory c [] = c.directory := by simp [walkDirectory, hfailed]
    rw [horder (Bool.eq_false_iff.2 hfailed)]
    rcases hr : c.dial c.preferred.1 c.preferred.2 with ⟨⟨⟩, c'⟩ | ⟨e, c'⟩ <;> rw [hr] at hdial
    · obtain ⟨hdialled, ⟨t, hanswer⟩, hopen, hat⟩ := hdial
      refine ⟨[], c.preferred :: others, ?_⟩
      rw [hstart]
      refine Walked.single hdialled ?_
      rw [hanswer]
      exact ⟨rfl, hopen, hat⟩
    · obtain ⟨hdialled, hanswer, -, -⟩ := hdial
      dsimp only
      split
      · rename_i hfailover
        have hd : (c'.directory.markFailed c.preferred.1 c.preferred.2 c'.world).1 =
            d.flag c.preferred.1 c.preferred.2 := by
          have hload : (c'.directory.ensureLoaded c'.world).1 = d := by
            rw [hdialled.directory]
            exact ensureLoaded_of_store hdialled.store
          rw [← hload]
          rfl
        obtain ⟨hdials, hworld⟩ := ensureLoaded_world c'.directory c'.world
        obtain ⟨failures, rest, hwalked⟩ := walk_spec (some e)
          { c' with
            lastError := some e.message
            directory := (c'.directory.markFailed c.preferred.1 c.preferred.2 c'.world).1
            world := (c'.directory.markFailed c.preferred.1 c.preferred.2 c'.world).2 }
        refine ⟨(c.preferred, e) :: failures, rest, ?_⟩
        have hstart : walkDirectory c ((c.preferred, e) :: failures) = d := by
          simp [walkDirectory, d]
        have hothers : others = _ := congrArg Directory.untriedOnce hd.symm
        rw [hstart, hothers]
        exact hwalked.cons hd (hdials.trans hdialled.dials) (hworld.trans hdialled.dialled) hanswer
          hfailover
      · rename_i hfailover
        refine ⟨[], c.preferred :: others, ?_⟩
        rw [hstart]
        refine Walked.single hdialled ?_
        rw [hanswer]
        exact ⟨rfl, Bool.eq_false_iff.2 hfailover⟩

theorem connect_of_closed {c : Client} (hclosed : c.channel.isConnected = false) :
    connect true c = recording failover c := by
  simp only [connect, recording, ensureConnected_eq, hclosed]
  rfl

/-- Connecting with failover is a walk along the list of addresses that is fixed beforehand. -/
theorem connect_walks {c : Client} (hclosed : c.channel.isConnected = false) : ∃ failures rest,
    Walked none (walkDirectory c failures) c.world (order c) failures rest
      (outcome (connect true c)) (finalState (connect true c)) := by
  obtain ⟨failures, rest, hwalked⟩ := failover_spec c
  refine ⟨failures, rest, ?_⟩
  rw [connect_of_closed hclosed, recording]
  cases hr : failover c with
  | ok _ c' =>
      rw [hr] at hwalked
      exact hwalked
  | error e c' =>
      rw [hr] at hwalked
      refine ⟨hwalked.sequence, hwalked.dials, hwalked.failed, hwalked.flags, ?_⟩
      have hends := hwalked.ends
      cases rest <;> exact hends

end Client

end ClusterRpc
