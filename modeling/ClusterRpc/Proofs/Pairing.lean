import ClusterRpc.Proofs.Connecting

/-!
# Clients in step

Two clients that stand in some relation go the same way if each of the steps they take does, and
leaves them in it. Connecting goes by the directory and by what the dials meet, and by nothing else.
-/

namespace ClusterRpc.Client

/-- Two ends that are the same, of clients that stand in the relation. -/
def Matched {ε α : Type} (S : Client → Client → Prop) (r r' : EStateM.Result ε Client α) : Prop :=
  outcome r' = outcome r ∧ S (finalState r) (finalState r')

section

variable {ε α β : Type} {S : Client → Client → Prop} {c d : Client}
  {r r' : EStateM.Result ε Client α}

theorem Matched.ok {a : α} (h : Matched S r r') (hr : r = .ok a c) :
    ∃ d, r' = .ok a d ∧ S c d := by
  subst hr
  obtain ⟨houtcome, hfinal⟩ := h
  cases r' with
  | ok b d =>
      cases houtcome
      exact ⟨d, rfl, hfinal⟩
  | error e d => cases houtcome

theorem Matched.error {e : ε} (h : Matched S r r') (hr : r = .error e c) :
    ∃ d, r' = .error e d ∧ S c d := by
  subst hr
  obtain ⟨houtcome, hfinal⟩ := h
  cases r' with
  | ok b d => cases houtcome
  | error e' d =>
      cases houtcome
      exact ⟨d, rfl, hfinal⟩

/-- What follows two ends that are the same may go by how they end. -/
theorem Matched.bind {x : Action α} {f : α → Action β} (hx : Matched S (x c) (x d))
    (hf : ∀ a c' d', S c' d' → Matched S (f a c') (f a d')) :
    Matched S ((x >>= f) c) ((x >>= f) d) := by
  simp only [Bind.bind, EStateM.bind]
  cases hr : x c with
  | ok a c' =>
      obtain ⟨d', hr', hs⟩ := hx.ok hr
      rw [hr']
      exact hf a c' d' hs
  | error e c' =>
      obtain ⟨d', hr', hs⟩ := hx.error hr
      rw [hr']
      exact ⟨rfl, hs⟩

/-! ## Actions -/

/-- Ends in the same way for two clients that stand in the relation, and leaves them in it. -/
def Matches (S : Client → Client → Prop) (x : Action α) : Prop :=
  ∀ c d, S c d → Matched S (x c) (x d)

theorem Matches.bind {x : Action α} {f : α → Action β} (hx : Matches S x)
    (hf : ∀ a, Matches S (f a)) : Matches S (x >>= f) :=
  fun c d h => (hx c d h).bind fun a c' d' => hf a c' d'

theorem Matches.pure (a : α) : Matches S (pure a : Action α) := fun _ _ h => ⟨rfl, h⟩

theorem Matches.throw (e : RpcError) : Matches S (throw e : Action α) := fun _ _ h => ⟨rfl, h⟩

theorem Matches.modify {f : Client → Client} (hf : ∀ c d, S c d → S (f c) (f d)) :
    Matches S (modify f : Action PUnit) := fun c d h => ⟨rfl, hf c d h⟩

/-- The client may be looked at first, for what the two have in common. -/
theorem Matches.get_bind {f : Client → Action α} (hf : ∀ c, Matches S (f c))
    (hsame : ∀ c d, S c d → f d = f c) : Matches S (MonadState.get >>= f) := by
  intro c d h
  change Matched S (f c c) (f d d)
  rw [hsame c d h]
  exact hf c c d h

/-- The client may be changed in the end, depending on how the action ends. -/
theorem Matches.finish {x y : Action α} {f : Except RpcError α → Client → Client}
    (h : Matches S x)
    (hy : ∀ c, outcome (y c) = outcome (x c) ∧
      finalState (y c) = f (outcome (x c)) (finalState (x c)))
    (hf : ∀ r c d, S c d → S (f r c) (f r d)) : Matches S y := by
  intro c d hcd
  obtain ⟨houtcome, hfinal⟩ := h c d hcd
  refine ⟨?_, ?_⟩
  · rw [(hy d).1, (hy c).1, houtcome]
  · rw [(hy d).2, (hy c).2, houtcome]
    exact hf _ _ _ hfinal

theorem Matches.recording {x : Action α} (h : Matches S x)
    (hf : ∀ c d lastError, S c d → S { c with lastError } { d with lastError }) :
    Matches S (recording x) := by
  refine h.finish (f := fun r c => match r with
    | .ok _ => c
    | .error e => { c with lastError := some e.message }) (fun c => ?_) fun r c d hcd => ?_
  · simp only [Client.recording]
    cases x c <;> exact ⟨rfl, rfl⟩
  · cases r with
    | ok a => exact hcd
    | error e => exact hf c d _ hcd

/-! ## Connecting -/

/-- A walk, without the proof that it ends. -/
theorem walk_eq (last : Option TransportError) (c : Client) : walk last c =
    match c.directory.firstUntried with
    | none => .error (.endpointsExhausted c.directory.url last) c
    | some e =>
        match c.dial e.hostName e.port with
        | .ok () c => .ok () c
        | .error failure tried =>
            if failure.isFailover then
              walk (some failure)
                { tried with
                  lastError := some failure.message
                  directory := c.directory.flag e.hostName e.port }
            else .error (.transport failure) tried := by
  rw [walk]
  split <;> rename_i hfirst <;> exact hfirst ▸ rfl

/-- What makes two clients connect in the same way: they prefer the same endpoint, know the same
ones, and dial them with the same success. -/
structure Pairing (S : Client → Client → Prop) : Prop where
  directory : ∀ {c d}, S c d → d.directory = c.directory
  preferred : ∀ {c d}, S c d → d.preferred = c.preferred
  isConnected : ∀ {c d}, S c d → d.channel.isConnected = c.channel.isConnected
  dial : ∀ {c d}, S c d → ∀ hostName port,
    Matched S (c.dial hostName port) (d.dial hostName port)
  load : ∀ {c d}, S c d → S
    { c with
      directory := (c.directory.ensureLoaded c.world).1
      world := (c.directory.ensureLoaded c.world).2 }
    { d with
      directory := (d.directory.ensureLoaded d.world).1
      world := (d.directory.ensureLoaded d.world).2 }
  flag : ∀ {c d}, S c d → ∀ hostName port lastError,
    S { c with lastError, directory := c.directory.flag hostName port }
      { d with lastError, directory := d.directory.flag hostName port }

theorem Pairing.walk (hS : Pairing S) (h : S c d) (last : Option TransportError) :
    Matched S (walk last c) (walk last d) := by
  fun_induction Client.walk last c generalizing d with
  | case1 last c hnone =>
      simp only [walk_eq last d, hS.directory h, hnone]
      exact ⟨rfl, h⟩
  | case2 last c e hsome c' hd =>
      obtain ⟨d', hd', hs⟩ := (hS.dial h e.hostName e.port).ok hd
      simp only [walk_eq last d, hS.directory h, hsome, hd']
      exact ⟨rfl, hs⟩
  | case3 last c e hsome failure tried hd hfailover ih =>
      obtain ⟨d', hd', hs⟩ := (hS.dial h e.hostName e.port).error hd
      have hdirectory := dial_directory e.hostName e.port c
      rw [hd] at hdirectory
      have hflag := hS.flag hs e.hostName e.port (some failure.message)
      rw [hS.directory hs, show tried.directory = _ from hdirectory] at hflag
      simp only [walk_eq last d, hS.directory h, hsome, hd', hfailover, if_true]
      exact ih hflag
  | case4 last c e hsome failure tried hd hfailover =>
      obtain ⟨d', hd', hs⟩ := (hS.dial h e.hostName e.port).error hd
      simp only [walk_eq last d, hS.directory h, hsome, hd', hfailover]
      exact ⟨rfl, hs⟩

theorem Pairing.failover (hS : Pairing S) (h : S c d) : Matched S (failover c) (failover d) := by
  have hdial := hS.dial h c.preferred.1 c.preferred.2
  simp only [Client.failover, hS.preferred h, hS.directory h]
  split
  · have hload := hS.load h
    rw [hS.directory h] at hload
    exact hS.walk hload none
  · rcases hd : c.dial c.preferred.1 c.preferred.2 with ⟨⟨⟩, c'⟩ | ⟨failure, c'⟩
    · obtain ⟨d', hd', hs⟩ := hdial.ok hd
      rw [hd']
      exact ⟨rfl, hs⟩
    · obtain ⟨d', hd', hs⟩ := hdial.error hd
      rw [hd']
      dsimp only
      split
      · exact hS.walk (hS.flag (hS.load hs) _ _ _) _
      · exact ⟨rfl, hs⟩

theorem Pairing.dialPreferred (hS : Pairing S) (h : S c d) :
    Matched S (dialPreferred c) (dialPreferred d) := by
  have hdial := hS.dial h c.preferred.1 c.preferred.2
  simp only [Client.dialPreferred, hS.preferred h]
  rcases hd : c.dial c.preferred.1 c.preferred.2 with ⟨⟨⟩, c'⟩ | ⟨failure, c'⟩
  · obtain ⟨d', hd', hs⟩ := hdial.ok hd
    rw [hd']
    exact ⟨rfl, hs⟩
  · obtain ⟨d', hd', hs⟩ := hdial.error hd
    rw [hd']
    exact ⟨rfl, hs⟩

theorem Pairing.ensureConnected (hS : Pairing S) (h : S c d) (useRedirect : Bool) :
    Matched S (ensureConnected useRedirect c) (ensureConnected useRedirect d) := by
  rw [ensureConnected_eq, ensureConnected_eq, hS.isConnected h]
  split
  · exact ⟨rfl, h⟩
  split
  · exact hS.failover h
  · exact hS.dialPreferred h

end

end ClusterRpc.Client
