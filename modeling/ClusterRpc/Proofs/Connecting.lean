import ClusterRpc.Proofs.Growth

/-!
# How a client connects

Connecting is made of three things, in some order: dials, the loading of the directory, and the
marking of an endpoint as failed. What all of them preserve is preserved by connecting.
-/

namespace ClusterRpc.Client

/-! ## Dials -/

/-- A dial hangs up first. If it is answered the channel is open to the endpoint and there is a
handle on it; if not, the channel is closed and the handle is the one of before. -/
theorem dial_eq (hostName : String) (port : Nat) (c : Client) :
    c.dial hostName port =
      match c.hangUp.world.connect hostName port c.options.transportSettings with
      | (.ok transport, world) =>
          let channel := .connected (endpointLabel hostName port) transport
          .ok () ({ c with channel, world }.takeHandle hostName port)
      | (.error e, world) => .error e { c with channel := .disconnected, world } := by
  rw [dial, Link.connect_eq]
  rw [show (c.link.channel.close c.link.world).2 = c.hangUp.world from rfl]
  rcases c.hangUp.world.connect hostName port c.options.transportSettings with ⟨_ | _, w⟩ <;> rfl

theorem takeHandle_directory (c : Client) (hostName : String) (port : Nat) :
    (c.takeHandle hostName port).directory = c.directory := by
  rw [takeHandle]
  split <;> rfl

theorem dial_directory (hostName : String) (port : Nat) (c : Client) :
    (finalState (c.dial hostName port)).directory = c.directory := by
  rw [dial_eq]
  rcases c.hangUp.world.connect hostName port c.options.transportSettings with ⟨_ | _, w⟩
  · rfl
  · exact takeHandle_directory ..

theorem isConnected_of_dial {c c' : Client} {hostName : String} {port : Nat}
    (h : c.dial hostName port = .ok () c') : c'.channel.isConnected = true := by
  rw [dial_eq] at h
  rcases hr : c.hangUp.world.connect hostName port c.options.transportSettings with ⟨_ | _, w⟩ <;>
    rw [hr] at h
  · cases h
  · cases h
    rw [takeHandle]
    split <;> rfl

/-! ## Searches -/

theorem ensureConnected_eq (useRedirect : Bool) (c : Client) : ensureConnected useRedirect c =
    if c.channel.isConnected then .ok () c
    else if useRedirect then failover c else dialPreferred c := by
  simp only [ensureConnected, Bind.bind, EStateM.bind, get_apply]
  split
  · rfl
  · split <;> rfl

/-- What connecting preserves because each of its steps does. An endpoint is dialled because it is
preferred or because it is the first of the directory that has not failed. -/
structure Searching (I : Client → Prop) : Prop where
  dialPreferred : ∀ c, I c → I (finalState (c.dial c.preferred.1 c.preferred.2))
  dialUntried : ∀ c e, c.directory.firstUntried = some e → I c →
    I (finalState (c.dial e.hostName e.port))
  load : ∀ c, I c → I { c with
    directory := (c.directory.ensureLoaded c.world).1
    world := (c.directory.ensureLoaded c.world).2 }
  flag : ∀ c hostName port lastError, I c →
    I { c with lastError, directory := c.directory.flag hostName port }

section

variable {I : Client → Prop} {c : Client}

theorem Searching.walk (hI : Searching I) (last : Option TransportError) (hc : I c) :
    I (finalState (walk last c)) := by
  fun_induction Client.walk last c with
  | case1 => exact hc
  | case2 last c e hsome c' hd =>
      have hdial := hI.dialUntried c e hsome hc
      rwa [hd] at hdial
  | case3 last c e hsome failure tried hd _ ih =>
      have hdial := hI.dialUntried c e hsome hc
      have hdirectory := dial_directory e.hostName e.port c
      rw [hd] at hdial hdirectory
      refine ih ?_
      rw [← show tried.directory = _ from hdirectory]
      exact hI.flag tried e.hostName e.port _ hdial
  | case4 last c e hsome failure tried hd _ =>
      have hdial := hI.dialUntried c e hsome hc
      rwa [hd] at hdial

theorem Searching.ensureConnected (hI : Searching I) (useRedirect : Bool) (hc : I c) :
    I (finalState (ensureConnected useRedirect c)) := by
  have hdial := hI.dialPreferred c hc
  rw [ensureConnected_eq]
  split
  · exact hc
  split
  · simp only [failover]
    split
    · exact hI.walk none (hI.load c hc)
    rcases hr : c.dial c.preferred.1 c.preferred.2 with ⟨⟨⟩, c'⟩ | ⟨e, c'⟩ <;> rw [hr] at hdial
    · exact hdial
    · dsimp only
      split
      · exact hI.walk (some e) (hI.flag _ c.preferred.1 c.preferred.2 _ (hI.load c' hdial))
      · exact hdial
  · simp only [Client.dialPreferred]
    rcases hr : c.dial c.preferred.1 c.preferred.2 with ⟨⟨⟩, c'⟩ | ⟨e, c'⟩ <;> rwa [hr] at hdial

end

theorem isConnected_of_walk {c c' : Client} {last : Option TransportError}
    (h : walk last c = .ok () c') : c'.channel.isConnected = true := by
  fun_induction walk last c with
  | case1 => cases h
  | case2 last c e _ c'' hd =>
      cases h
      exact isConnected_of_dial hd
  | case3 last c e _ failure tried _ _ ih => exact ih h
  | case4 => cases h

/-- Where nothing fails, the channel is open. -/
theorem isConnected_of_ensureConnected {c c' : Client} {useRedirect : Bool}
    (h : ensureConnected useRedirect c = .ok () c') : c'.channel.isConnected = true := by
  rw [ensureConnected_eq] at h
  split at h
  · rename_i hopen
    cases h
    exact hopen
  split at h
  · simp only [failover] at h
    split at h
    · exact isConnected_of_walk h
    split at h
    · rename_i hd
      cases h
      exact isConnected_of_dial hd
    · split at h
      · exact isConnected_of_walk h
      · cases h
  · simp only [dialPreferred] at h
    split at h
    · rename_i hd
      cases h
      exact isConnected_of_dial hd
    · cases h

/-! ## The trace of a search -/

theorem grows_dial (hostName : String) (port : Nat) (c : Client) :
    c.world.Grows Event.isSearch (finalState (c.dial hostName port)).world := by
  have hconnect : c.hangUp.world.Grows Event.isSearch
      (c.hangUp.world.connect hostName port c.options.transportSettings).2 :=
    World.grows_connect rfl rfl rfl _
  have h := (grows_hangUp rfl c).trans hconnect
  rw [dial_eq]
  rcases hr : c.hangUp.world.connect hostName port c.options.transportSettings with ⟨_ | _, w⟩ <;>
    rw [hr] at h
  · exact h
  · exact h.trans (grows_takeHandle rfl _)

theorem grows_ensureConnected (useRedirect : Bool) (c : Client) :
    c.world.Grows Event.isSearch (finalState (ensureConnected useRedirect c)).world := by
  have hsearch : Searching fun c' => c.world.Grows Event.isSearch c'.world := {
    dialPreferred := fun _ h => h.trans (grows_dial ..)
    dialUntried := fun _ _ _ h => h.trans (grows_dial ..)
    load := fun _ h => h.trans (Directory.grows_ensureLoaded rfl ..)
    flag := fun _ _ _ _ h => h }
  exact hsearch.ensureConnected useRedirect (.refl _)

end ClusterRpc.Client
