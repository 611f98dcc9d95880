import ClusterRpc.Net.World
import ClusterRpc.Wire.Request

/-! # The channel: at most one open connection -/

namespace ClusterRpc

/-- The life of a channel. Only a connected one holds a connection and names its endpoint. -/
inductive Channel where
  | disconnected
  | connecting
  | connected (endpoint : String) (transport : Transport)
deriving DecidableEq, Repr

namespace Channel

def isConnected : Channel → Bool
  | connected .. => true
  | _ => false

def endpoint? : Channel → Option String
  | connected endpoint _ => some endpoint
  | _ => none

/-- Shuts an open connection down. -/
def close (c : Channel) (w : World) : Channel × World :=
  match c with
  | connected .. => (disconnected, w.emit .shutdown)
  | _ => (disconnected, w)

end Channel

/-- A channel and the world it reaches. -/
structure Link where
  channel : Channel
  world : World

namespace Link

/-- An action on a channel, which may fail and still leave its traces. -/
abbrev Action := EStateM TransportError Link

def close : Action Unit := fun l =>
  let (channel, world) := l.channel.close l.world
  .ok () ⟨channel, world⟩

/-- Opens a connection, closing the one before it first. -/
def connect (host : String) (port : Nat) (settings : TransportSettings) : Action Unit := do
  close
  modify fun l => { l with channel := .connecting }
  let l ← get
  let (outcome, world) := l.world.connect host port settings
  match outcome with
  | .ok transport => set (⟨.connected (endpointLabel host port) transport, world⟩ : Link)
  | .error failure =>
      set (⟨.disconnected, world⟩ : Link)
      throw failure

/-! ## Writing -/

/-- Writes octets against the steps that meet the writes: an interrupted write is tried again, one
that takes nothing fails. Gives the steps left over. -/
def writeSteps (endpoint : String) (w : World) :
    List (Cued WriteStep) → Bytes → Except TransportError Unit × List (Cued WriteStep) × World
  | steps, [] => (.ok (), steps, w)
  | [], bytes => (.ok (), [], w.emit (.write bytes))
  | step :: rest, bytes =>
      match step.what with
      | .accept count =>
          let w := (w.emit (.write (bytes.take count))).cue step.cancels
          if count = 0 then (.error (.write endpoint (.ofKind .writeZero)), rest, w)
          else writeSteps endpoint w rest (bytes.drop count)
      | .fail cause =>
          let w := w.cue step.cancels
          if cause.isInterrupt then writeSteps endpoint w rest bytes
          else (.error (.write endpoint cause), rest, w)

/-- Flushes once. -/
def flushStep (endpoint : String) (w : World) :
    List (Cued FlushStep) → Except TransportError Unit × List (Cued FlushStep) × World
  | [] => (.ok (), [], w)
  | step :: rest =>
      let w := w.cue step.cancels
      match step.what with
      | .done => (.ok (), rest, w)
      | .fail cause => (.error (.write endpoint cause), rest, w)

/-- Writes every octet and flushes. -/
def writeAll (bytes : Bytes) : Action Unit := fun l =>
  match l.channel with
  | .connected endpoint t =>
      let (outcome, writes, w) := writeSteps endpoint l.world t.writes bytes
      match outcome with
      | .error e => .error e ⟨.connected endpoint { t with writes }, w⟩
      | .ok () =>
          let (outcome, flushes, w) := flushStep endpoint w t.flushes
          let l : Link := ⟨.connected endpoint { t with writes, flushes }, w⟩
          match outcome with
          | .error e => .error e l
          | .ok () => .ok () l
  | _ => .error .notConnected l

/-! ## Reading -/

/-- How many interrupted reads in a row are tried again. -/
def retryLimit (tls : Bool) : Nat := if tls then 10 else 100

/-- Reads once with room for `room` octets, trying again at most `retries` times. -/
def readRetrying (endpoint : String) (room : Nat) : (retries : Nat) → Transport → World →
    Except TransportError Bytes × Transport × World
  | retries, t, w =>
      let (outcome, cancels, t) := t.read room
      let w := w.cue cancels
      match outcome with
      | .ok bytes => (.ok bytes, t, w.emit (.read bytes))
      | .error cause =>
          if cause.isInterrupt then
            match retries with
            | 0 => (.error (.read endpoint cause), t, w)
            | retries + 1 => readRetrying endpoint room retries t w
          else if cause.isTimeout then (.error (.readTimeout endpoint), t, w)
          else (.error (.read endpoint cause), t, w)

/-- Reads once; no octets mean that the peer closed the stream. -/
def read (room : Nat) : Action Bytes := fun l =>
  match l.channel with
  | .connected endpoint t =>
      let (outcome, t, w) := readRetrying endpoint room (retryLimit t.tls) t l.world
      let l : Link := ⟨.connected endpoint t, w⟩
      match outcome with
      | .error e => .error e l
      | .ok bytes => .ok bytes l
  | _ => .error .notConnected l

/-- How much may still be read from the open connection. -/
def pending (l : Link) : Nat :=
  match l.channel with
  | .connected _ t => t.pending
  | _ => 0

theorem pending_congr {l l' : Link} (h : l.channel = l'.channel) : l.pending = l'.pending := by
  simp only [pending, h]

theorem pending_readRetrying (endpoint : String) (room retries : Nat) (t : Transport) (w : World) :
    match readRetrying endpoint room retries t w with
    | (.ok bytes, t', _) => t'.pending ≤ t.pending ∧ (bytes ≠ [] → t'.pending < t.pending)
    | (.error _, t', _) => t'.pending < t.pending := by
  induction retries generalizing t w with
  | zero =>
      rw [readRetrying]
      rcases h : t.read room with ⟨outcome, cancels, t'⟩
      cases outcome with
      | ok bytes =>
          have hle := Transport.pending_read_le t room
          have hlt := @Transport.pending_read_lt t room bytes
          simp only [h] at hle hlt ⊢
          exact ⟨hle, hlt trivial⟩
      | error cause =>
          have hlt := @Transport.pending_read_lt_of_error t room cause
          simp only [h] at hlt ⊢
          cases cause.isInterrupt <;> cases cause.isTimeout <;> exact hlt trivial
  | succ retries ih =>
      rw [readRetrying]
      rcases h : t.read room with ⟨outcome, cancels, t'⟩
      cases outcome with
      | ok bytes =>
          have hle := Transport.pending_read_le t room
          have hlt := @Transport.pending_read_lt t room bytes
          simp only [h] at hle hlt ⊢
          exact ⟨hle, hlt trivial⟩
      | error cause =>
          have hlt := @Transport.pending_read_lt_of_error t room cause
          simp only [h] at hlt ⊢
          have hlt := hlt trivial
          cases cause.isInterrupt with
          | false => cases cause.isTimeout <;> exact hlt
          | true =>
              simp only [if_true]
              have hi := ih t' (w.cue cancels)
              rcases hr : readRetrying endpoint room retries t' (w.cue cancels) with ⟨o, t'', w'⟩
              rw [hr] at hi
              cases o with
              | ok bytes => exact ⟨by omega, fun hne => by have := hi.2 hne; omega⟩
              | error e => exact Nat.lt_trans hi hlt

/-- A read that fails on an open connection leaves less to read. -/
theorem pending_read_error {room : Nat} {l l' : Link} {e : TransportError}
    (h : read room l = .error e l') (hopen : l.channel.isConnected = true) :
    l'.pending < l.pending := by
  rcases l with ⟨channel, world⟩
  cases channel with
  | connected endpoint t =>
      simp only [read] at h
      have hp := pending_readRetrying endpoint room (retryLimit t.tls) t world
      rcases hr : readRetrying endpoint room (retryLimit t.tls) t world with ⟨o, t', w'⟩
      rw [hr] at h hp
      cases o with
      | ok bytes => simp at h
      | error e' =>
          simp only [EStateM.Result.error.injEq] at h
          obtain ⟨-, rfl⟩ := h
          exact hp
  | _ => simp [Channel.isConnected] at hopen

/-- A read that delivers something leaves less to read. -/
theorem pending_read_ok {room : Nat} {l l' : Link} {bytes : Bytes}
    (h : read room l = .ok bytes l') (hne : bytes ≠ []) : l'.pending < l.pending := by
  rcases l with ⟨channel, world⟩
  cases channel with
  | connected endpoint t =>
      simp only [read] at h
      have hp := pending_readRetrying endpoint room (retryLimit t.tls) t world
      rcases hr : readRetrying endpoint room (retryLimit t.tls) t world with ⟨o, t', w'⟩
      rw [hr] at h hp
      cases o with
      | ok bytes' =>
          simp only [EStateM.Result.ok.injEq] at h
          obtain ⟨rfl, rfl⟩ := h
          exact hp.2 hne
      | error e' => simp at h
  | _ => simp [read] at h

/-- A read that meets its timeout leaves less to read. -/
theorem pending_read_timeout {room : Nat} {l l' : Link} {e : TransportError}
    (h : read room l = .error e l') (ht : e.isReadTimeout = true) : l'.pending < l.pending := by
  refine pending_read_error h ?_
  rcases l with ⟨channel, world⟩
  cases channel with
  | connected endpoint t => rfl
  | _ =>
      simp only [read, EStateM.Result.error.injEq] at h
      rw [← h.1] at ht
      simp [TransportError.isReadTimeout] at ht

end Link

end ClusterRpc
