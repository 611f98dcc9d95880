import ClusterRpc.Net.TransportError
import ClusterRpc.Store.Basic
import ClusterRpc.Wire.RecordStream
import ClusterRpc.Wire.Request

/-! # The outside of a client

The controllers a client will meet, the state store, and the flag that ends a subscription are data
of one world. What the client does to them is left behind as a trace. -/

namespace ClusterRpc

/-- Something that happens in the world, and whether the flag goes up with it. -/
structure Cued (α : Type) where
  what : α
  cancels : Bool
deriving DecidableEq, Repr

/-- What one read of a connection meets. -/
inductive ReadStep where
  /-- These octets arrive, as far as there is room for them; the rest stays for the next read. -/
  | data (bytes : Bytes)
  | eof
  | fail (cause : IoError)
deriving DecidableEq, Repr

/-- The octets of a step, and one for the step itself. -/
def ReadStep.size : ReadStep → Nat
  | data bytes => 1 + bytes.length
  | _ => 1

/-- What one write to a connection meets. -/
inductive WriteStep where
  /-- At most so many octets are accepted. -/
  | accept (count : Nat)
  | fail (cause : IoError)
deriving DecidableEq, Repr

/-- What one flush of a connection meets. -/
inductive FlushStep where
  | done
  | fail (cause : IoError)
deriving DecidableEq, Repr

/-- An open connection: what is still to come on it. After the last step a read finds the end of
the stream, a write is accepted in full, and a flush succeeds. -/
structure Transport where
  tls : Bool
  reads : List (Cued ReadStep)
  writes : List (Cued WriteStep)
  flushes : List (Cued FlushStep)
deriving DecidableEq, Repr

/-- What a dial meets. -/
inductive Dial where
  /-- A failure, which may depend on the address dialled. -/
  | refused (failure : String → TransportError)
  | answered (transport : Transport)

/-- How a connection is set up. -/
structure TransportSettings where
  timeoutMs : Nat
  useTls : Bool
  verifyTls : Bool
deriving DecidableEq, Repr

/-- What a client does: what the world sees of it, and what it settles for itself. -/
inductive Event where
  | dial (host : String) (port : Nat) (settings : TransportSettings)
  /-- The dial is answered. -/
  | opened
  /-- Octets accepted by one write. -/
  | write (bytes : Bytes)
  /-- Octets delivered by one read. -/
  | read (bytes : Bytes)
  | shutdown
  | get (key : String)
  | set (key : String) (value : Json)
  /-- A subscription starts an attempt. -/
  | attempt
  /-- A record is handed to the subscriber. -/
  | deliver (record : Record)
  /-- A subscription pauses before its next attempt. -/
  | pause
  /-- The flag goes up. -/
  | cancel
  /-- A fresh handle is taken up on an endpoint. -/
  | adopt (hostName : String) (port : Nat)
  /-- A request for `uri` is made, which is to be written next; the handle is as it is then. -/
  | request (uri : String) (handle : Handle) (frame : RequestFrame)
  /-- The exchange for `uri` has brought a reply. -/
  | reply (uri : String) (reply : Reply)
  /-- The exchange for `uri` has failed after the request was made. -/
  | failure (uri : String) (cause : RpcError)
  /-- The session of the handle takes in a header block. -/
  | learn (block : Bytes)
  /-- A redirect of a request for `uri` is followed. -/
  | follow (uri : String) (targets : RedirectTargets)
  /-- The handle counts as logged in from now on, or no longer. -/
  | mark (authenticated : Bool)
deriving DecidableEq, Repr

structure World where
  /-- What the dials to come meet; after the last one they are refused. -/
  dials : List (Cued Dial)
  /-- Whether the flag goes up during each of the pauses to come. -/
  pauses : List Bool
  cancelled : Bool
  store : Store
  trace : List Event

namespace World

def emit (w : World) (e : Event) : World := { w with trace := w.trace ++ [e] }

/-- Raises the flag. -/
def cancel (w : World) : World := { w.emit .cancel with cancelled := true }

/-- Raises the flag if something comes with that. -/
def cue (w : World) (cancels : Bool) : World := if cancels then w.cancel else w

def getState (w : World) (key : String) : Except StateError (Option Json) × World :=
  (w.store.get key, w.emit (.get key))

def setState (w : World) (key : String) (value : Json) : Except StateError Unit × World :=
  let kept := w.store.keep key value
  (kept.1, { w.emit (.set key value) with store := kept.2 })

/-- Waits between two attempts of a subscription. -/
def pause (w : World) : World :=
  let w := w.emit .pause
  match w.pauses with
  | [] => w
  | cancels :: rest => { w with pauses := rest }.cue cancels

/-- The failure of a dial that nothing answers. -/
def unanswered (address : String) : TransportError :=
  .connectRefused address (.ofKind .connectionRefused)

/-- Opens a connection. -/
def connect (w : World) (host : String) (port : Nat) (settings : TransportSettings) :
    Except TransportError Transport × World :=
  let w := w.emit (.dial host port settings)
  let address := s!"{host}:{port}"
  match w.dials with
  | [] => (.error (unanswered address), w)
  | dial :: rest =>
      let w := { w with dials := rest }.cue dial.cancels
      match dial.what with
      | .refused failure => (.error (failure address), w)
      | .answered transport => (.ok transport, w.emit .opened)

end World

namespace Transport

/-- One read with room for `room` octets: what it gives, whether the flag goes up with it, and the
connection after it. -/
def read (t : Transport) (room : Nat) : Except IoError Bytes × Bool × Transport :=
  match t.reads with
  | [] => (.ok [], false, t)
  | step :: rest =>
      let done := { t with reads := rest }
      match step.what with
      | .eof => (.ok [], step.cancels, done)
      | .fail cause => (.error cause, step.cancels, done)
      | .data bytes =>
          if bytes.length ≤ room then (.ok bytes, step.cancels, done)
          else
            (.ok (bytes.take room), false,
              { t with reads := ⟨.data (bytes.drop room), step.cancels⟩ :: rest })

/-- How much may still be read: every step, and every octet. -/
def pending (t : Transport) : Nat := t.reads.foldr (fun step n => step.what.size + n) 0

theorem pending_read_le (t : Transport) (room : Nat) :
    (t.read room).2.2.pending ≤ t.pending := by
  rcases t with ⟨tls, reads, writes, flushes⟩
  cases reads with
  | nil => simp [read, pending]
  | cons step rest =>
      rcases step with ⟨what, cancels⟩
      cases what with
      | eof => simp [read, pending]
      | fail cause => simp [read, pending]
      | data bytes =>
          simp only [read, pending, List.foldr_cons, ReadStep.size]
          split
          · exact Nat.le_add_left ..
          · simp only [List.foldr_cons, List.length_drop]
            omega

/-- A read that fails uses up a step. -/
theorem pending_read_lt_of_error {t : Transport} {room : Nat} {cause : IoError}
    (h : (t.read room).1 = .error cause) : (t.read room).2.2.pending < t.pending := by
  rcases t with ⟨tls, reads, writes, flushes⟩
  cases reads with
  | nil => simp [read] at h
  | cons step rest =>
      rcases step with ⟨what, cancels⟩
      cases what with
      | eof => simp [read] at h
      | fail cause => simp [read, pending, ReadStep.size]
      | data bytes =>
          simp only [read] at h
          split at h <;> simp at h

/-- A read that delivers something leaves less to read. -/
theorem pending_read_lt {t : Transport} {room : Nat} {bytes : Bytes}
    (h : (t.read room).1 = .ok bytes) (hne : bytes ≠ []) :
    (t.read room).2.2.pending < t.pending := by
  rcases t with ⟨tls, reads, writes, flushes⟩
  cases reads with
  | nil => simp_all [read]
  | cons step rest =>
      rcases step with ⟨what, cancels⟩
      cases what with
      | eof => simp_all [read]
      | fail cause => simp [read] at h
      | data d =>
          simp only [read] at h ⊢
          split at h
          · rename_i hle
            simp only [hle, if_true, pending, List.foldr_cons, ReadStep.size]
            omega
          · rename_i hle
            simp only [hle, if_false, pending, List.foldr_cons, ReadStep.size, List.length_drop]
            have : room ≠ 0 := by
              rintro rfl
              simp at h
              exact hne h
            omega

end Transport

end ClusterRpc
