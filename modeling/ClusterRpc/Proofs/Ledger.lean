import ClusterRpc.Proofs.Exchange

/-!
# The ledger of a trace

What a trace tells about the connection and the handle of a client, computed from the trace alone:
which endpoint was dialled last, what was received from it and what is left to be sent to it, which
handle was taken up last, what it has learnt since and where it was logged in. Properties of a
client's past are stated as properties of each event against the ledger of the events before it.
-/

namespace ClusterRpc

/-- An endpoint by its address. -/
abbrev Address := String × Nat

/-- A header block that was taken in, with the endpoint dialled last and the octets received from
it. -/
structure Lesson where
  peer : Option Address
  received : Bytes
  block : Bytes

structure Ledger where
  /-- The endpoint dialled last. -/
  peer : Option Address
  /-- Whether that dial was answered, and the connection not shut down since. -/
  isOpen : Bool
  /-- The URI of the latest request, if there was one since that dial. -/
  asked : Option String
  /-- The octets received since that dial or the latest request. -/
  received : Bytes
  /-- The octets of the latest request that are still to be written. -/
  unsent : Bytes
  /-- The endpoint of the handle taken up last. -/
  holder : Option Address
  /-- The header blocks taken in since then, in order. -/
  lessons : List Lesson
  /-- The endpoints from which a login was accepted since then. -/
  logins : List (Option Address)
  /-- Whether the handle counts as logged in. -/
  marked : Bool

namespace Ledger

/-- The ledger of a trace without events. -/
def blank : Ledger := ⟨none, false, none, [], [], none, [], [], false⟩

def note (L : Ledger) : Event → Ledger
  | .dial host port _ => { L with peer := some (host, port), isOpen := false, asked := none,
                                  received := [], unsent := [] }
  | .opened => { L with isOpen := true }
  | .shutdown => { L with isOpen := false }
  | .read bytes => { L with received := L.received ++ bytes }
  | .write bytes => { L with unsent := L.unsent.drop bytes.length }
  | .request uri _ frame => { L with asked := some uri, received := [],
                                     unsent := frame.head ++ frame.body }
  | .adopt host port => { L with holder := some (host, port), lessons := [], logins := [],
                                 marked := false }
  | .learn block => { L with lessons := L.lessons ++ [⟨L.peer, L.received, block⟩] }
  | .reply uri reply =>
      if uri = Client.loginUri ∧ reply.isOk = true then { L with logins := L.logins ++ [L.peer] }
      else L
  | .mark authenticated => { L with marked := authenticated }
  | _ => L

def notes (L : Ledger) (events : List Event) : Ledger := events.foldl note L

/-- The ledger of a trace. -/
def of (events : List Event) : Ledger := blank.notes events

/-- The session that has taken in the header blocks of a ledger, in order. -/
def session (L : Ledger) : Session :=
  L.lessons.foldl (fun session lesson => session.readHeaders lesson.block) .fresh

/-- Whether each event is one that `J` allows after the events before it. -/
def Admits (J : Ledger → Event → Prop) : Ledger → List Event → Prop
  | _, [] => True
  | L, e :: rest => J L e ∧ Admits J (L.note e) rest

/-- What an event writes is what comes next of the latest request. -/
def Fits (L : Ledger) (e : Event) : Prop := e.octetsWritten <+: L.unsent

/-- A reply to a request is read off what was received since, once all of the request was written.
-/
def Heard (L : Ledger) (uri : String) (r : Reply) : Prop :=
  L.asked = some uri ∧ L.unsent = [] ∧ (Response.parse L.received .fresh).1 = .ok r

variable {J : Ledger → Event → Prop} {L : Ledger} {e : Event} {events new : List Event}

@[simp] theorem notes_nil (L : Ledger) : L.notes [] = L := rfl

@[simp] theorem notes_cons (L : Ledger) (e : Event) (events : List Event) :
    L.notes (e :: events) = (L.note e).notes events := rfl

@[simp] theorem notes_append (L : Ledger) (events new : List Event) :
    L.notes (events ++ new) = (L.notes events).notes new := List.foldl_append

theorem admits_append : L.Admits J (events ++ new) ↔
    L.Admits J events ∧ (L.notes events).Admits J new := by
  induction events generalizing L with
  | nil => simp [Admits]
  | cons e events ih => simp [Admits, ih, and_assoc]

/-- An admitted trace, event by event. -/
theorem Admits.at {before after : List Event} (h : L.Admits J (before ++ e :: after)) :
    J (L.notes before) e := (admits_append.1 h).2.1

/-- What every allowed event preserves holds at the end. -/
theorem Admits.preserves {I : Ledger → Prop} (h : L.Admits J events) (h₀ : I L)
    (hstep : ∀ L e, I L → J L e → I (L.note e)) : I (L.notes events) := by
  induction events generalizing L with
  | nil => exact h₀
  | cons e events ih => exact ih h.2 (hstep L e h₀ h.1)

theorem admits_of_all {p : Event → Bool} (h : events.all p = true)
    (hp : ∀ L e, p e = true → J L e) : L.Admits J events := by
  induction events generalizing L with
  | nil => exact trivial
  | cons e events ih =>
      rw [List.all_cons, Bool.and_eq_true] at h
      exact ⟨hp L e h.1, ih h.2⟩

/-! ## Reading and writing -/

theorem notes_intake (h : new.all Event.isIntake = true) :
    L.notes new = { L with received := L.received ++ new.flatMap Event.octetsRead } := by
  induction new generalizing L with
  | nil => simp
  | cons e new ih =>
      rw [List.all_cons, Bool.and_eq_true] at h
      rw [notes_cons, ih h.2, List.flatMap_cons]
      rcases Event.eq_of_isIntake h.1 with ⟨bytes, rfl⟩ | rfl <;> simp [note, Event.octetsRead]

theorem notes_output (h : new.all Event.isOutput = true) :
    L.notes new =
      { L with unsent := L.unsent.drop (new.flatMap Event.octetsWritten).length } := by
  induction new generalizing L with
  | nil => simp
  | cons e new ih =>
      rw [List.all_cons, Bool.and_eq_true] at h
      rw [notes_cons, ih h.2, List.flatMap_cons, List.length_append, ← List.drop_drop]
      rcases Event.eq_of_isOutput h.1 with ⟨bytes, rfl⟩ | rfl <;>
        simp [note, Event.octetsWritten]

/-- Octets that are the next ones of a request may be written, in however many pieces. -/
theorem admits_output (h : new.all Event.isOutput = true)
    (hfit : new.flatMap Event.octetsWritten <+: L.unsent)
    (hJ : ∀ unsent e, e.isOutput = true → Fits { L with unsent } e → J { L with unsent } e) :
    L.Admits J new := by
  induction new generalizing L with
  | nil => exact trivial
  | cons e new ih =>
      rw [List.all_cons, Bool.and_eq_true] at h
      rw [List.flatMap_cons] at hfit
      obtain ⟨rest, hrest⟩ := hfit
      have hnote : L.note e = { L with unsent := new.flatMap Event.octetsWritten ++ rest } := by
        have hnote : L.notes [e] = _ := notes_output (by simp [h.1])
        rw [notes_cons, notes_nil] at hnote
        rw [hnote, ← hrest]
        simp
      refine ⟨hJ L.unsent e h.1 ⟨_, by rw [← hrest, List.append_assoc]⟩, ?_⟩
      rw [hnote]
      exact ih h.2 (List.prefix_append ..) hJ

/-! ## Exchanges -/

/-- The ledger after an exchange, before the header block of its response is taken in. -/
def answered (L : Ledger) (uri : String) (frame : RequestFrame) (sent heard : List Event) :
    Ledger :=
  { L with
    isOpen := false
    asked := some uri
    received := heard.flatMap Event.octetsRead
    unsent := (frame.head ++ frame.body).drop (sent.flatMap Event.octetsWritten).length }

section

variable {uri : String} {h : Handle} {frame : RequestFrame} {sent heard : List Event}
  {block : Option Bytes} {result : Except RpcError Reply}

theorem notes_answered (ha : Client.Answers frame h sent heard block result) :
    L.notes (.request uri h frame :: (sent ++ (heard ++ [.shutdown]))) =
      L.answered uri frame sent heard := by
  rw [notes_cons, notes_append, notes_append, notes_output ha.sent_all, notes_intake ha.heard_all]
  simp [note, answered]

/-- An exchange is admitted if each kind of event in it is. -/
theorem admits_answered (ha : Client.Answers frame h sent heard block result)
    (hrequest : J L (.request uri h frame))
    (hwrite : ∀ unsent e, e.isOutput = true →
      Fits { L with asked := some uri, received := [], unsent } e →
        J { L with asked := some uri, received := [], unsent } e)
    (hread : ∀ L e, e.isIntake = true → J L e) (hshutdown : ∀ L, J L .shutdown) :
    L.Admits J (.request uri h frame :: (sent ++ (heard ++ [.shutdown]))) := by
  refine ⟨hrequest, admits_append.2 ⟨?_, admits_append.2 ⟨?_, hshutdown _, trivial⟩⟩⟩
  · exact admits_output ha.sent_all ha.sent_fits hwrite
  · exact admits_of_all ha.heard_all hread

/-- The header block makes no difference to what was heard. -/
theorem heard_answered {r : Reply} (ha : Client.Answers frame h sent heard block (.ok r)) :
    ((L.answered uri frame sent heard).notes (block.map .learn).toList).Heard uri r := by
  obtain ⟨hwhole, hparse⟩ := ha.reply r rfl
  have hheard : (L.answered uri frame sent heard).Heard uri r := by
    refine ⟨rfl, ?_, (Client.parse_fst _ _ _).trans hparse⟩
    rw [answered, hwhole]
    exact List.drop_length
  cases block <;> exact hheard

end

end Ledger

/-! ## The ledger of a world -/

namespace World

/-- The ledger of all that has happened. -/
def ledger (w : World) : Ledger := .of w.trace

theorem ledger_of_trace {w w' : World} {new : List Event} (h : w'.trace = w.trace ++ new) :
    w'.ledger = w.ledger.notes new := by
  rw [ledger, h, Ledger.of, Ledger.notes_append]
  rfl

@[simp] theorem ledger_emit (w : World) (e : Event) : (w.emit e).ledger = w.ledger.note e :=
  ledger_of_trace (show (w.emit e).trace = w.trace ++ [e] from rfl)

end World

end ClusterRpc
