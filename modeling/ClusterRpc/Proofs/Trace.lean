import ClusterRpc.Client.Consumption

/-!
# Events in a trace

The trace only grows. What is added to it is described by what all new events have in common, and by
the octets that they take from a connection or put on one.
-/

namespace ClusterRpc

/-- How an action ends, without the state it ends in. -/
def outcome {ε σ α : Type} : EStateM.Result ε σ α → Except ε α
  | .ok a _ => .ok a
  | .error e _ => .error e

section

variable {ε σ : Type}

theorem get_apply (s : σ) : (get : EStateM ε σ σ) s = .ok s s := rfl

theorem modify_apply (f : σ → σ) (s : σ) : (modify f : EStateM ε σ PUnit) s = .ok ⟨⟩ (f s) := rfl

end

/-! ## Events in a trace -/

/-- What is found in a list with more behind it is found in the list or in what is behind it. -/
theorem split_append {α : Type} {e : α} {front back before after : List α}
    (h : front ++ back = before ++ e :: after) :
    (∃ rest, front = before ++ e :: rest ∧ after = rest ++ back) ∨
      ∃ middle, before = front ++ middle ∧ back = middle ++ e :: after := by
  rcases List.append_eq_append_iff.1 h with ⟨middle, hbefore, hback⟩ | ⟨middle, hfront, hback⟩
  · exact .inr ⟨middle, hbefore, hback⟩
  · cases middle with
    | nil =>
        rw [List.append_nil] at hfront
        exact .inr ⟨[], by rw [hfront, List.append_nil], hback.symm⟩
    | cons e' rest =>
        obtain ⟨rfl, rfl⟩ := List.cons.inj hback
        exact .inl ⟨rest, hfront, rfl⟩

/-- What kind of event it is, whatever it carries. -/
inductive Event.Kind where
  | dial | opened | write | read | shutdown | get | set | attempt | deliver | pause | cancel | adopt
  | request | reply | failure | learn | follow | mark
deriving DecidableEq

namespace Event

def kind : Event → Kind
  | .dial .. => .dial
  | .opened => .opened
  | .write _ => .write
  | .read _ => .read
  | .shutdown => .shutdown
  | .get _ => .get
  | .set .. => .set
  | .attempt => .attempt
  | .deliver _ => .deliver
  | .pause => .pause
  | .cancel => .cancel
  | .adopt .. => .adopt
  | .request .. => .request
  | .reply .. => .reply
  | .failure .. => .failure
  | .learn _ => .learn
  | .follow .. => .follow
  | .mark _ => .mark

/-- Of one of these kinds. -/
def isAmong (kinds : List Kind) (e : Event) : Bool := kinds.contains e.kind

/-- Of none of these kinds. -/
def isApart (kinds : List Kind) (e : Event) : Bool := !kinds.contains e.kind

section

variable {kinds kinds' : List Kind}

theorem isAmong_mono (h : kinds.all kinds'.contains = true) (e : Event)
    (he : e.isAmong kinds = true) : e.isAmong kinds' = true :=
  List.all_eq_true.1 h e.kind (List.contains_iff_mem.1 he)

theorem isApart_of_isAmong (h : kinds.all (!kinds'.contains ·) = true) (e : Event)
    (he : e.isAmong kinds = true) : e.isApart kinds' = true :=
  List.all_eq_true.1 h e.kind (List.contains_iff_mem.1 he)

theorem isApart_mono (h : kinds'.all kinds.contains = true) (e : Event)
    (he : e.isApart kinds = true) : e.isApart kinds' = true := by
  cases hkind : kinds'.contains e.kind with
  | false => rw [isApart, hkind]; rfl
  | true =>
      have hmem := List.all_eq_true.1 h e.kind (List.contains_iff_mem.1 hkind)
      rw [isApart, hmem] at he
      cases he

theorem not_isAmong_mono (h : kinds'.all kinds.contains = true) (e : Event)
    (he : e.isAmong kinds = false) : e.isAmong kinds' = false := by
  refine Bool.eq_false_iff.2 fun hamong => ?_
  rw [isAmong_mono h e hamong] at he
  cases he

theorem isApart_of_not_isAmong (h : kinds'.all kinds.contains = true) (e : Event)
    (he : e.isAmong kinds = false) : e.isApart kinds' = true := by
  rw [isApart, show kinds'.contains e.kind = false from not_isAmong_mono h e he]
  rfl

theorem not_isAmong_of_isApart (h : kinds'.all kinds.contains = true) (e : Event)
    (he : e.isApart kinds = true) : e.isAmong kinds' = false :=
  (Bool.not_eq_true' _).mp (isApart_mono h e he)

end

/-- What all events are they all are that follows from it. -/
theorem all_mono {p q : Event → Bool} {events : List Event} (h : events.all p = true)
    (hpq : ∀ e, p e = true → q e = true) : events.all q = true :=
  List.all_eq_true.2 fun e he => hpq e (List.all_eq_true.1 h e he)

/-- The octets that an event takes from a connection. -/
def octetsRead : Event → Bytes
  | .read bytes => bytes
  | _ => []

/-- The octets that an event puts on a connection. -/
def octetsWritten : Event → Bytes
  | .write bytes => bytes
  | _ => []

/-- What reading leaves behind: octets, and the flag that goes up meanwhile. -/
def isIntake : Event → Bool := isAmong [.read, .cancel]

/-- What writing leaves behind: octets, and the flag that goes up meanwhile. -/
def isOutput : Event → Bool := isAmong [.write, .cancel]

theorem eq_of_isIntake {e : Event} (h : e.isIntake = true) :
    (∃ bytes, e = .read bytes) ∨ e = .cancel := by
  cases e with
  | read bytes => exact .inl ⟨bytes, rfl⟩
  | cancel => exact .inr rfl
  | _ => cases h

theorem eq_of_isOutput {e : Event} (h : e.isOutput = true) :
    (∃ bytes, e = .write bytes) ∨ e = .cancel := by
  cases e with
  | write bytes => exact .inl ⟨bytes, rfl⟩
  | cancel => exact .inr rfl
  | _ => cases h

/-- What looking for an endpoint that answers leaves behind. -/
def isSearch : Event → Bool := isAmong [.dial, .opened, .shutdown, .cancel, .get, .adopt]

/-- What turning to the leader of a redirect leaves behind. -/
def isTurning : Event → Bool := isAmong [.get, .set, .shutdown, .adopt]

/-- The flag going up with something else, or not. -/
def ofCue (cancels : Bool) : List Event := if cancels then [.cancel] else []

/-- The end of an exchange. -/
def ofResult (uri : String) : Except RpcError Reply → Event
  | .ok r => .reply uri r
  | .error e => .failure uri e

/-- The answer to a dial, or none. -/
def ofAnswer : Except TransportError Transport → List Event
  | .ok _ => [.opened]
  | .error _ => []

@[simp] theorem all_ofCue {p : Event → Bool} (h : p .cancel = true) (cancels : Bool) :
    (ofCue cancels).all p = true := by
  cases cancels <;> simp [ofCue, h]

theorem flatMap_octetsRead_ofCue (cancels : Bool) : (ofCue cancels).flatMap octetsRead = [] := by
  cases cancels <;> rfl

@[simp] theorem flatMap_octetsWritten_ofCue (cancels : Bool) :
    (ofCue cancels).flatMap octetsWritten = [] := by
  cases cancels <;> rfl

end Event

namespace World

/-- All events added between two worlds satisfy `p`. -/
def Grows (p : Event → Bool) (w w' : World) : Prop :=
  ∃ new, w'.trace = w.trace ++ new ∧ new.all p = true

section Grows

variable {p q : Event → Bool} {u v w : World}

theorem Grows.of_trace_eq (h : w.trace = v.trace) : Grows p v w := ⟨[], by simp [h], rfl⟩

theorem Grows.refl (w : World) : Grows p w w := .of_trace_eq rfl

theorem Grows.trans (h : Grows p u v) (k : Grows p v w) : Grows p u w := by
  obtain ⟨new, hnew, hp⟩ := h
  obtain ⟨new', hnew', hp'⟩ := k
  exact ⟨new ++ new', by rw [hnew', hnew, List.append_assoc], by simp [hp, hp']⟩

theorem Grows.mono (h : Grows p v w) (hpq : ∀ e, p e = true → q e = true) : Grows q v w := by
  obtain ⟨new, hnew, hp⟩ := h
  exact ⟨new, hnew, Event.all_mono hp hpq⟩

theorem grows_emit {e : Event} (h : p e = true) : Grows p w (w.emit e) := ⟨[e], rfl, by simp [h]⟩

theorem grows_cue (h : p .cancel = true) (cancels : Bool) : Grows p w (w.cue cancels) := by
  cases cancels with
  | false => exact .refl w
  | true => exact grows_emit h

theorem grows_pause (hpause : p .pause = true) (hcancel : p .cancel = true) (w : World) :
    Grows p w w.pause := by
  have hemit : Grows p w (w.emit .pause) := grows_emit hpause
  rw [pause]
  split
  · exact hemit
  · rename_i cancels rest _
    have hnext : Grows p (w.emit .pause) { w.emit .pause with pauses := rest } := .of_trace_eq rfl
    exact (hemit.trans hnext).trans (grows_cue hcancel cancels)

end Grows

/-- The flag may go up while something else happens. -/
theorem cue_trace (w : World) (cancels : Bool) :
    (w.cue cancels).trace = w.trace ++ Event.ofCue cancels := by
  cases cancels with
  | false => simp [cue, Event.ofCue]
  | true => rfl

/-- A dial is seen first, and its answer, if there is one, last. -/
theorem connect_trace (w : World) (host : String) (port : Nat) (settings : TransportSettings) :
    ∃ cancels : Bool, (w.connect host port settings).2.trace =
      w.trace ++ .dial host port settings :: (Event.ofCue cancels ++
        Event.ofAnswer (w.connect host port settings).1) := by
  rw [connect]
  split
  · exact ⟨false, by simp [emit, Event.ofCue, Event.ofAnswer]⟩
  · rename_i dial rest _
    refine ⟨dial.cancels, ?_⟩
    split
    · simp [emit, cue_trace, Event.ofAnswer]
    · simp [emit, cue_trace, Event.ofAnswer]

theorem grows_connect {p : Event → Bool} {host : String} {port : Nat}
    {settings : TransportSettings} (hdial : p (.dial host port settings) = true)
    (hopened : p .opened = true) (hcancel : p .cancel = true) (w : World) :
    w.Grows p (w.connect host port settings).2 := by
  obtain ⟨cancels, htrace⟩ := w.connect_trace host port settings
  refine ⟨_, htrace, ?_⟩
  rw [List.all_cons, List.all_append, Event.all_ofCue hcancel, hdial]
  cases (w.connect host port settings).1 <;> simp [Event.ofAnswer, hopened]

end World

end ClusterRpc
