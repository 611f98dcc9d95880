import ClusterRpc.Proofs.Writing

/-!
# What writing sends

Octets are sent from the front, each of them once. Signals among the writes change nothing of what
is sent or how it ends; one that meets the flush is a failure.
-/

namespace ClusterRpc

namespace Link

open WriteScript

/-- What is sent is the front of what is to be sent, each octet once. Writing succeeds exactly if
that is all of it and the flush succeeds. A write that takes nothing while octets are left is a
failure of its own, and no octets at all are flushed but not written. -/
theorem writeAll_sends (bytes : Bytes) (endpoint : String) (t : Transport) (w : World) :
    ∃ t' w' new,
      finalState (writeAll bytes ⟨.connected endpoint t, w⟩) = ⟨.connected endpoint t', w'⟩ ∧
      w'.trace = w.trace ++ new ∧
      new.flatMap Event.octetsWritten <+: bytes ∧
      (outcome (writeAll bytes ⟨.connected endpoint t, w⟩) = .ok () ↔
        new.flatMap Event.octetsWritten = bytes ∧ flushObstacle? t.flushes = none) ∧
      (∀ before cancels after, t.writes = before ++ ⟨.accept 0, cancels⟩ :: after →
        (∀ step ∈ before, step.what.goesOn = true) →
        (before.map (·.what.room)).sum < bytes.length →
          outcome (writeAll bytes ⟨.connected endpoint t, w⟩) =
              .error (.write endpoint (.ofKind .writeZero)) ∧
            new.flatMap Event.octetsWritten = bytes.take (before.map (·.what.room)).sum) ∧
      (bytes = [] → t' = { t with flushes := t.flushes.tail } ∧ ∃ cancels,
        new = Event.ofCue cancels) := by
  obtain ⟨hend, t', w', new, hfinal, htrace, -, hsent⟩ := writeAll_ends bytes endpoint t w
  refine ⟨t', w', new, hfinal, htrace, hsent ▸ sent_isPrefix .., ?_, ?_, ?_⟩
  · rw [hend, ending_eq_ok_iff, writeObstacle?, Option.or_eq_none_iff, obstacle?_eq_none_iff, hsent]
  · intro before cancels after hwrites hbefore hleft
    obtain ⟨hobstacle, htaken⟩ := obstacle?_of_append hbefore
      (show (⟨.accept 0, cancels⟩ : Cued WriteStep).what.goesOn = false from rfl) after hleft
    rw [hend, hsent, writeObstacle?, hwrites, hobstacle, htaken]
    exact ⟨rfl, rfl⟩
  · rintro rfl
    obtain ⟨w'', cancels, hfinal', htrace'⟩ := writeAll_nil endpoint t w
    rw [hfinal] at hfinal'
    cases hfinal'
    exact ⟨rfl, cancels, List.append_cancel_left (htrace.symm.trans htrace')⟩

end Link

/-! ## Signals among the writes -/

/-- The second list is the first one with more that satisfies `p` put in anywhere. -/
inductive Interspersed {α : Type} (p : α → Bool) : List α → List α → Prop
  | nil : Interspersed p [] []
  | keep (a : α) {s s' : List α} : Interspersed p s s' → Interspersed p (a :: s) (a :: s')
  | put {a : α} {s s' : List α} : p a = true → Interspersed p s s' → Interspersed p s (a :: s')

/-- What comes first is what came first before, or has been put there. -/
theorem Interspersed.head? {α : Type} {p : α → Bool} {s s' : List α} (h : Interspersed p s s') :
    s'.head? = s.head? ∨ ∃ a, s'.head? = some a ∧ p a = true := by
  cases h with
  | nil | keep => exact .inl rfl
  | put hp => exact .inr ⟨_, rfl, hp⟩

namespace WriteScript

variable {steps steps' : List (Cued WriteStep)}

/-- Signals leave the room of a script and its end as they are. -/
theorem room_interspersed (h : Interspersed (·.what.isInterrupt) steps steps') :
    room steps' = room steps ∧ stop? steps' = stop? steps := by
  induction h with
  | nil => exact ⟨rfl, rfl⟩
  | keep step _ ih =>
      cases hon : step.what.goesOn with
      | true =>
          rw [room_cons_of_goesOn hon, room_cons_of_goesOn hon, stop?_cons_of_goesOn hon,
            stop?_cons_of_goesOn hon, ih.1, ih.2]
          exact ⟨rfl, rfl⟩
      | false =>
          rw [room_cons_of_not_goesOn hon, room_cons_of_not_goesOn hon,
            stop?_cons_of_not_goesOn hon, stop?_cons_of_not_goesOn hon]
          exact ⟨rfl, rfl⟩
  | put hp _ ih =>
      obtain ⟨hon, hroom⟩ := WriteStep.goesOn_of_isInterrupt hp
      rw [room_cons_of_goesOn hon, stop?_cons_of_goesOn hon, hroom, Nat.zero_add]
      exact ih

theorem sent_interspersed (h : Interspersed (·.what.isInterrupt) steps steps') (bytes : Bytes) :
    sent steps' bytes = sent steps bytes := by
  obtain ⟨hroom, hstop⟩ := room_interspersed h
  rw [sent, sent, hroom, hstop]

theorem obstacle?_interspersed (h : Interspersed (·.what.isInterrupt) steps steps')
    (bytes : Bytes) : obstacle? steps' bytes = obstacle? steps bytes := by
  obtain ⟨hroom, hstop⟩ := room_interspersed h
  rw [obstacle?, obstacle?, hroom, hstop]

end WriteScript

namespace Link

open WriteScript

/-- Signals that cut writes short change neither what is sent nor how it ends, and signals in front
of later flushes do not either. A signal that meets the flush does not change what is sent, but all
of it is then followed by a failure. -/
theorem writeAll_interspersed {t : Transport} {writes : List (Cued WriteStep)}
    {flushes : List (Cued FlushStep)}
    (hwrites : Interspersed (·.what.isInterrupt) t.writes writes)
    (hflushes : Interspersed (·.what.isInterrupt) t.flushes flushes)
    (bytes : Bytes) (endpoint : String) (w : World) :
    ∃ new new',
      (finalState (writeAll bytes ⟨.connected endpoint t, w⟩)).world.trace = w.trace ++ new ∧
      (finalState (writeAll bytes ⟨.connected endpoint { t with writes, flushes }, w⟩)).world.trace =
        w.trace ++ new' ∧
      new'.flatMap Event.octetsWritten = new.flatMap Event.octetsWritten ∧
      (flushes.head?.any (·.what.isInterrupt) = false ∨
          new.flatMap Event.octetsWritten ≠ bytes →
        outcome (writeAll bytes ⟨.connected endpoint { t with writes, flushes }, w⟩) =
          outcome (writeAll bytes ⟨.connected endpoint t, w⟩)) ∧
      (∀ cause cancels, flushes.head? = some ⟨.fail cause, cancels⟩ →
        new.flatMap Event.octetsWritten = bytes →
          outcome (writeAll bytes ⟨.connected endpoint { t with writes, flushes }, w⟩) =
            .error (.write endpoint cause)) := by
  obtain ⟨hend, _, w₁, new, hfinal, htrace, -, hsent⟩ := writeAll_ends bytes endpoint t w
  obtain ⟨hend', _, w₂, new', hfinal', htrace', -, hsent'⟩ :=
    writeAll_ends bytes endpoint { t with writes, flushes } w
  have hobstacle : writeObstacle? { t with writes, flushes } bytes =
      (obstacle? t.writes bytes).or (flushObstacle? flushes) := by
    rw [writeObstacle?, obstacle?_interspersed hwrites]
  refine ⟨new, new', by rw [hfinal, htrace], by rw [hfinal', htrace'], ?_, ?_, ?_⟩
  · rw [hsent, hsent', sent_interspersed hwrites]
  · intro hcase
    rw [hend, hend', hobstacle, writeObstacle?]
    rcases hcase with hfirst | hleft
    · rcases hflushes.head? with hsame | ⟨step, hhead, hstep⟩
      · rw [flushObstacle?, hsame, flushObstacle?]
      · rw [hhead, Option.any_some, hstep] at hfirst
        cases hfirst
    · rw [hsent, ne_eq, ← obstacle?_eq_none_iff] at hleft
      obtain ⟨cause, hcause⟩ := Option.ne_none_iff_exists'.1 hleft
      rw [hcause, Option.some_or, Option.some_or]
  · intro cause cancels hhead hall
    rw [hsent, ← obstacle?_eq_none_iff] at hall
    rw [hend', hobstacle, hall, Option.none_or, flushObstacle?, hhead]
    rfl

/-- A signal that meets a system call. -/
def signal : IoError := .ofKind .interrupted

/-- A connection that takes one octet at first. -/
def hesitant : Transport := ⟨false, [], [⟨.accept 1, false⟩], [⟨.done, false⟩]⟩

/-- The same writes with a signal before each of them and one behind. -/
def disturbed : List (Cued WriteStep) :=
  [⟨.fail signal, false⟩, ⟨.accept 1, false⟩, ⟨.fail signal, false⟩, ⟨.fail signal, true⟩]

/-- Nothing happens in this world but what is done to it. -/
def quiet : World := ⟨[], [], false, .memory [] none none, []⟩

theorem writeAll_of_disturbed :
    Interspersed (·.what.isInterrupt) hesitant.writes disturbed ∧
      Interspersed (·.what.isInterrupt) hesitant.flushes
        [⟨.done, false⟩, ⟨.fail signal, false⟩] ∧
      outcome (writeAll [0x61, 0x62] ⟨.connected "node-a:9500"
        { hesitant with
          writes := disturbed, flushes := [⟨.done, false⟩, ⟨.fail signal, false⟩] }, quiet⟩) =
        .ok () := by
  have hwrites : Interspersed (·.what.isInterrupt) hesitant.writes disturbed :=
    .put rfl (.keep _ (.put rfl (.put rfl .nil)))
  have hflushes : Interspersed (·.what.isInterrupt) hesitant.flushes
      [⟨.done, false⟩, ⟨.fail signal, false⟩] := .keep _ (.put rfl .nil)
  obtain ⟨_, _, -, -, -, hsame, -⟩ :=
    writeAll_interspersed hwrites hflushes [0x61, 0x62] "node-a:9500" quiet
  exact ⟨hwrites, hflushes, hsame (.inl rfl)⟩

/-- A signal that meets the flush makes a write fail that succeeds without it. -/
theorem writeAll_of_disturbed_flush :
    Interspersed (·.what.isInterrupt) hesitant.writes hesitant.writes ∧
      Interspersed (·.what.isInterrupt) hesitant.flushes
        (⟨.fail signal, false⟩ :: hesitant.flushes) ∧
      outcome (writeAll [0x61, 0x62] ⟨.connected "node-a:9500" hesitant, quiet⟩) = .ok () ∧
      outcome (writeAll [0x61, 0x62] ⟨.connected "node-a:9500"
        { hesitant with flushes := ⟨.fail signal, false⟩ :: hesitant.flushes }, quiet⟩) =
        .error (.write "node-a:9500" signal) :=
  ⟨.keep _ .nil, .put rfl (.keep _ .nil), rfl, rfl⟩

end Link

end ClusterRpc
