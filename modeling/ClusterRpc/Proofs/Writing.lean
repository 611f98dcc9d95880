import ClusterRpc.Proofs.Trace
import Mathlib.Algebra.GroupWithZero.Nat
import Mathlib.Data.List.TakeDrop

/-!
# How writing ends

Writing goes on after a short write and after one that a signal cut short, and stops at the first
that takes nothing or fails otherwise. How much is sent by then is the room of the writes gone by.
-/

namespace ClusterRpc

namespace WriteStep

/-- A write that a signal cuts short. -/
def isInterrupt : WriteStep → Bool
  | fail cause => cause.isInterrupt
  | accept _ => false

/-- Whether another write follows this one while octets are left. -/
def goesOn : WriteStep → Bool
  | accept count => count != 0
  | fail cause => cause.isInterrupt

/-- How many octets a write takes at most. -/
def room : WriteStep → Nat
  | accept count => count
  | fail _ => 0

/-- What writing fails with if no other write follows this one. -/
def obstacle : WriteStep → IoError
  | accept _ => .ofKind .writeZero
  | fail cause => cause

theorem goesOn_of_isInterrupt {step : WriteStep} (h : step.isInterrupt = true) :
    step.goesOn = true ∧ step.room = 0 := by
  cases step with
  | accept count => cases h
  | fail cause => exact ⟨h, rfl⟩

end WriteStep

/-- A flush that a signal cuts short. -/
def FlushStep.isInterrupt : FlushStep → Bool
  | .fail cause => cause.isInterrupt
  | .done => false

/-! ## Scripts of writes -/

namespace WriteScript

/-- How much the writes take before the one that stops the writing. -/
def room (steps : List (Cued WriteStep)) : Nat :=
  ((steps.takeWhile (·.what.goesOn)).map (·.what.room)).sum

/-- The write that stops the writing. Behind the last write of a script everything is taken. -/
def stop? (steps : List (Cued WriteStep)) : Option (Cued WriteStep) :=
  steps.find? (!·.what.goesOn)

/-- The octets that are sent. -/
def sent (steps : List (Cued WriteStep)) (bytes : Bytes) : Bytes :=
  if (stop? steps).isSome then bytes.take (room steps) else bytes

/-- Why not all octets are sent, if so. -/
def obstacle? (steps : List (Cued WriteStep)) (bytes : Bytes) : Option IoError :=
  if bytes.length ≤ room steps then none else (stop? steps).map (·.what.obstacle)

section

variable {step : Cued WriteStep} {steps before : List (Cued WriteStep)} {bytes : Bytes}

theorem room_cons_of_goesOn (h : step.what.goesOn = true) (steps : List (Cued WriteStep)) :
    room (step :: steps) = step.what.room + room steps := by
  simp only [room, List.takeWhile_cons, h, if_true, List.map_cons, List.sum_cons]

theorem room_cons_of_not_goesOn (h : step.what.goesOn = false) (steps : List (Cued WriteStep)) :
    room (step :: steps) = 0 := by
  simp only [room, List.takeWhile_cons, h, Bool.false_eq_true, if_false, List.map_nil, List.sum_nil]

theorem stop?_cons_of_goesOn (h : step.what.goesOn = true) (steps : List (Cued WriteStep)) :
    stop? (step :: steps) = stop? steps :=
  List.find?_cons_of_neg (by simp [h])

theorem stop?_cons_of_not_goesOn (h : step.what.goesOn = false) (steps : List (Cued WriteStep)) :
    stop? (step :: steps) = some step :=
  List.find?_cons_of_pos (by simp [h])

theorem sent_isPrefix (steps : List (Cued WriteStep)) (bytes : Bytes) :
    sent steps bytes <+: bytes := by
  rw [sent]
  split
  · exact List.take_prefix ..
  · exact List.prefix_rfl

/-- All octets are sent unless something stops the writing. -/
theorem obstacle?_eq_none_iff : obstacle? steps bytes = none ↔ sent steps bytes = bytes := by
  rw [obstacle?, sent]
  cases stop? steps with
  | none => simp
  | some step => simp [List.take_eq_self_iff]

/-- The writes gone by, and the one that stops the writing. -/
theorem of_append (hbefore : ∀ step ∈ before, step.what.goesOn = true)
    (hstep : step.what.goesOn = false) (after : List (Cued WriteStep)) :
    room (before ++ step :: after) = (before.map (·.what.room)).sum ∧
      stop? (before ++ step :: after) = some step := by
  induction before with
  | nil => exact ⟨room_cons_of_not_goesOn hstep after, stop?_cons_of_not_goesOn hstep after⟩
  | cons first before ih =>
      obtain ⟨hfirst, hbefore⟩ := List.forall_mem_cons.1 hbefore
      obtain ⟨hroom, hstop⟩ := ih hbefore
      constructor
      · rw [List.cons_append, room_cons_of_goesOn hfirst, hroom, List.map_cons, List.sum_cons]
      · rw [List.cons_append, stop?_cons_of_goesOn hfirst, hstop]

/-- If octets are left for the write that stops the writing, it is what the writing fails with. -/
theorem obstacle?_of_append (hbefore : ∀ step ∈ before, step.what.goesOn = true)
    (hstep : step.what.goesOn = false) (after : List (Cued WriteStep))
    (hleft : (before.map (·.what.room)).sum < bytes.length) :
    obstacle? (before ++ step :: after) bytes = some step.what.obstacle ∧
      sent (before ++ step :: after) bytes = bytes.take (before.map (·.what.room)).sum := by
  obtain ⟨hroom, hstop⟩ := of_append hbefore hstep after
  rw [obstacle?, sent, hroom, hstop, if_neg (Nat.not_le.2 hleft)]
  exact ⟨rfl, rfl⟩

/-! ## One write after the other -/

theorem obstacle?_nil (steps : List (Cued WriteStep)) : obstacle? steps [] = none :=
  if_pos (Nat.zero_le _)

theorem sent_nil (steps : List (Cued WriteStep)) : sent steps [] = [] :=
  List.prefix_nil.1 (sent_isPrefix steps [])

theorem obstacle?_cons_of_goesOn (h : step.what.goesOn = true) :
    obstacle? (step :: steps) bytes = obstacle? steps (bytes.drop step.what.room) := by
  simp only [obstacle?, room_cons_of_goesOn h, stop?_cons_of_goesOn h, List.length_drop,
    Nat.sub_le_iff_le_add, Nat.add_comm]

theorem sent_cons_of_goesOn (h : step.what.goesOn = true) :
    sent (step :: steps) bytes =
      bytes.take step.what.room ++ sent steps (bytes.drop step.what.room) := by
  rw [sent, sent, room_cons_of_goesOn h, stop?_cons_of_goesOn h]
  split
  · rw [List.take_add]
  · rw [List.take_append_drop]

theorem obstacle?_cons_of_not_goesOn (h : step.what.goesOn = false) (hne : bytes ≠ []) :
    obstacle? (step :: steps) bytes = some step.what.obstacle := by
  have hlength : ¬bytes.length ≤ 0 := Nat.not_le.2 (List.length_pos_iff.2 hne)
  rw [obstacle?, room_cons_of_not_goesOn h, stop?_cons_of_not_goesOn h, if_neg hlength]
  rfl

theorem sent_cons_of_not_goesOn (h : step.what.goesOn = false) :
    sent (step :: steps) bytes = [] := by
  rw [sent, room_cons_of_not_goesOn h, stop?_cons_of_not_goesOn h]
  rfl

end

end WriteScript

namespace Link

/-- How writing ends that meets an obstacle, or none. -/
def ending (endpoint : String) : Option IoError → Except TransportError Unit
  | none => .ok ()
  | some cause => .error (.write endpoint cause)

theorem ending_eq_ok_iff {endpoint : String} {obstacle : Option IoError} :
    ending endpoint obstacle = .ok () ↔ obstacle = none := by
  cases obstacle <;> simp [ending]

/-- What stops a flush, if something does. -/
def flushObstacle? (steps : List (Cued FlushStep)) : Option IoError :=
  steps.head?.bind fun step =>
    match step.what with
    | .done => none
    | .fail cause => some cause

open WriteScript

/-- The trace of one accepted write. -/
theorem trace_accept (w : World) (bytes : Bytes) (cancels : Bool) :
    ((w.emit (.write bytes)).cue cancels).trace =
      w.trace ++ .write bytes :: Event.ofCue cancels := by
  rw [World.cue_trace, World.emit, List.append_assoc]
  rfl

theorem octetsWritten_accept (bytes : Bytes) (cancels : Bool) :
    (Event.write bytes :: Event.ofCue cancels).flatMap Event.octetsWritten = bytes := by
  rw [List.flatMap_cons, Event.flatMap_octetsWritten_ofCue, List.append_nil]
  rfl

theorem isOutput_accept (bytes : Bytes) (cancels : Bool) :
    (Event.write bytes :: Event.ofCue cancels).all Event.isOutput = true :=
  Event.all_ofCue rfl cancels

/-- A run of write steps sends what there is room for, and ends with what stops it. -/
theorem writeSteps_sends (endpoint : String) (w : World) (steps : List (Cued WriteStep))
    (bytes : Bytes) :
    (writeSteps endpoint w steps bytes).1 = ending endpoint (obstacle? steps bytes) ∧
      ∃ new, (writeSteps endpoint w steps bytes).2.2.trace = w.trace ++ new ∧
        new.all Event.isOutput = true ∧ new.flatMap Event.octetsWritten = sent steps bytes := by
  fun_induction writeSteps endpoint w steps bytes with
  | case1 w steps =>
      rw [obstacle?_nil, sent_nil]
      exact ⟨rfl, [], (List.append_nil _).symm, rfl, rfl⟩
  | case2 w bytes _ => exact ⟨by simp [obstacle?, stop?, ending], [.write bytes], rfl, rfl, by
      simp [sent, stop?, Event.octetsWritten]⟩
  | case3 w step rest bytes hne heq w' =>
      have hstop : step.what.goesOn = false := by rw [heq]; rfl
      rw [obstacle?_cons_of_not_goesOn hstop hne, sent_cons_of_not_goesOn hstop, heq]
      exact ⟨rfl, _, trace_accept w (bytes.take 0) step.cancels, isOutput_accept ..,
        octetsWritten_accept ..⟩
  | case4 w step rest bytes _ count heq w' hcount ih =>
      have hon : step.what.goesOn = true := by rw [heq]; exact bne_iff_ne.2 hcount
      obtain ⟨hend, new, hnew, hall, hsent⟩ := ih
      rw [obstacle?_cons_of_goesOn hon, sent_cons_of_goesOn hon, heq]
      refine ⟨hend, .write (bytes.take count) :: Event.ofCue step.cancels ++ new, ?_, ?_, ?_⟩
      · rw [hnew, trace_accept, List.append_assoc]
      · rw [List.all_append, isOutput_accept, hall]
        rfl
      · rw [List.flatMap_append, octetsWritten_accept, hsent]
        rfl
  | case5 w step rest bytes _ cause heq w' hcause ih =>
      have hon : step.what.goesOn = true := by rw [heq]; exact hcause
      obtain ⟨hend, new, hnew, hall, hsent⟩ := ih
      rw [obstacle?_cons_of_goesOn hon, sent_cons_of_goesOn hon, heq]
      refine ⟨hend, Event.ofCue step.cancels ++ new, ?_, ?_, ?_⟩
      · rw [hnew, World.cue_trace, List.append_assoc]
      · rw [List.all_append, Event.all_ofCue rfl, hall]
        rfl
      · rw [List.flatMap_append, Event.flatMap_octetsWritten_ofCue, hsent]
        rfl
  | case6 w step rest bytes hne cause heq w' hcause =>
      have hstop : step.what.goesOn = false := by rw [heq]; exact Bool.eq_false_iff.2 hcause
      rw [obstacle?_cons_of_not_goesOn hstop hne, sent_cons_of_not_goesOn hstop, heq]
      exact ⟨rfl, _, World.cue_trace .., Event.all_ofCue rfl _,
        Event.flatMap_octetsWritten_ofCue _⟩

theorem flushStep_trace (endpoint : String) (w : World) (steps : List (Cued FlushStep)) :
    ∃ cancels : Bool, (flushStep endpoint w steps).2.2.trace =
      w.trace ++ Event.ofCue cancels := by
  fun_cases flushStep endpoint w steps with
  | case1 => exact ⟨false, by simp [Event.ofCue]⟩
  | case2 step rest => exact ⟨step.cancels, w.cue_trace step.cancels⟩
  | case3 step rest => exact ⟨step.cancels, w.cue_trace step.cancels⟩

theorem flushStep_ends (endpoint : String) (w : World) (steps : List (Cued FlushStep)) :
    (flushStep endpoint w steps).1 = ending endpoint (flushObstacle? steps) ∧
      (flushStep endpoint w steps).2.1 = steps.tail ∧
      ∃ cancels, (flushStep endpoint w steps).2.2.trace = w.trace ++ Event.ofCue cancels := by
  refine ⟨?_, ?_, flushStep_trace endpoint w steps⟩
  · cases steps with
    | nil => rfl
    | cons step rest =>
        simp only [flushStep, flushObstacle?, List.head?_cons, Option.bind_some]
        cases step.what <;> rfl
  · cases steps with
    | nil => rfl
    | cons step rest =>
        simp only [flushStep, List.tail_cons]
        cases step.what <;> rfl

/-- Why writing octets and flushing them fails, if it does. -/
def writeObstacle? (t : Transport) (bytes : Bytes) : Option IoError :=
  (obstacle? t.writes bytes).or (flushObstacle? t.flushes)

/-- Octets are flushed once all of them are sent. -/
theorem writeAll_ends (bytes : Bytes) (endpoint : String) (t : Transport) (w : World) :
    outcome (writeAll bytes ⟨.connected endpoint t, w⟩) =
        ending endpoint (writeObstacle? t bytes) ∧
      ∃ t' w' new, finalState (writeAll bytes ⟨.connected endpoint t, w⟩) =
          ⟨.connected endpoint t', w'⟩ ∧
        w'.trace = w.trace ++ new ∧ new.all Event.isOutput = true ∧
          new.flatMap Event.octetsWritten = sent t.writes bytes := by
  obtain ⟨hend, new, hnew, houtput, hsent⟩ := writeSteps_sends endpoint w t.writes bytes
  simp only [writeAll]
  rcases hw : writeSteps endpoint w t.writes bytes with ⟨result, writes, w'⟩
  rw [hw] at hend hnew
  dsimp only at hend hnew
  cases hobstacle : obstacle? t.writes bytes with
  | some cause =>
      rw [hobstacle] at hend
      subst hend
      exact ⟨by rw [writeObstacle?, hobstacle]; rfl, _, w', new, rfl, hnew, houtput, hsent⟩
  | none =>
      rw [hobstacle] at hend
      subst hend
      obtain ⟨hflush, -, cancels, htrace⟩ := flushStep_ends endpoint w' t.flushes
      rcases hf : flushStep endpoint w' t.flushes with ⟨result, flushes, w''⟩
      rw [hf] at hflush htrace
      dsimp only at hflush htrace
      have hall : (new ++ Event.ofCue cancels).flatMap Event.octetsWritten =
          sent t.writes bytes := by
        rw [List.flatMap_append, Event.flatMap_octetsWritten_ofCue, List.append_nil, hsent]
      have houtput' : (new ++ Event.ofCue cancels).all Event.isOutput = true := by
        rw [List.all_append, houtput, Event.all_ofCue rfl]
        rfl
      rw [hnew, List.append_assoc] at htrace
      subst hflush
      rw [writeObstacle?, hobstacle, Option.none_or]
      cases flushObstacle? t.flushes <;>
        exact ⟨rfl, { t with writes, flushes }, w'', _, by simp [ending, finalState], htrace,
          houtput', hall⟩

/-- Nothing is written for no octets, but they are flushed. -/
theorem writeAll_nil (endpoint : String) (t : Transport) (w : World) : ∃ w' cancels,
    finalState (writeAll [] ⟨.connected endpoint t, w⟩) =
        ⟨.connected endpoint { t with flushes := t.flushes.tail }, w'⟩ ∧
      w'.trace = w.trace ++ Event.ofCue cancels := by
  obtain ⟨-, hflushes, cancels, htrace⟩ := flushStep_ends endpoint w t.flushes
  have hwrite : writeSteps endpoint w t.writes [] = (.ok (), t.writes, w) := by
    cases t.writes <;> rfl
  simp only [writeAll, hwrite]
  rcases hf : flushStep endpoint w t.flushes with ⟨_ | _, flushes, w'⟩ <;>
    rw [hf] at hflushes htrace <;>
    exact ⟨w', cancels, by rw [finalState, ← hflushes], htrace⟩

end Link

end ClusterRpc
