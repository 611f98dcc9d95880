import ClusterRpc.Proofs.Hearing
import Mathlib.Data.List.TakeWhile

/-!
# How reading ends

A read that a signal cuts short is tried again, up to a limit; the first one that is not cut short is
what is reported. Whatever it is, the connection stays open, and each octet is delivered or still to
come.
-/

namespace ClusterRpc

namespace ReadStep

/-- A read that a signal cuts short. -/
def isInterrupt : ReadStep → Bool
  | fail cause => cause.isInterrupt
  | _ => false

/-- The octets that a read has to bring. -/
def content : ReadStep → Bytes
  | data bytes => bytes
  | _ => []

end ReadStep

/-! ## Scripts of reads -/

namespace ReadScript

/-- The reads in front that signals cut short. -/
def signals (reads : List (Cued ReadStep)) : List (Cued ReadStep) :=
  reads.takeWhile (·.what.isInterrupt)

/-- The reads from the first one on that no signal cuts short. -/
def settled (reads : List (Cued ReadStep)) : List (Cued ReadStep) :=
  reads.dropWhile (·.what.isInterrupt)

/-- The octets that the reads of a script have to bring. -/
def content (reads : List (Cued ReadStep)) : Bytes := reads.flatMap (·.what.content)

section

variable {step : Cued ReadStep} {reads front : List (Cued ReadStep)}

theorem signals_append_settled (reads : List (Cued ReadStep)) :
    signals reads ++ settled reads = reads :=
  List.takeWhile_append_dropWhile

theorem isInterrupt_of_mem_signals (h : step ∈ signals reads) : step.what.isInterrupt = true :=
  List.mem_takeWhile_imp (p := fun step : Cued ReadStep => step.what.isInterrupt) h

theorem not_isInterrupt_of_settled (h : (settled reads).head? = some step) :
    step.what.isInterrupt = false := by
  have hhead := List.head?_dropWhile_not (fun step : Cued ReadStep => step.what.isInterrupt) reads
  rwa [← settled, h] at hhead

/-- Where there are more signals than some number, there are that many and one more. -/
theorem exists_of_lt_signals {limit : Nat} (h : limit < (signals reads).length) :
    ∃ front step, front.length = limit ∧ reads = front ++ step :: reads.drop (limit + 1) ∧
      (∀ s ∈ front, s.what.isInterrupt = true) ∧ step.what.isInterrupt = true := by
  have hsplit : signals reads =
      (signals reads).take limit ++ (signals reads)[limit] :: (signals reads).drop (limit + 1) := by
    rw [← List.drop_eq_getElem_cons h, List.take_append_drop]
  refine ⟨(signals reads).take limit, (signals reads)[limit], ?_, ?_, ?_, ?_⟩
  · rw [List.length_take, Nat.min_eq_left (Nat.le_of_lt h)]
  · have hdrop : reads.drop (limit + 1) =
        (signals reads).drop (limit + 1) ++ settled reads := by
      conv_lhs => rw [← signals_append_settled reads]
      exact List.drop_append_of_le_length h
    rw [hdrop, ← List.cons_append, ← List.append_assoc, ← hsplit, signals_append_settled]
  · exact fun s hs => isInterrupt_of_mem_signals (List.mem_of_mem_take hs)
  · exact isInterrupt_of_mem_signals (List.getElem_mem h)

@[simp] theorem content_cons (step : Cued ReadStep) (rest : List (Cued ReadStep)) :
    content (step :: rest) = step.what.content ++ content rest := List.flatMap_cons

theorem content_append (front rest : List (Cued ReadStep)) :
    content (front ++ rest) = content front ++ content rest := List.flatMap_append

/-- Signals bring nothing. -/
theorem content_of_signals (h : ∀ step ∈ front, step.what.isInterrupt = true) :
    content front = [] := by
  rw [content, List.flatMap_eq_nil_iff]
  intro step hstep
  have hinterrupt := h step hstep
  cases hwhat : step.what with
  | fail cause => rfl
  | data | eof => rw [hwhat] at hinterrupt; cases hinterrupt

theorem content_settled (reads : List (Cued ReadStep)) :
    content (settled reads) = content reads := by
  conv_rhs => rw [← signals_append_settled reads, content_append,
    content_of_signals fun _ => isInterrupt_of_mem_signals]
  rfl

theorem content_drop {limit : Nat} (h : limit < (signals reads).length) :
    content (reads.drop (limit + 1)) = content reads := by
  obtain ⟨front, step, -, hreads, hfront, hstep⟩ := exists_of_lt_signals h
  have hsignals : ∀ s ∈ front ++ [step], s.what.isInterrupt = true :=
    List.forall_mem_append.2 ⟨hfront, List.forall_mem_singleton.2 hstep⟩
  conv_rhs => rw [hreads, List.append_cons, content_append, content_of_signals hsignals]
  rfl

end

end ReadScript

/-- One read delivers the octets that come first and leaves the others. -/
theorem Transport.content_read (t : Transport) (room : Nat) :
    (t.read room).1.toOption.getD [] ++ ReadScript.content (t.read room).2.2.reads =
      ReadScript.content t.reads := by
  fun_cases Transport.read t room with
  | case1 hreads => rfl
  | case2 step rest hreads done hwhat | case3 step rest hreads done cause hwhat =>
      rw [hreads, ReadScript.content_cons, hwhat]
      rfl
  | case4 step rest hreads done bytes hwhat hle =>
      rw [hreads, ReadScript.content_cons, hwhat]
      rfl
  | case5 step rest hreads bytes hwhat hlt =>
      rw [hreads, ReadScript.content_cons, ReadScript.content_cons, hwhat, ← List.append_assoc]
      exact congrArg (· ++ ReadScript.content rest) (List.take_append_drop room bytes)

/-! ## Tries -/

namespace Link

open ReadScript

/-- What is reported of a read that is not tried again. -/
def reported (endpoint : String) : Except IoError Bytes → Except TransportError Bytes
  | .ok bytes => .ok bytes
  | .error cause =>
      match cause.kind with
      | .wouldBlock | .timedOut => .error (.readTimeout endpoint)
      | _ => .error (.read endpoint cause)

theorem reported_error (endpoint : String) (cause : IoError) :
    reported endpoint (.error cause) =
      if cause.isTimeout then .error (.readTimeout endpoint) else .error (.read endpoint cause) := by
  rcases cause with ⟨kind, text⟩
  cases kind <;> rfl

/-- Octets are delivered as they are. -/
theorem toOption_reported (endpoint : String) (result : Except IoError Bytes) :
    (reported endpoint result).toOption = result.toOption := by
  cases result with
  | ok bytes => rfl
  | error cause =>
      rw [reported_error]
      split <;> rfl

section

variable {t : Transport} {step : Cued ReadStep} {front : List (Cued ReadStep)}

theorem read_of_isInterrupt (h : step.what.isInterrupt = true) (t : Transport) (room : Nat)
    (rest : List (Cued ReadStep)) : ∃ cause, cause.isInterrupt = true ∧
      Transport.read { t with reads := step :: rest } room =
        (.error cause, step.cancels, { t with reads := rest }) := by
  obtain ⟨what, cancels⟩ := step
  cases what with
  | fail cause => exact ⟨cause, h, rfl⟩
  | data | eof => cases h

variable (endpoint : String) (room : Nat)

/-- A signal takes one try. -/
theorem readRetrying_signal (h : step.what.isInterrupt = true) (retries : Nat)
    (rest : List (Cued ReadStep)) (w : World) :
    readRetrying endpoint room (retries + 1) { t with reads := step :: rest } w =
      readRetrying endpoint room retries { t with reads := rest } (w.cue step.cancels) := by
  obtain ⟨cause, hcause, hread⟩ := read_of_isInterrupt h t room rest
  rw [readRetrying, hread]
  simp only [hcause, if_true]

/-- Signals take as many tries as there are of them. -/
theorem readRetrying_signals (h : ∀ step ∈ front, step.what.isInterrupt = true) (retries : Nat)
    (rest : List (Cued ReadStep)) (w : World) : ∃ w',
      readRetrying endpoint room (front.length + retries) { t with reads := front ++ rest } w =
        readRetrying endpoint room retries { t with reads := rest } w' := by
  induction front generalizing w with
  | nil => exact ⟨w, by rw [List.length_nil, Nat.zero_add, List.nil_append]⟩
  | cons step front ih =>
      obtain ⟨hstep, hfront⟩ := List.forall_mem_cons.1 h
      obtain ⟨w', hw'⟩ := ih hfront (w.cue step.cancels)
      refine ⟨w', ?_⟩
      rw [← hw', List.length_cons, Nat.add_right_comm, List.cons_append,
        readRetrying_signal endpoint room hstep]

/-- With no tries left a signal is a failure. -/
theorem readRetrying_exhausted (h : step.what.isInterrupt = true) (rest : List (Cued ReadStep))
    (w : World) : ∃ cause w', cause.kind = .interrupted ∧
      readRetrying endpoint room 0 { t with reads := step :: rest } w =
        (.error (.read endpoint cause), { t with reads := rest }, w') := by
  obtain ⟨cause, hcause, hread⟩ := read_of_isInterrupt h t room rest
  refine ⟨cause, w.cue step.cancels, eq_of_beq hcause, ?_⟩
  rw [readRetrying, hread]
  simp only [hcause, if_true]

/-- A read that no signal cuts short is reported, however many tries are left. -/
theorem readRetrying_settled
    (h : ∀ step, t.reads.head? = some step → step.what.isInterrupt = false)
    (retries : Nat) (w : World) : ∃ w', readRetrying endpoint room retries t w =
      (reported endpoint (t.read room).1, (t.read room).2.2, w') := by
  rw [readRetrying]
  rcases hread : t.read room with ⟨_ | bytes, cancels, t'⟩
  · rename_i cause
    have hhead : t.reads.head? = some ⟨.fail cause, cancels⟩ := by
      rw [Transport.reads_of_error hread, List.head?_cons]
    have hcause : cause.isInterrupt = false := h _ hhead
    refine ⟨w.cue cancels, ?_⟩
    simp only [hcause, Bool.false_eq_true, if_false, reported_error]
    split <;> rfl
  · exact ⟨_, rfl⟩

/-- If there are no more signals than tries, the read after them is reported. -/
theorem readRetrying_of_le {retries : Nat} (h : (signals t.reads).length ≤ retries) (w : World) :
    ∃ w', readRetrying endpoint room retries t w =
      (reported endpoint (Transport.read { t with reads := settled t.reads } room).1,
        (Transport.read { t with reads := settled t.reads } room).2.2, w') := by
  obtain ⟨left, rfl⟩ := Nat.exists_eq_add_of_le h
  obtain ⟨w₁, hsignals⟩ := readRetrying_signals (t := t) endpoint room
    (fun _ => isInterrupt_of_mem_signals) left (settled t.reads) w
  obtain ⟨w₂, hsettled⟩ := readRetrying_settled (t := { t with reads := settled t.reads })
    endpoint room (fun _ => not_isInterrupt_of_settled) left w₁
  rw [signals_append_settled] at hsignals
  exact ⟨w₂, hsignals.trans hsettled⟩

/-- If there are more signals than tries, the first one too many is the failure. -/
theorem readRetrying_of_lt {retries : Nat} (h : retries < (signals t.reads).length) (w : World) :
    ∃ cause w', cause.kind = .interrupted ∧ readRetrying endpoint room retries t w =
      (.error (.read endpoint cause), { t with reads := t.reads.drop (retries + 1) }, w') := by
  obtain ⟨front, step, rfl, hreads, hfront, hstep⟩ := exists_of_lt_signals h
  obtain ⟨w₁, hsignals⟩ := readRetrying_signals (t := t) endpoint room hfront 0
    (step :: t.reads.drop (front.length + 1)) w
  obtain ⟨cause, w₂, hkind, hlast⟩ := readRetrying_exhausted (t := t) endpoint room hstep
    (t.reads.drop (front.length + 1)) w₁
  rw [← hreads] at hsignals
  exact ⟨cause, w₂, hkind, hsignals.trans hlast⟩

theorem read_of_readRetrying {endpoint : String} {room : Nat} {w w' : World} {t' : Transport}
    {r : Except TransportError Bytes}
    (h : readRetrying endpoint room (retryLimit t.tls) t w = (r, t', w')) :
    outcome (read room ⟨.connected endpoint t, w⟩) = r ∧
      finalState (read room ⟨.connected endpoint t, w⟩) = ⟨.connected endpoint t', w'⟩ := by
  simp only [read, h]
  cases r <;> exact ⟨rfl, rfl⟩

end

/-- A read is tried again where a signal cuts it short, ten times with TLS and a hundred times
without. The first one that is not cut short by then is reported as it is, a timeout as such, and no
read behind it is touched; if all of them are cut short, the last one is the failure. The channel
stays open, and each octet on it is delivered or still to come. -/
theorem read_restarts (room : Nat) (endpoint : String) (t : Transport) (w : World) :
    let limit := if t.tls then 10 else 100
    let result := read room ⟨.connected endpoint t, w⟩
    ∃ t' w' new, finalState result = ⟨.connected endpoint t', w'⟩ ∧
      ((signals t.reads).length ≤ limit →
        let last := Transport.read { t with reads := settled t.reads } room
        outcome result = reported endpoint last.1 ∧ t' = last.2.2) ∧
      (limit < (signals t.reads).length → ∃ cause, cause.kind = .interrupted ∧
        outcome result = .error (.read endpoint cause) ∧
        t' = { t with reads := t.reads.drop (limit + 1) }) ∧
      w'.trace = w.trace ++ new ∧ new.all Event.isIntake = true ∧
      new.flatMap Event.octetsRead = (outcome result).toOption.getD [] ∧
      (outcome result).toOption.getD [] ++ content t'.reads = content t.reads := by
  intro limit result
  obtain ⟨t', w', new, hfinal, htrace, hintake, hread⟩ := read_connected room endpoint t w
  have hdelivered : new.flatMap Event.octetsRead = (outcome result).toOption.getD [] := by
    rw [hread]
    cases outcome result <;> rfl
  refine ⟨t', w', new, hfinal, ?_⟩
  -- The trace tells what was read, and the number of signals which read that was.
  rcases Nat.lt_or_ge limit (signals t.reads).length with hmany | hfew
  · obtain ⟨cause, w₁, hkind, hretrying⟩ := readRetrying_of_lt endpoint room hmany w
    obtain ⟨houtcome, hfinal'⟩ := read_of_readRetrying hretrying
    cases hfinal'.symm.trans hfinal
    refine ⟨fun hfew => absurd hmany (Nat.not_lt.2 hfew), fun _ => ⟨cause, hkind, houtcome, rfl⟩,
      htrace, hintake, hdelivered, ?_⟩
    rw [houtcome]
    exact content_drop hmany
  · obtain ⟨w₁, hretrying⟩ := readRetrying_of_le endpoint room hfew w
    obtain ⟨houtcome, hfinal'⟩ := read_of_readRetrying hretrying
    cases hfinal'.symm.trans hfinal
    refine ⟨fun _ => ⟨houtcome, rfl⟩, fun hmany => absurd hmany (Nat.not_lt.2 hfew), htrace, hintake,
      hdelivered, ?_⟩
    rw [houtcome, toOption_reported, Transport.content_read]
    exact content_settled t.reads

/-- A timeout behind as many signals as there are tries is still told as one. -/
example : outcome (read 8 ⟨.connected "node-a:9501"
      ⟨true, List.replicate 10 ⟨.fail (.ofKind .interrupted), false⟩ ++
        [⟨.fail (.ofKind .timedOut), false⟩], [], []⟩, ⟨[], [], false, .memory [] none none, []⟩⟩) =
    .error (.readTimeout "node-a:9501") := by decide +kernel

end Link

end ClusterRpc
