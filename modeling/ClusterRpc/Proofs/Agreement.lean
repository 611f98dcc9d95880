import ClusterRpc.Proofs.Exhaustion

/-!
# The two views of failure

A directory is asked two things about failures: which endpoint to try next, which it reads off the
flags of its list, and whether an address has failed, which it reads off the list and the configured
endpoint. The two answers go together except in one case: a redirect names the configured address
after that has failed, and the list of before did not have it.
-/

namespace ClusterRpc

theorem sameAddress_comm (a b : Address) : sameAddress a b = sameAddress b a := by
  rw [sameAddress, sameAddress, sameHost, sameHost, Text.sameLetters, Text.sameLetters,
    Bool.beq_comm, Bool.beq_comm (a := a.1.toList.map Char.toLower)]

theorem sameAddress_trans {a b c : Address} (hab : sameAddress a b = true)
    (hbc : sameAddress b c = true) : sameAddress a c = true := by
  simp only [sameAddress, sameHost, Text.sameLetters, Bool.and_eq_true, beq_iff_eq] at *
  exact ⟨hab.1.trans hbc.1, hab.2.trans hbc.2⟩

/-- Addresses that are the same are the same as the same ones. -/
theorem sameAddress_congr {a b : Address} (h : sameAddress a b = true) (c : Address) :
    sameAddress a c = sameAddress b c := by
  rw [Bool.eq_iff_iff]
  constructor
  · exact sameAddress_trans (by rwa [sameAddress_comm])
  · exact sameAddress_trans h

def RedirectTarget.address (t : RedirectTarget) : Address := (t.hostName, t.port)

namespace Directory

/-! ## Histories -/

/-- What may be done to a directory. -/
inductive Change where
  | load
  | nextUntried
  | markFailed (hostName : String) (port : Nat)
  | rememberRedirect (targets : RedirectTargets)
  | resetFailures
deriving DecidableEq, Repr

/-- The directory after a change that meets the store of `w`. -/
def after (d : Directory) (change : Change) (w : World) : Directory :=
  match change with
  | .load => (d.load w).2.1
  | .nextUntried => (d.nextUntried w).2.1
  | .markFailed hostName port => (d.markFailed hostName port w).1
  | .rememberRedirect targets => (d.rememberRedirect targets w).2.1
  | .resetFailures => d.resetFailures

/-- The directory after changes in turn. The store may be another one each time. -/
def afterAll (d : Directory) (changes : List (Change × World)) : Directory :=
  changes.foldl (fun d change => d.after change.1 change.2) d

/-! ## What every history keeps -/

/-- Flags are raised on every entry of an address at once, and a listed entry of the configured
address is not raised without the configured endpoint. -/
structure Consistent (d : Directory) : Prop where
  unloaded : d.loaded = false → d.endpoints = [] ∧ d.configured.failed = false
  listed : ∀ e ∈ d.endpoints, ∀ e' ∈ d.endpoints, sameAddress e.address e'.address = true →
    e.failed = e'.failed
  configured : ∀ e ∈ d.endpoints, sameAddress e.address d.configured.address = true →
    e.failed = true → d.configured.failed = true

/-- Whatever is listed at an address that has failed is flagged. -/
def Agrees (d : Directory) : Prop :=
  ∀ e ∈ d.endpoints, d.isFailed e.hostName e.port = true → e.failed = true

/-- A redirect lists the configured address as one that has not failed, while the configured
endpoint has: the flag was on no entry of the list. -/
def Revives (d : Directory) (targets : RedirectTargets) : Prop :=
  d.configured.failed = true ∧ ∃ t ∈ targets.leader :: targets.followers,
    sameAddress t.address d.configured.address = true ∧
      ∀ e ∈ d.endpoints, e.failed = true → sameAddress e.address t.address = false

section

variable {d : Directory} {e : Endpoint} {targets : RedirectTargets} {w : World}

/-- A listed endpoint has failed by either view, or the configured one has, which it is. -/
theorem Consistent.isFailed_iff (h : d.Consistent) (he : e ∈ d.endpoints) :
    d.isFailed e.hostName e.port = true ↔ e.failed = true ∨
      d.configured.failed = true ∧ sameAddress e.address d.configured.address = true := by
  have hself := sameAddress_self e.address
  rw [show d.isFailed e.hostName e.port = d.isFailed e.address.1 e.address.2 from rfl,
    isFailed_eq_true]
  constructor
  · rintro ⟨e', hmem, hsame, hfailed⟩
    rcases List.mem_append.1 hmem with hmem | hmem
    · exact .inl ((h.listed e' hmem e he hsame).symm.trans hfailed)
    · obtain rfl := List.mem_singleton.1 hmem
      exact .inr ⟨hfailed, by rwa [sameAddress_comm]⟩
  · rintro (hfailed | ⟨hfailed, hsame⟩)
    · exact ⟨e, List.mem_append_left _ he, hself, hfailed⟩
    · exact ⟨d.configured, by simp [entries], by rwa [sameAddress_comm], hfailed⟩

/-- Only the configured endpoint can have failed without its entry in the list. -/
theorem Consistent.agrees_iff (h : d.Consistent) : d.Agrees ↔ ∀ e ∈ d.endpoints,
    d.configured.failed = true → sameAddress e.address d.configured.address = true →
      e.failed = true := by
  constructor
  · intro hagrees e he hfailed hsame
    exact hagrees e he ((h.isFailed_iff he).2 (.inr ⟨hfailed, hsame⟩))
  · intro hconfigured e he hfailed
    rcases (h.isFailed_iff he).1 hfailed with hfailed | ⟨hfailed, hsame⟩
    · exact hfailed
    · exact hconfigured e he hfailed hsame

/-! ## Loading -/

theorem endpoints?_eq_some {url : String} {stored : Option Json} {endpoints : List Endpoint}
    (h : Failover.endpoints? url stored = some endpoints) :
    ∃ targets : List RedirectTarget, endpoints = targets.map Endpoint.ofTarget := by
  simp only [Failover.endpoints?, Option.bind_eq_bind, Option.bind_eq_some_iff] at h
  obtain ⟨_, -, _, -, _, -, _, -, _, -, hsome⟩ := h
  exact ⟨_, (Option.some.inj hsome).symm⟩

/-- A record that is loaded names endpoints that have not failed. -/
theorem failed_of_loaded (h : d.Consistent) (hloaded : d.loaded = false)
    (he : e ∈ (d.ensureLoaded w).1.endpoints) : e.failed = false := by
  have hnone : e ∉ d.endpoints := by simp [(h.unloaded hloaded).1]
  simp only [ensureLoaded, load, hloaded, Bool.false_eq_true, if_false, World.getState] at he
  cases hget : w.store.get Failover.key with
  | error fault =>
      rw [hget] at he
      exact absurd he hnone
  | ok stored =>
      rw [hget] at he
      cases hrecord : Failover.endpoints? d.url stored with
      | none =>
          simp only [hrecord, Option.getD_none] at he
          exact absurd he hnone
      | some endpoints =>
          simp only [hrecord, Option.getD_some] at he
          obtain ⟨targets, rfl⟩ := endpoints?_eq_some hrecord
          obtain ⟨t, -, rfl⟩ := List.mem_map.1 he
          rfl

theorem ensureLoaded_of_loaded (h : d.loaded = true) (w : World) : (d.ensureLoaded w).1 = d := by
  simp [ensureLoaded, load, h]

theorem Consistent.ensureLoaded (h : d.Consistent) (w : World) :
    (d.ensureLoaded w).1.Consistent := by
  cases hloaded : d.loaded with
  | true => rwa [ensureLoaded_of_loaded hloaded]
  | false =>
      have hfresh {e : Endpoint} (he : e ∈ (d.ensureLoaded w).1.endpoints) : e.failed = false :=
        failed_of_loaded h hloaded he
      refine ⟨?_, ?_, ?_⟩
      · rw [(d.configured_ensureLoaded w).2.1]
        rintro ⟨⟩
      · intro e he e' he' _
        rw [hfresh he, hfresh he']
      · intro e he _ hfailed
        rw [hfresh he] at hfailed
        cases hfailed

theorem Agrees.ensureLoaded (hd : d.Consistent) (h : d.Agrees) (w : World) :
    (d.ensureLoaded w).1.Agrees := by
  cases hloaded : d.loaded with
  | true => rwa [ensureLoaded_of_loaded hloaded]
  | false =>
      rw [(hd.ensureLoaded w).agrees_iff, (d.configured_ensureLoaded w).1]
      intro e _ hfailed
      rw [(hd.unloaded hloaded).2] at hfailed
      cases hfailed

/-! ## Flags -/

theorem Consistent.flag (h : d.Consistent) (hloaded : d.loaded = true) (a : Address) :
    (d.flag a.1 a.2).Consistent := by
  refine ⟨?_, ?_, ?_⟩
  · rw [show (d.flag a.1 a.2).loaded = d.loaded from rfl, hloaded]
    rintro ⟨⟩
  · intro e he e' he' hsame
    obtain ⟨x, hx, rfl⟩ := List.mem_map.1 he
    obtain ⟨y, hy, rfl⟩ := List.mem_map.1 he'
    rw [Endpoint.address_flagAt, Endpoint.address_flagAt] at hsame
    rw [Endpoint.failed_flagAt, Endpoint.failed_flagAt, h.listed x hx y hy hsame,
      sameAddress_congr hsame]
  · intro e he hsame hfailed
    obtain ⟨x, hx, rfl⟩ := List.mem_map.1 he
    have hconfigured : (d.flag a.1 a.2).configured = d.configured.flagAt a.1 a.2 := rfl
    rw [hconfigured, Endpoint.address_flagAt, Endpoint.address_flagAt] at hsame
    rw [Endpoint.failed_flagAt, sameAddress_congr hsame, Bool.or_eq_true] at hfailed
    rw [hconfigured, Endpoint.failed_flagAt, Bool.or_eq_true]
    exact hfailed.imp_left (h.configured x hx hsame)

theorem Agrees.flag (h : d.Agrees) (hd : d.Consistent) (hloaded : d.loaded = true) (a : Address) :
    (d.flag a.1 a.2).Agrees := by
  rw [(hd.flag hloaded a).agrees_iff]
  intro e he hfailed hsame
  obtain ⟨x, hx, rfl⟩ := List.mem_map.1 he
  have hconfigured : (d.flag a.1 a.2).configured = d.configured.flagAt a.1 a.2 := rfl
  rw [hconfigured, Endpoint.address_flagAt, Endpoint.address_flagAt] at hsame
  rw [hconfigured, Endpoint.failed_flagAt, Bool.or_eq_true] at hfailed
  rw [Endpoint.failed_flagAt, sameAddress_congr hsame, Bool.or_eq_true]
  exact hfailed.imp_left fun hfailed => hd.agrees_iff.1 h x hx hfailed hsame

theorem failed_resetFailures (he : e ∈ d.resetFailures.endpoints) : e.failed = false := by
  obtain ⟨x, -, rfl⟩ := List.mem_map.1 he
  rfl

theorem Consistent.resetFailures (h : d.Consistent) : d.resetFailures.Consistent := by
  refine ⟨fun hloaded => ⟨?_, rfl⟩, ?_, ?_⟩
  · rw [Directory.resetFailures, (h.unloaded hloaded).1]
    rfl
  · intro e he e' he' _
    rw [failed_resetFailures he, failed_resetFailures he']
  · intro e he _ hfailed
    rw [failed_resetFailures he] at hfailed
    cases hfailed

theorem Agrees.resetFailures (h : d.Consistent) : d.resetFailures.Agrees := by
  rw [h.resetFailures.agrees_iff]
  rintro e - ⟨⟩

/-! ## Redirects -/

/-- The directory with the endpoints of a redirect. -/
def relisted (d : Directory) (targets : RedirectTargets) : Directory :=
  { d with endpoints := d.redirected targets }

/-- An endpoint of a redirect is flagged if the list of before had a flag at its address. -/
theorem mem_relisted : e ∈ (d.relisted targets).endpoints ↔
    ∃ t ∈ targets.leader :: targets.followers, e.address = t.address ∧
      e.failed = d.endpoints.any fun x => x.failed && sameAddress x.address t.address := by
  simp only [relisted, redirected, List.mem_map]
  constructor
  · rintro ⟨t, ht, rfl⟩
    exact ⟨t, ht, rfl, rfl⟩
  · rintro ⟨t, ht, haddress, hfailed⟩
    refine ⟨t, ht, ?_⟩
    rcases e with ⟨hostName, port, failed⟩
    cases haddress
    cases hfailed
    rfl

theorem Consistent.relisted (h : d.Consistent) (hloaded : d.loaded = true)
    (targets : RedirectTargets) : (d.relisted targets).Consistent := by
  refine ⟨?_, ?_, ?_⟩
  · rw [show (d.relisted targets).loaded = d.loaded from rfl, hloaded]
    rintro ⟨⟩
  · intro e he e' he' hsame
    obtain ⟨t, -, haddress, hfailed⟩ := mem_relisted.1 he
    obtain ⟨t', -, haddress', hfailed'⟩ := mem_relisted.1 he'
    rw [haddress, haddress'] at hsame
    rw [hfailed, hfailed']
    congr 1
    funext x
    rw [sameAddress_comm, sameAddress_congr hsame, sameAddress_comm]
  · intro e he hsame hfailed
    obtain ⟨t, -, haddress, hflag⟩ := mem_relisted.1 he
    rw [hflag, List.any_eq_true] at hfailed
    obtain ⟨x, hx, hfailed⟩ := hfailed
    rw [Bool.and_eq_true] at hfailed
    rw [haddress] at hsame
    exact h.configured x hx (sameAddress_trans hfailed.2 hsame) hfailed.1

/-- The views go together after a redirect unless it revives the configured endpoint. -/
theorem agrees_relisted_iff (h : d.Consistent) (hloaded : d.loaded = true) :
    (d.relisted targets).Agrees ↔ ¬ d.Revives targets := by
  rw [(h.relisted hloaded targets).agrees_iff]
  constructor
  · rintro hagrees ⟨hfailed, t, ht, hsame, hnone⟩
    let e : Endpoint := ⟨t.hostName, t.port,
      d.endpoints.any fun x => x.failed && sameAddress x.address t.address⟩
    have hflag : e.failed = true :=
      hagrees e (mem_relisted.2 ⟨t, ht, rfl, rfl⟩) hfailed hsame
    obtain ⟨x, hx, hx'⟩ := List.any_eq_true.1 hflag
    rw [Bool.and_eq_true] at hx'
    rw [hnone x hx hx'.1] at hx'
    cases hx'.2
  · intro hnot e he hfailed hsame
    obtain ⟨t, ht, haddress, hflag⟩ := mem_relisted.1 he
    rw [hflag]
    refine Bool.of_not_eq_false fun hunflagged => hnot ⟨hfailed, t, ht, by rwa [← haddress], ?_⟩
    intro x hx hxfailed
    have hx := List.any_eq_false.1 hunflagged x hx
    rw [hxfailed, Bool.true_and] at hx
    exact Bool.eq_false_iff.2 hx

/-! ## Whole histories -/

theorem Consistent.after (h : d.Consistent) (change : Change) (w : World) :
    (d.after change w).Consistent := by
  have hload := h.ensureLoaded w
  have hloaded := (d.configured_ensureLoaded w).2.1
  cases change with
  | load => exact hload
  | nextUntried => exact hload
  | markFailed hostName port => exact hload.flag hloaded (hostName, port)
  | rememberRedirect targets => exact hload.relisted hloaded targets
  | resetFailures => exact h.resetFailures

theorem Agrees.after (h : d.Agrees) (hd : d.Consistent) (change : Change) (w : World)
    (hkeeps : ∀ targets, change = .rememberRedirect targets →
      ¬ (d.ensureLoaded w).1.Revives targets) : (d.after change w).Agrees := by
  have hconsistent := hd.ensureLoaded w
  have hload := h.ensureLoaded hd w
  have hloaded := (d.configured_ensureLoaded w).2.1
  cases change with
  | load => exact hload
  | nextUntried => exact hload
  | markFailed hostName port => exact hload.flag hconsistent hloaded (hostName, port)
  | rememberRedirect targets =>
      exact (agrees_relisted_iff hconsistent hloaded).2 (hkeeps targets rfl)
  | resetFailures => exact Agrees.resetFailures hd

theorem consistent_fresh (url hostName : String) (port : Nat) :
    (fresh url hostName port).Consistent :=
  ⟨fun _ => ⟨rfl, rfl⟩, by simp [fresh], by simp [fresh]⟩

/-- Somewhere in a history a redirect revives the configured endpoint. -/
def Revived (d : Directory) (changes : List (Change × World)) : Prop :=
  ∃ before targets w later, changes = before ++ (.rememberRedirect targets, w) :: later ∧
    ((d.afterAll before).ensureLoaded w).1.Revives targets

theorem consistent_afterAll (h : d.Consistent) (changes : List (Change × World)) :
    (d.afterAll changes).Consistent := by
  induction changes generalizing d with
  | nil => exact h
  | cons change changes ih => exact ih (h.after change.1 change.2)

theorem agrees_afterAll (h : d.Consistent) (hagrees : d.Agrees)
    (changes : List (Change × World)) : (d.afterAll changes).Agrees ∨ d.Revived changes := by
  induction changes generalizing d with
  | nil => exact .inl hagrees
  | cons change changes ih =>
      rcases change with ⟨change, w⟩
      -- A redirect that revives the configured endpoint is the one change that may part the views.
      by_cases hrevives : ∃ targets, change = .rememberRedirect targets ∧
          (d.ensureLoaded w).1.Revives targets
      · obtain ⟨targets, rfl, hrevives⟩ := hrevives
        exact .inr ⟨[], targets, w, changes, rfl, hrevives⟩
      · have hafter : (d.after change w).Agrees :=
          hagrees.after h change w fun targets he hr => hrevives ⟨targets, he, hr⟩
        refine (ih (h.after change w) hafter).imp_right ?_
        rintro ⟨before, targets, w', later, rfl, hr⟩
        exact ⟨(change, w) :: before, targets, w', later, rfl, hr⟩

theorem firstUntried_eq_some (h : d.firstUntried = some e) :
    e.failed = false ∧ (e ∈ d.endpoints ∨ d.endpoints = [] ∧ e = d.configured) := by
  have hfailed := List.find?_some h
  have hmem : e ∈ d.candidates := List.mem_of_find?_eq_some h
  refine ⟨by simpa using hfailed, ?_⟩
  rw [candidates] at hmem
  split at hmem
  · rename_i hempty
    exact .inr ⟨List.isEmpty_iff.1 hempty, List.mem_singleton.1 hmem⟩
  · exact .inl hmem

end

/-- After any history, over any contents of the store, the endpoint to try next counts as failed
only if it is listed at the address of the configured endpoint, which has failed. That takes a
redirect which revived the configured endpoint; without one the endpoint to try next never counts
as failed. -/
theorem isFailed_nextUntried_iff (url hostName : String) (port : Nat)
    (changes : List (Change × World)) (w : World) {e : Endpoint}
    (h : (((fresh url hostName port).afterAll changes).nextUntried w).1 = some e) :
    let d := (((fresh url hostName port).afterAll changes).nextUntried w).2.1
    (d.isFailed e.hostName e.port = true ↔
      d.configured.failed = true ∧ sameAddress e.address d.configured.address = true) ∧
    (d.isFailed e.hostName e.port = true → (fresh url hostName port).Revived changes) := by
  intro d
  let d₀ := (fresh url hostName port).afterAll changes
  have hstart := consistent_fresh url hostName port
  have hconsistent : d.Consistent := (consistent_afterAll hstart changes).ensureLoaded w
  obtain ⟨hunflagged, hlisted⟩ := firstUntried_eq_some (d := d) h
  have hiff : d.isFailed e.hostName e.port = true ↔
      d.configured.failed = true ∧ sameAddress e.address d.configured.address = true := by
    rcases hlisted with he | ⟨hnone, rfl⟩
    · rw [hconsistent.isFailed_iff he, hunflagged]
      simp
    · simp [Directory.isFailed, hnone, hunflagged]
  refine ⟨hiff, fun hfailed => ?_⟩
  have hempty : (fresh url hostName port).Agrees := by
    rintro e ⟨⟩
  rcases agrees_afterAll hstart hempty changes with hagrees | hrevived
  · have hagrees : d.Agrees := hagrees.ensureLoaded (consistent_afterAll hstart changes) w
    rcases hlisted with he | ⟨hnone, rfl⟩
    · rw [hagrees e he hfailed] at hunflagged
      cases hunflagged
    · rw [(hiff.1 hfailed).1] at hunflagged
      cases hunflagged
  · exact hrevived

/-- An endpoint to try next, where the leader of a redirect has failed in another spelling. -/
theorem nextUntried_of_failed_leader :
    let w : World := ⟨[], [], false, .memory [] none none, []⟩
    let changes : List (Change × World) :=
      [(.rememberRedirect ⟨⟨"b", none, 9500⟩, [⟨"a", none, 9500⟩]⟩, w), (.markFailed "B" 9500, w)]
    let d := (((fresh "http://a:9500" "a" 9500).afterAll changes).nextUntried w).2.1
    (((fresh "http://a:9500" "a" 9500).afterAll changes).nextUntried w).1 =
        some (.fresh "a" 9500) ∧ d.isFailed "b" 9500 = true ∧ ¬ d.isFailed "a" 9500 = true := by
  intro w changes d
  have hnext : (((fresh "http://a:9500" "a" 9500).afterAll changes).nextUntried w).1 =
      some (.fresh "a" 9500) := by decide
  obtain ⟨hiff, -⟩ := isFailed_nextUntried_iff "http://a:9500" "a" 9500 changes w hnext
  refine ⟨hnext, by decide, fun hfailed => ?_⟩
  have hconfigured : d.configured.failed = false := by decide
  rw [(hiff.1 hfailed).1] at hconfigured
  cases hconfigured

/-- The configured endpoint fails, and a redirect names it: it is the endpoint to try next and
counts as failed. -/
theorem nextUntried_of_revived :
    let w : World := ⟨[], [], false, .memory [] none none, []⟩
    let changes : List (Change × World) :=
      [(.markFailed "a" 9500, w), (.rememberRedirect ⟨⟨"a", none, 9500⟩, []⟩, w)]
    let d := (fresh "http://a:9500" "a" 9500).afterAll changes
    (d.nextUntried w).1 = some (.fresh "a" 9500) ∧
      (d.nextUntried w).2.1.isFailed "a" 9500 = true := by decide

end Directory

end ClusterRpc
