import ClusterRpc.Net.World

/-! # The endpoints of a controller set, and which of them failed

Each configured address owns one failover record in the store: the leader and the followers that the
latest redirect named. It is loaded when it is first needed. Which endpoints failed is remembered
only while the client runs. -/

namespace ClusterRpc

/-- One controller, and whether the last attempt to connect to it failed. -/
structure Endpoint where
  hostName : String
  port : Nat
  failed : Bool
deriving DecidableEq, Repr

/-- Host names that differ only in the case of ASCII letters are the same. -/
def sameHost (a b : String) : Bool := Text.sameLetters a.toList b.toList

namespace Endpoint

/-- An endpoint that has not failed. -/
def fresh (hostName : String) (port : Nat) : Endpoint := ⟨hostName, port, false⟩

/-- Whether this is the endpoint at an address. -/
def isAt (e : Endpoint) (hostName : String) (port : Nat) : Bool :=
  e.port == port && sameHost e.hostName hostName

/-- Marks the endpoint as failed if it is the one at an address. -/
def flagAt (hostName : String) (port : Nat) (e : Endpoint) : Endpoint :=
  if e.isAt hostName port then { e with failed := true } else e

def ofTarget (t : RedirectTarget) : Endpoint := fresh t.hostName t.port

theorem isAt_self (e : Endpoint) : e.isAt e.hostName e.port = true := by
  simp [isAt, sameHost, Text.sameLetters]

end Endpoint

/-! ## Failover records -/

namespace Failover

/-- The key of the store that holds every failover record. -/
def key : String := "redirects"

/-- The configured address that a record belongs to. -/
def url? (record : Json) : Option String := (record.field? "url").bind Json.string?

def belongsTo (url : String) (record : Json) : Bool := url? record == some url

/-- The endpoints that the stored records name for an address; none if it has no list of them. -/
def endpoints? (url : String) (stored : Option Json) : Option (List Endpoint) := do
  let records ← (← stored).array?
  let record ← records.find? (belongsTo url)
  let controllers ← (← record.field? "controllers").array?
  some ((controllers.filterMap RedirectTarget.ofJson?).map Endpoint.ofTarget)

/-- A controller of a record. -/
def controller (t : RedirectTarget) : Json :=
  .ofFields [("hostname", .string t.hostName), ("ip", .string (t.ip.getD t.hostName)),
    ("port", .ofNat t.port), ("class_name", .string "CmonController")]

/-- The record of an address after a redirect. -/
def record (url : String) (targets : RedirectTargets) : Json :=
  .ofFields [("url", .string url),
    ("controllers", .array ((targets.leader :: targets.followers).map controller))]

/-- Puts a record in the place of the first one of its address, or else at the end. -/
def replace (url : String) (record : Json) : List Json → List Json
  | [] => [record]
  | r :: rest => if belongsTo url r then record :: rest else r :: replace url record rest

end Failover

/-! ## The directory -/

/-- The endpoints known for one configured address. -/
structure Directory where
  url : String
  configured : Endpoint
  endpoints : List Endpoint
  loaded : Bool
deriving DecidableEq, Repr

namespace Directory

def fresh (url hostName : String) (port : Nat) : Directory :=
  ⟨url, .fresh hostName port, [], false⟩

/-- Loads the failover record, unless that was tried before. -/
def load (d : Directory) (w : World) : Except StateError Unit × Directory × World :=
  if d.loaded then (.ok (), d, w)
  else
    let d := { d with loaded := true }
    match w.getState Failover.key with
    | (.error e, w) => (.error e, d, w)
    | (.ok stored, w) =>
        (.ok (), { d with endpoints := (Failover.endpoints? d.url stored).getD d.endpoints }, w)

/-- Loads the failover record; one that cannot be read counts as missing. -/
def ensureLoaded (d : Directory) (w : World) : Directory × World := (d.load w).2

/-- The endpoints to be tried in turn: those of the record, or else the configured one. -/
def candidates (d : Directory) : List Endpoint :=
  if d.endpoints.isEmpty then [d.configured] else d.endpoints

/-- The first candidate that has not failed. -/
def firstUntried (d : Directory) : Option Endpoint := d.candidates.find? (!·.failed)

/-- How many candidates have not failed. -/
def untried (d : Directory) : Nat := d.candidates.countP (!·.failed)

/-- The first candidate that has not failed, once the record is loaded. -/
def nextUntried (d : Directory) (w : World) : Option Endpoint × Directory × World :=
  let (d, w) := d.ensureLoaded w
  (d.firstUntried, d, w)

/-- Whether an address has failed. -/
def isFailed (d : Directory) (hostName : String) (port : Nat) : Bool :=
  (d.endpoints ++ [d.configured]).any fun e => e.isAt hostName port && e.failed

/-- Marks an address as failed wherever it is known. -/
def flag (d : Directory) (hostName : String) (port : Nat) : Directory :=
  { d with
    endpoints := d.endpoints.map (Endpoint.flagAt hostName port)
    configured := d.configured.flagAt hostName port }

/-- Marks an address as failed, once the record is loaded. -/
def markFailed (d : Directory) (hostName : String) (port : Nat) (w : World) : Directory × World :=
  let (d, w) := d.ensureLoaded w
  (d.flag hostName port, w)

/-- Forgets which endpoints failed. -/
def resetFailures (d : Directory) : Directory :=
  let clear (e : Endpoint) : Endpoint := { e with failed := false }
  { d with endpoints := d.endpoints.map clear, configured := clear d.configured }

/-- The endpoints after a redirect. An address that was listed before and had failed stays failed. -/
def redirected (d : Directory) (targets : RedirectTargets) : List Endpoint :=
  (targets.leader :: targets.followers).map fun t =>
    { Endpoint.ofTarget t with
      failed := d.endpoints.any fun e => e.failed && e.isAt t.hostName t.port }

/-- Stores the record of a redirect. -/
def persist (url : String) (targets : RedirectTargets) (w : World) :
    Except StateError Unit × World :=
  match w.getState Failover.key with
  | (.error e, w) => (.error e, w)
  | (.ok stored, w) =>
      let records := (stored.bind Json.array?).getD []
      w.setState Failover.key
        (.array (Failover.replace url (Failover.record url targets) records))

/-- Takes the endpoints of a redirect over, and stores them. -/
def rememberRedirect (d : Directory) (targets : RedirectTargets) (w : World) :
    Except StateError Unit × Directory × World :=
  let (d, w) := d.ensureLoaded w
  let d := { d with endpoints := d.redirected targets }
  let (outcome, w) := persist d.url targets w
  (outcome, d, w)

theorem candidates_flag (d : Directory) (hostName : String) (port : Nat) :
    (d.flag hostName port).candidates = d.candidates.map (Endpoint.flagAt hostName port) := by
  simp only [candidates, flag, List.isEmpty_map]
  split <;> simp

private theorem countP_flagAt_lt {e : Endpoint} {es : List Endpoint} (he : e ∈ es)
    (hf : e.failed = false) :
    (es.map (Endpoint.flagAt e.hostName e.port)).countP (!·.failed) < es.countP (!·.failed) := by
  have hle : ∀ es : List Endpoint,
      (es.map (Endpoint.flagAt e.hostName e.port)).countP (!·.failed) ≤
        es.countP (!·.failed) := by
    intro es
    rw [List.countP_map]
    refine List.countP_mono_left fun x _ hx => ?_
    simp only [Function.comp_apply, Endpoint.flagAt] at hx
    split at hx <;> simp_all
  induction es with
  | nil => simp at he
  | cons x xs ih =>
      simp only [List.map_cons, List.countP_cons]
      rcases List.mem_cons.1 he with rfl | he
      · have := hle xs
        simp only [Endpoint.flagAt, Endpoint.isAt_self, hf, if_true, Bool.not_true, Bool.not_false,
          Bool.false_eq_true, if_false]
        omega
      · have := ih he
        have hx : (if (!(Endpoint.flagAt e.hostName e.port x).failed) = true then 1 else 0) ≤
            (if (!x.failed) = true then 1 else 0) := by
          simp only [Endpoint.flagAt]
          split <;> simp
        omega

/-- Marking the first untried candidate as failed leaves fewer to try. -/
theorem untried_flag_lt {d : Directory} {e : Endpoint} (h : d.firstUntried = some e) :
    (d.flag e.hostName e.port).untried < d.untried := by
  simp only [firstUntried] at h
  have hmem := List.mem_of_find?_eq_some h
  have hf := List.find?_some h
  simp only [Bool.not_eq_true'] at hf
  simp only [untried, candidates_flag]
  exact countP_flagAt_lt hmem hf

end Directory

end ClusterRpc
