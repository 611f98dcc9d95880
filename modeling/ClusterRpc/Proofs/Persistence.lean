import ClusterRpc.Directory
import Mathlib.Logic.Function.Basic

/-!
# Failover records of several addresses in one store

Directories of different addresses keep their records in one list of the store. Each redirect reads
the list, puts one record into it and writes all of it back, whatever was there; what it wrote is
read again by the reader of redirects. So the records of two addresses never meet.
-/

namespace ClusterRpc

namespace Store

/-- Nothing fails at a key: whatever is written there, and however often, is stored, and what was
written last is read. -/
def Serves (store : Store) (key : String) (stored : Option Json) : Prop :=
  ∀ values : List Json, ∃ store',
    values.foldlM (fun s value => s.set key value) store = .ok store' ∧
      store'.get key = .ok (values.getLast?.or stored)

section

variable {store : Store} {key : String} {stored : Option Json}

theorem Serves.get (h : store.Serves key stored) : store.get key = .ok stored := by
  obtain ⟨store', hset, hget⟩ := h []
  obtain rfl := Except.ok.inj hset
  exact hget

theorem Serves.set (h : store.Serves key stored) (value : Json) :
    ∃ store', store.set key value = .ok store' ∧ store'.Serves key (some value) := by
  have hafter (values : List Json) : ∃ store', (store.set key value >>= fun s =>
      values.foldlM (fun s value => s.set key value) s) = .ok store' ∧
        store'.get key = .ok (values.getLast?.or (some value)) := by
    obtain ⟨store', hset, hget⟩ := h (value :: values)
    refine ⟨store', hset, ?_⟩
    rw [hget]
    cases values with
    | nil => rfl
    | cons v values =>
        rw [List.getLast?_cons_cons, List.getLast?_cons, Option.some_or, Option.some_or]
  cases hset : store.set key value with
  | error e =>
      obtain ⟨store', hnone, -⟩ := hafter []
      rw [hset] at hnone
      cases hnone
  | ok store' =>
      refine ⟨store', rfl, fun values => ?_⟩
      obtain ⟨store'', hrest, hget⟩ := hafter values
      rw [hset] at hrest
      exact ⟨store'', hrest, hget⟩

/-- A store in memory serves every key, if no fault is put into it. -/
theorem serves_memory (values : Json.Object) (key : String) :
    (memory values none none).Serves key (values.find? key) := by
  intro written
  induction written generalizing values with
  | nil => exact ⟨_, rfl, rfl⟩
  | cons value written ih =>
      obtain ⟨store', hset, hget⟩ := ih (values.insert key value)
      refine ⟨store', hset, ?_⟩
      rw [hget, Keyed.find?_insert, if_pos rfl]
      cases written with
      | nil => rfl
      | cons v written =>
          rw [List.getLast?_cons_cons, List.getLast?_cons, Option.some_or, Option.some_or]

end

end Store

/-! ## What is written is read again -/

theorem Text.numeral?_le {limit n : Nat} {s : Text} (h : numeral? limit s = some n) :
    n ≤ limit := by
  simp only [numeral?, Option.ite_none_right_eq_some, Option.some.injEq] at h
  obtain ⟨-, hle, rfl⟩ := h
  exact hle

namespace RedirectTarget

/-- What every target has that comes from a reply. -/
def Usable (t : RedirectTarget) : Prop := t.hostName.isEmpty = false ∧ t.port ≤ maxPort

theorem text?_isEmpty {fields : Json.Object} {key s : String} (h : text? fields key = some s) :
    s.isEmpty = false := by
  simpa using Option.filter_eq_some_iff.1 h |>.2

theorem port?_le {v : Json} {port : Nat} (h : port? v = some port) : port ≤ maxPort := by
  cases v with
  | number n =>
      cases n with
      | integer n =>
          simp only [port?] at h
          split at h
          · obtain rfl := Option.some.inj h
            omega
          · cases h
      | real x => cases h
  | string s => exact Text.numeral?_le h
  | _ => cases h

theorem usable_of_ofJson? {v : Json} {t : RedirectTarget} (h : ofJson? v = some t) : t.Usable := by
  simp only [ofJson?, Option.bind_eq_bind, Option.bind_eq_some_iff] at h
  obtain ⟨fields, -, hostName, hname, port, ⟨v, -, hport⟩, ht⟩ := h
  obtain rfl := Option.some.inj ht
  refine ⟨?_, port?_le hport⟩
  rcases Option.or_eq_some_iff.1 hname with hname | ⟨-, hname⟩ <;> exact text?_isEmpty hname

end RedirectTarget

namespace RedirectTargets

/-- The endpoints that a redirect names, the leader first. -/
def endpoints (targets : RedirectTargets) : List Endpoint :=
  (targets.leader :: targets.followers).map Endpoint.ofTarget

end RedirectTargets

theorem Reply.usable_of_redirectTargets? {r : Reply} {targets : RedirectTargets}
    (h : r.redirectTargets? = some targets) :
    ∀ t ∈ targets.leader :: targets.followers, t.Usable := by
  simp only [redirectTargets?, Option.bind_eq_bind, Option.bind_eq_some_iff] at h
  obtain ⟨leader, ⟨v, -, hleader⟩, htargets⟩ := h
  obtain rfl := Option.some.inj htargets
  intro t ht
  rcases List.mem_cons.1 ht with rfl | ht
  · exact RedirectTarget.usable_of_ofJson? hleader
  · obtain ⟨v, -, hv⟩ := List.mem_filterMap.1 ht
    exact RedirectTarget.usable_of_ofJson? hv

namespace Failover

/-- The stored records; none if something else is stored. -/
def records (stored : Option Json) : List Json := (stored.bind Json.array?).getD []

@[simp] theorem records_array (rs : List Json) : records (some (.array rs)) = rs := rfl

/-- The endpoints that one record names. -/
def named? (record : Json) : Option (List Endpoint) :=
  ((record.field? "controllers").bind Json.array?).map fun controllers =>
    (controllers.filterMap RedirectTarget.ofJson?).map Endpoint.ofTarget

theorem endpoints?_eq (url : String) (stored : Option Json) :
    endpoints? url stored = ((records stored).find? (belongsTo url)).bind named? := by
  cases stored with
  | none => rfl
  | some v =>
      cases hv : v.array? with
      | none => simp [endpoints?, records, hv]
      | some rs =>
          simp only [endpoints?, records, hv, Option.bind_eq_bind, Option.bind_some,
            Option.getD_some]
          congr 1
          funext record
          rw [named?]
          cases record.field? "controllers" with
          | none => rfl
          | some v => cases h : v.array? <;> simp [h]

/-- A controller that is written is read again, up to its address, which a record always has. -/
theorem ofJson?_controller {t : RedirectTarget} (h : t.Usable) :
    ∃ ip, RedirectTarget.ofJson? (controller t) = some { t with ip } := by
  obtain ⟨hname, hport⟩ := h
  obtain ⟨fields, hfields⟩ : ∃ fields : Json.Object, controller t = .object fields := ⟨_, rfl⟩
  have hfind : fields.find? "hostname" = some (.string t.hostName) ∧
      fields.find? "port" = some (.ofNat t.port) := by
    obtain rfl := Json.object.inj hfields
    simp [Keyed.ofList, Keyed.find?_insert]
  have hhost : RedirectTarget.text? fields "hostname" = some t.hostName := by
    simp [RedirectTarget.text?, hfind.1, Json.string?, Option.filter, hname]
  have hnumber : RedirectTarget.port? (.ofNat t.port) = some t.port := by
    simp [RedirectTarget.port?, Json.ofNat, hport]
  refine ⟨RedirectTarget.text? fields "ip", ?_⟩
  simp [RedirectTarget.ofJson?, hfields, Json.object?, hhost, hfind.2, hnumber]

theorem url?_record (url : String) (targets : RedirectTargets) :
    url? (record url targets) = some url := by
  simp [url?, record, Json.ofFields, Json.field?, Json.object?, Keyed.ofList, Keyed.find?_insert,
    Json.string?]

theorem belongsTo_record (url : String) (targets : RedirectTargets) :
    belongsTo url (record url targets) = true := by
  rw [belongsTo, url?_record]
  exact beq_self_eq_true _

theorem eq_of_belongsTo {url url' : String} {r : Json} (h : belongsTo url r = true)
    (h' : belongsTo url' r = true) : url = url' := by
  rw [belongsTo, beq_iff_eq] at h h'
  exact Option.some.inj (h.symm.trans h')

/-- The record of a redirect names its endpoints, and nothing is left out. -/
theorem named?_record {targets : RedirectTargets}
    (h : ∀ t ∈ targets.leader :: targets.followers, t.Usable) (url : String) :
    named? (record url targets) = some targets.endpoints := by
  have hread (ts : List RedirectTarget) (h : ∀ t ∈ ts, t.Usable) :
      ((ts.map controller).filterMap RedirectTarget.ofJson?).map Endpoint.ofTarget =
        ts.map Endpoint.ofTarget := by
    induction ts with
    | nil => rfl
    | cons t ts ih =>
        obtain ⟨ip, ht⟩ := ofJson?_controller (h t List.mem_cons_self)
        rw [List.map_cons, List.filterMap_cons_some ht, List.map_cons,
          ih fun t ht => h t (List.mem_cons_of_mem _ ht)]
        rfl
  have hfield : (record url targets).field? "controllers" =
      some (.array ((targets.leader :: targets.followers).map controller)) := by
    simp [record, Json.ofFields, Json.field?, Json.object?, Keyed.ofList, Keyed.find?_insert]
  rw [named?, hfield, RedirectTargets.endpoints, ← hread _ h]
  rfl

/-! ## Putting a record in its place -/

section

variable {url : String} {new : Json}

/-- Whatever leaves the records of an address out does not see one of them replaced. -/
theorem filter_replace {p : Json → Bool} (hnew : belongsTo url new = true)
    (hp : ∀ r, belongsTo url r = true → p r = false) (rs : List Json) :
    (replace url new rs).filter p = rs.filter p := by
  fun_induction replace url new rs with
  | case1 => simp [hp new hnew]
  | case2 r rest hr => simp [hp new hnew, hp r hr]
  | case3 r rest hr ih => rw [List.filter_cons, List.filter_cons, ih]

theorem find?_replace (hnew : belongsTo url new = true) (rs : List Json) :
    (replace url new rs).find? (belongsTo url) = some new := by
  fun_induction replace url new rs with
  | case1 => simp [hnew]
  | case2 r rest hr => simp [hnew]
  | case3 r rest hr ih => rw [List.find?_cons_of_neg hr, ih]

/-- There is one record more only if there was none. -/
theorem countP_replace (hnew : belongsTo url new = true) (rs : List Json) :
    (replace url new rs).countP (belongsTo url) = max 1 (rs.countP (belongsTo url)) := by
  fun_induction replace url new rs with
  | case1 => simp [hnew]
  | case2 r rest hr =>
      rw [List.countP_cons_of_pos hnew, List.countP_cons_of_pos hr]
      omega
  | case3 r rest hr ih => rw [List.countP_cons_of_neg hr, List.countP_cons_of_neg hr, ih]

/-- The records of another address stay as they are. -/
theorem filter_replace_of_ne {url' : String} (hne : url ≠ url') (hnew : belongsTo url new = true)
    (rs : List Json) :
    (replace url new rs).filter (belongsTo url') = rs.filter (belongsTo url') :=
  filter_replace hnew (fun _ hr => Bool.eq_false_iff.2 fun hr' => hne (eq_of_belongsTo hr hr')) rs

end

/-- The endpoints of every address after a redirect is written. -/
theorem endpoints?_replace {targets : RedirectTargets}
    (h : ∀ t ∈ targets.leader :: targets.followers, t.Usable) (url url' : String)
    (stored : Option Json) :
    endpoints? url' (some (.array (replace url (record url targets) (records stored)))) =
      if url = url' then some targets.endpoints else endpoints? url' stored := by
  have hnew := belongsTo_record url targets
  rw [endpoints?_eq, endpoints?_eq, records_array]
  split
  · rename_i heq
    subst heq
    rw [find?_replace hnew, Option.bind_some, named?_record h]
  · rename_i hne
    rw [← List.head?_filter, filter_replace_of_ne hne hnew, List.head?_filter]

end Failover

namespace Directory

open Failover

section

variable {w : World} {stored : Option Json}

theorem store_ensureLoaded (d : Directory) (w : World) :
    (d.ensureLoaded w).2.store = w.store := by
  simp only [ensureLoaded, load]
  split
  · rfl
  · simp only [World.getState]
    cases w.store.get key <;> rfl

theorem url_ensureLoaded (d : Directory) (w : World) : (d.ensureLoaded w).1.url = d.url := by
  simp only [ensureLoaded, load]
  split
  · rfl
  · simp only [World.getState]
    cases w.store.get key <;> rfl

/-- A fresh directory loads what its record names. -/
theorem load_fresh (h : w.store.Serves key stored) (url hostName : String) (port : Nat) :
    ((fresh url hostName port).load w).1 = .ok () ∧
      ((fresh url hostName port).load w).2.1.endpoints = (endpoints? url stored).getD [] := by
  simp [load, fresh, World.getState, h.get]

/-- A redirect is remembered in the record of the directory's address. -/
theorem rememberRedirect_serves (h : w.store.Serves key stored) (d : Directory)
    (targets : RedirectTargets) :
    (d.rememberRedirect targets w).1 = .ok () ∧
      (d.rememberRedirect targets w).2.1.url = d.url ∧
      (d.rememberRedirect targets w).2.2.store.Serves key
        (some (.array (replace d.url (record d.url targets) (records stored)))) := by
  have hserves : (d.ensureLoaded w).2.store.Serves key stored := by rwa [store_ensureLoaded]
  obtain ⟨store', hset, hserves'⟩ :=
    hserves.set (.array (replace d.url (record d.url targets) (records stored)))
  simp only [rememberRedirect, persist, World.getState, hserves.get, World.setState, World.emit,
    url_ensureLoaded, show (stored.bind Json.array?).getD [] = records stored from rfl,
    Store.keep_of_set hset]
  exact ⟨trivial, trivial, hserves'⟩

end

/-! ## Several directories -/

section

variable {ι : Type} [DecidableEq ι] {stored : Option Json}

/-- Remembers a redirect in one of several directories that share a world. -/
def rememberAt (s : (ι → Directory) × World) (call : ι × RedirectTargets) :
    (ι → Directory) × World :=
  let (_, d, w) := (s.1 call.1).rememberRedirect call.2 s.2
  (Function.update s.1 call.1 d, w)

def rememberAll (s : (ι → Directory) × World) (calls : List (ι × RedirectTargets)) :
    (ι → Directory) × World :=
  calls.foldl rememberAt s

/-- The last redirect that was remembered for an address. -/
def lastFor? (urls : ι → String) (calls : List (ι × RedirectTargets)) (url : String) :
    Option RedirectTargets :=
  (calls.filter fun call => urls call.1 == url).getLast?.map Prod.snd

/-- Whether a redirect was remembered for the address that a record belongs to. -/
def isRemembered (urls : ι → String) (calls : List (ι × RedirectTargets)) (r : Json) : Bool :=
  calls.any fun call => belongsTo (urls call.1) r

omit [DecidableEq ι] in
theorem lastFor?_cons (urls : ι → String) (call : ι × RedirectTargets)
    (calls : List (ι × RedirectTargets)) (url : String) :
    lastFor? urls (call :: calls) url =
      (lastFor? urls calls url).or (if urls call.1 = url then some call.2 else none) := by
  simp only [lastFor?, List.filter_cons, beq_iff_eq]
  split
  · rw [List.getLast?_cons]
    cases (calls.filter fun call => urls call.1 == url).getLast? <;> rfl
  · rw [Option.or_none]

/-- The addresses of several directories. -/
def urls (ds : ι → Directory) (i : ι) : String := (ds i).url

theorem rememberAt_serves {s : (ι → Directory) × World} (h : s.2.store.Serves key stored)
    (call : ι × RedirectTargets) :
    urls (rememberAt s call).1 = urls s.1 ∧
      (rememberAt s call).2.store.Serves key (some (.array (replace (urls s.1 call.1)
        (record (urls s.1 call.1) call.2) (records stored)))) := by
  obtain ⟨-, hurl, hserves⟩ := rememberRedirect_serves h (s.1 call.1) call.2
  refine ⟨funext fun i => ?_, hserves⟩
  by_cases hi : i = call.1
  · subst hi
    simpa [rememberAt, urls] using hurl
  · simp [rememberAt, urls, hi]

/-- What a run of redirects leaves in the store: for every address its last redirect, and one record
more where there was none; what belongs to no address that a redirect was for is not touched. -/
theorem rememberAll_serves {s : (ι → Directory) × World} (h : s.2.store.Serves key stored)
    {calls : List (ι × RedirectTargets)}
    (hcalls : ∀ call ∈ calls, ∀ t ∈ call.2.leader :: call.2.followers, t.Usable) :
    ∃ stored', (rememberAll s calls).2.store.Serves key stored' ∧
      (∀ url, endpoints? url stored' =
        ((lastFor? (urls s.1) calls url).map RedirectTargets.endpoints).or
          (endpoints? url stored)) ∧
      (∀ p : Json → Bool, (∀ r, isRemembered (urls s.1) calls r = true → p r = false) →
        (records stored').filter p = (records stored).filter p) ∧
      ∀ url, (records stored').countP (belongsTo url) =
        if calls.any (fun call => urls s.1 call.1 == url) then
          max 1 ((records stored).countP (belongsTo url))
        else (records stored).countP (belongsTo url) := by
  induction calls generalizing s stored with
  | nil => exact ⟨stored, h, fun _ => rfl, fun _ _ => rfl, fun _ => rfl⟩
  | cons call calls ih =>
      obtain ⟨hurls, hserves⟩ := rememberAt_serves h call
      obtain ⟨stored', hafter, hendpoints, hothers, hcount⟩ :=
        ih hserves fun call hcall => hcalls call (List.mem_cons_of_mem _ hcall)
      rw [hurls] at hendpoints hothers hcount
      have husable := hcalls call List.mem_cons_self
      have hnew := belongsTo_record (urls s.1 call.1) call.2
      simp only [records_array] at hothers hcount
      refine ⟨stored', hafter, fun url => ?_, fun p hp => ?_, fun url => ?_⟩
      · rw [hendpoints, endpoints?_replace husable, lastFor?_cons]
        cases lastFor? (urls s.1) calls url with
        | some targets => rfl
        | none =>
            simp only [Option.map_none, Option.none_or]
            split <;> rfl
      · have hfirst (r : Json) (hr : belongsTo (urls s.1 call.1) r = true) : p r = false :=
          hp r (by rw [isRemembered, List.any_cons, hr, Bool.true_or])
        have hrest (r : Json) (hr : isRemembered (urls s.1) calls r = true) : p r = false :=
          hp r (by rw [isRemembered, List.any_cons, ← isRemembered, hr, Bool.or_true])
        rw [hothers p hrest, filter_replace hnew hfirst]
      · rw [hcount, List.any_cons]
        by_cases heq : urls s.1 call.1 = url
        · subst heq
          rw [countP_replace hnew, beq_self_eq_true, Bool.true_or, if_pos rfl]
          split <;> omega
        · rw [List.countP_eq_length_filter, filter_replace_of_ne heq hnew,
            ← List.countP_eq_length_filter, beq_false_of_ne heq, Bool.false_or]

/-- The failover records of several addresses are kept apart. After any run of redirects a fresh
directory loads the last one for its address, or what it would have loaded before if there was none;
the records of addresses that no redirect was for are still there, in their order; and an address
that one was for has as many records as before, or one if it had none. -/
theorem fresh_of_rememberAll (ds : ι → Directory) (w : World)
    (h : w.store.Serves key stored) (calls : List (ι × RedirectTargets))
    (hcalls : ∀ call ∈ calls, ∃ reply : Reply, reply.redirectTargets? = some call.2) :
    let w' := (rememberAll (ds, w) calls).2
    (∀ url hostName port,
      ((fresh url hostName port).load w').1 = .ok () ∧
      ((fresh url hostName port).load w').2.1.endpoints =
        ((lastFor? (urls ds) calls url).map RedirectTargets.endpoints).getD
          ((fresh url hostName port).load w).2.1.endpoints) ∧
    ∃ stored', w'.store.get key = .ok stored' ∧
      (records stored').filter (!isRemembered (urls ds) calls ·) =
        (records stored).filter (!isRemembered (urls ds) calls ·) ∧
      ∀ call ∈ calls, (records stored').countP (belongsTo (urls ds call.1)) =
        max 1 ((records stored).countP (belongsTo (urls ds call.1))) := by
  obtain ⟨stored', hafter, hendpoints, hothers, hcount⟩ :=
    rememberAll_serves (s := (ds, w)) h fun call hcall => by
      obtain ⟨reply, hreply⟩ := hcalls call hcall
      exact Reply.usable_of_redirectTargets? hreply
  refine ⟨fun url hostName port => ?_, stored', hafter.get, ?_, fun call hcall => ?_⟩
  · obtain ⟨hok, hload⟩ := load_fresh hafter url hostName port
    refine ⟨hok, ?_⟩
    rw [hload, (load_fresh h url hostName port).2, hendpoints]
    cases lastFor? (urls ds) calls url <;> rfl
  · exact hothers _ fun r hr => by rw [hr, Bool.not_true]
  · rw [hcount, if_pos]
    exact List.any_eq_true.2 ⟨call, hcall, beq_self_eq_true _⟩

/-- Two addresses share a store in which a record of the first and an entry of no use are found. -/
theorem fresh_of_two_redirects :
    let targets : RedirectTargets := ⟨⟨"x", none, 9501⟩, [⟨"y", none, 9502⟩]⟩
    let reply : Reply := ⟨[("followers", .array [.object [("hostname", .string "y"),
        ("port", .ofNat 9502)], .null]),
      ("leader", .object [("hostname", .string "x"), ("port", .ofNat 9501)])]⟩
    let stored : Json := .array [.null, .object [("url", .string "a")]]
    let w : World := ⟨[], [], false, .memory [(key, stored)] none none, []⟩
    let ds (first : Bool) : Directory := .fresh (if first then "a" else "b") "h" 1
    let w' := (rememberAll (ds, w) [(true, targets), (false, targets)]).2
    w.store.Serves key (some stored) ∧ reply.redirectTargets? = some targets ∧
      ((fresh "b" "h" 1).load w').2.1.endpoints = [.fresh "x" 9501, .fresh "y" 9502] ∧
      ((fresh "c" "h" 1).load w').2.1.endpoints = [] ∧
      ∃ stored', w'.store.get key = .ok stored' ∧
        (records stored').countP (belongsTo "a") = 1 ∧
        (records stored').countP (belongsTo "b") = 1 := by
  intro targets reply stored w ds w'
  have hserves : w.store.Serves key (some stored) := Store.serves_memory [(key, stored)] key
  have hreply : reply.redirectTargets? = some targets := rfl
  have hcalls : ∀ call ∈ [(true, targets), (false, targets)],
      ∃ reply : Reply, reply.redirectTargets? = some call.2 := by
    simp only [List.mem_cons, List.not_mem_nil, or_false]
    rintro call (rfl | rfl) <;> exact ⟨reply, hreply⟩
  obtain ⟨hload, stored', hget, -, hcount⟩ := fresh_of_rememberAll ds w hserves _ hcalls
  refine ⟨hserves, hreply, (hload "b" "h" 1).2, (hload "c" "h" 1).2, stored', hget, ?_, ?_⟩
  · exact hcount (true, targets) List.mem_cons_self
  · exact hcount (false, targets) (List.mem_cons_of_mem _ List.mem_cons_self)

end

end Directory

end ClusterRpc
