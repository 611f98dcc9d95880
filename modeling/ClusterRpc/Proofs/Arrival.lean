import ClusterRpc.Proofs.Extension

/-!
# A stream does not depend on how its octets arrive

A subscriber feeds a stream chunk by chunk and takes the records that are complete after each of
them. What it gets, and what it is left with, is what it would have got from all octets at once.
-/

namespace ClusterRpc.RecordStream

/-! ## Asking until there is nothing left -/

/-- Asking `stream` for records until there is none gives `records`, the malformed ones among them,
and ends with the last stream and session. -/
inductive Drains : RecordStream → Session → List (Except RpcError Record) →
    RecordStream → Session → Prop
  /-- There is no complete record. -/
  | done {stream stream' : RecordStream} {session session' : Session} :
      stream.next session = (none, stream', session') →
        Drains stream session [] stream' session'
  /-- There is one, whole or malformed, and the asking goes on. -/
  | more {stream stream' stream'' : RecordStream} {session session' session'' : Session}
      {record : Except RpcError Record} {records : List (Except RpcError Record)} :
      stream.next session = (some record, stream', session') →
        Drains stream' session' records stream'' session'' →
          Drains stream session (record :: records) stream'' session''

/-- Feeding `chunks` one after the other, and draining the stream after each, gives `records` in
all. -/
inductive Receives : List Bytes → RecordStream → Session → List (Except RpcError Record) →
    RecordStream → Session → Prop
  | nil (stream : RecordStream) (session : Session) :
      Receives [] stream session [] stream session
  | cons {chunk : Bytes} {chunks : List Bytes} {stream stream' stream'' : RecordStream}
      {session session' session'' : Session} {records others : List (Except RpcError Record)} :
      Drains (stream.feed chunk) session records stream' session' →
        Receives chunks stream' session' others stream'' session'' →
          Receives (chunk :: chunks) stream session (records ++ others) stream'' session''

@[simp] theorem feed_nil (stream : RecordStream) : stream.feed [] = stream := by
  simp [feed, ReceiveBuffer.append]

@[simp] theorem feed_feed (stream : RecordStream) (s t : Bytes) :
    (stream.feed s).feed t = stream.feed (s ++ t) := by
  simp [feed, ReceiveBuffer.append, List.append_assoc]

/-- Past its header block, a stream is its buffer. -/
theorem next_of_not_pending {stream : RecordStream} (h : stream.headPending = false)
    (session : Session) :
    stream.next session =
      ((nextRecord stream.buffer).1, { stream with buffer := (nextRecord stream.buffer).2 },
        session) := by
  simp [next, passHead, h]

/-- Draining a buffer is taking its next record and draining what that leaves. -/
theorem drainBuffer_eq (buffer : ReceiveBuffer) :
    drainBuffer buffer =
      match nextRecord buffer with
      | (none, rest) => ([], rest)
      | (some record, rest) => (record :: (drainBuffer rest).1, (drainBuffer rest).2) := by
  rcases h : nextRecord buffer with ⟨_ | record, rest⟩
  · rw [drainBuffer]
    split
    · rw [h]
    · rename_i record' h'
      simp [h] at h'
  · rw [drainBuffer]
    split
    · rename_i h'
      simp [h] at h'
    · rename_i record' h'
      obtain rfl : record = record' := by simpa [h] using h'
      simp [h]

theorem drains_drainBuffer (stream : RecordStream) (session : Session)
    (h : stream.headPending = false) :
    Drains stream session (drainBuffer stream.buffer).1
      { stream with buffer := (drainBuffer stream.buffer).2 } session := by
  generalize hb : stream.buffer = buffer
  fun_induction drainBuffer buffer generalizing stream with
  | case1 buffer hnone =>
      subst hb
      exact .done (by rw [next_of_not_pending h, hnone])
  | case2 buffer record hsome _ others ih =>
      subst hb
      exact .more (by rw [next_of_not_pending h, hsome])
        (ih { stream with buffer := (nextRecord stream.buffer).2 } h rfl)

/-- Getting past the header block first changes nothing for the one who asks. -/
theorem Drains.of_passHead {stream passed stream'' : RecordStream}
    {session session' session'' : Session} {records : List (Except RpcError Record)}
    (hp : stream.passHead session = (passed, session')) (hpending : passed.headPending = false)
    (h : Drains passed session' records stream'' session'') :
    Drains stream session records stream'' session'' := by
  have hnext : stream.next session = passed.next session' := by
    rw [next_of_not_pending hpending]
    simp [next, hp, hpending]
  cases h with
  | done h => exact .done (hnext.trans h)
  | more h rest => exact .more (hnext.trans h) rest

/-- What `drain` computes is what asking gives. -/
theorem drains_drain (stream : RecordStream) (session : Session) :
    Drains stream session (stream.drain session).1 (stream.drain session).2.1
      (stream.drain session).2.2 := by
  rcases hp : stream.passHead session with ⟨passed, session'⟩
  cases hpending : passed.headPending with
  | true =>
      simp only [drain, hp, hpending, if_true]
      exact .done (by simp [next, hp, hpending])
  | false =>
      simp only [drain, hp, hpending, Bool.false_eq_true, if_false]
      have hd := drains_drainBuffer passed session' hpending
      rw [hpending] at hd
      exact hd.of_passHead hp hpending

theorem Drains.unique {stream stream₁ stream₂ : RecordStream} {session session₁ session₂ : Session}
    {records₁ records₂ : List (Except RpcError Record)}
    (h₁ : Drains stream session records₁ stream₁ session₁)
    (h₂ : Drains stream session records₂ stream₂ session₂) :
    records₁ = records₂ ∧ stream₁ = stream₂ ∧ session₁ = session₂ := by
  induction h₁ generalizing records₂ with
  | done hn =>
      cases h₂ with
      | done hn' =>
          rw [hn] at hn'
          cases hn'
          exact ⟨rfl, rfl, rfl⟩
      | more hn' =>
          rw [hn] at hn'
          cases hn'
  | more hn _ ih =>
      cases h₂ with
      | done hn' =>
          rw [hn] at hn'
          cases hn'
      | more hn' rest =>
          rw [hn] at hn'
          cases hn'
          obtain ⟨rfl, rfl, rfl⟩ := ih rest
          exact ⟨rfl, rfl, rfl⟩

theorem drains_iff {stream stream' : RecordStream} {session session' : Session}
    {records : List (Except RpcError Record)} :
    Drains stream session records stream' session' ↔
      stream.drain session = (records, stream', session') := by
  constructor
  · intro h
    obtain ⟨hr, hs, he⟩ := (drains_drain stream session).unique h
    rw [← hr, ← hs, ← he]
  · intro h
    have := drains_drain stream session
    rwa [h] at this

/-! ## Draining in two goes -/

theorem nextRecord_of_some {buffer rest : ReceiveBuffer} {text : Bytes}
    (h : buffer.takeRecord? = some (text, rest)) :
    nextRecord buffer =
      if text.all isAsciiSpace then nextRecord rest
      else (some ((Reply.decode text).map Record.classify), rest) := by
  rw [nextRecord]
  split <;> simp_all

/-- The next record of a buffer is the next one also when more octets follow. If there was none,
only records of white space are gone. -/
theorem nextRecord_append (buffer : ReceiveBuffer) (s : Bytes) :
    nextRecord (buffer.append s) =
      match nextRecord buffer with
      | (some record, rest) => (some record, rest.append s)
      | (none, rest) => nextRecord (rest.append s) := by
  fun_induction nextRecord buffer with
  | case1 buffer => rfl
  | case2 buffer text rest h _ hspace ih =>
      rw [nextRecord_of_some (ReceiveBuffer.takeRecord?_append h s), if_pos hspace]
      exact ih
  | case3 buffer text rest h _ hspace =>
      rw [nextRecord_of_some (ReceiveBuffer.takeRecord?_append h s), if_neg hspace]

theorem drainBuffer_append (buffer : ReceiveBuffer) (s : Bytes) :
    drainBuffer (buffer.append s) =
      ((drainBuffer buffer).1 ++ (drainBuffer ((drainBuffer buffer).2.append s)).1,
        (drainBuffer ((drainBuffer buffer).2.append s)).2) := by
  have happend := nextRecord_append buffer s
  fun_induction drainBuffer buffer with
  | case1 buffer hnone =>
      rcases hr : nextRecord buffer with ⟨next, rest⟩
      obtain rfl : next = none := by simpa [hr] using hnone
      rw [hr] at happend
      rw [List.nil_append, drainBuffer_eq, happend]
      exact (drainBuffer_eq (rest.append s)).symm
  | case2 buffer record hsome _ others ih =>
      rcases hr : nextRecord buffer with ⟨next, rest⟩
      obtain rfl : next = some record := by simpa [hr] using hsome
      rw [hr] at happend
      simp only [hr] at ih
      rw [drainBuffer_eq, happend]
      simp only [others, hr, ih (nextRecord_append rest s), List.cons_append]

theorem drain_of_not_pending {buffer : ReceiveBuffer} (session : Session) :
    drain ⟨buffer, false⟩ session =
      ((drainBuffer buffer).1, ⟨(drainBuffer buffer).2, false⟩, session) := rfl

/-- What draining a stream before its header block comes to, by how its octets begin. -/
theorem drain_of_pending (buffer : ReceiveBuffer) (session : Session) :
    drain ⟨buffer, true⟩ session =
      match Opening.of buffer.bytes with
      | .undecided => ([], ⟨buffer, true⟩, session)
      | .headless => drain ⟨buffer, false⟩ session
      | .headed head body => drain ⟨⟨body⟩, false⟩ (session.readHeaders head) := by
  cases h : Opening.of buffer.bytes <;> simp [drain, passHead, h]

/-- Draining after some octets, and again after the others, is draining after all of them. -/
theorem drain_feed_append (stream : RecordStream) (session : Session) (s t : Bytes) :
    (stream.feed (s ++ t)).drain session =
      (((stream.feed s).drain session).1 ++
          ((((stream.feed s).drain session).2.1.feed t).drain
            ((stream.feed s).drain session).2.2).1,
        ((((stream.feed s).drain session).2.1.feed t).drain
          ((stream.feed s).drain session).2.2).2) := by
  rw [← feed_feed]
  generalize stream.feed s = fed
  obtain ⟨buffer, pending⟩ := fed
  have hpast (buffer : ReceiveBuffer) (session : Session) :
      drain ⟨buffer.append t, false⟩ session =
        ((drain ⟨buffer, false⟩ session).1 ++
            (((drain ⟨buffer, false⟩ session).2.1.feed t).drain
              (drain ⟨buffer, false⟩ session).2.2).1,
          (((drain ⟨buffer, false⟩ session).2.1.feed t).drain
            (drain ⟨buffer, false⟩ session).2.2).2) := by
    simp only [drain_of_not_pending, feed, drainBuffer_append buffer t]
  cases pending with
  | false => exact hpast buffer session
  | true =>
      simp only [feed, drain_of_pending]
      cases h : Opening.of buffer.bytes with
      | undecided => simp [drain_of_pending]
      | headless =>
          have h' : Opening.of (buffer.append t).bytes = .headless :=
            Opening.of_append_of_headless h t
          simp only [h']
          exact hpast buffer session
      | headed head body =>
          have h' : Opening.of (buffer.append t).bytes = .headed head (body ++ t) :=
            Opening.of_append_of_headed h t
          simp only [h']
          exact hpast ⟨body⟩ (session.readHeaders head)

/-- A stream that was drained has nothing left to give. -/
theorem drain_drain (stream : RecordStream) (session : Session) :
    (stream.drain session).2.1.drain (stream.drain session).2.2 =
      ([], (stream.drain session).2) := by
  have h := drain_feed_append stream session [] []
  simp only [List.append_nil, feed_nil] at h
  have h₁ := congrArg Prod.fst h
  have h₂ := congrArg Prod.snd h
  exact Prod.ext (List.append_right_eq_self.mp h₁.symm) h₂.symm

/-! ## Draining after each chunk -/

/-- Chunks that are fed to a drained stream, each followed by a drain, give what they give when they
are fed together. -/
theorem receives_iff_of_drained {chunks : List Bytes} {stream stream' : RecordStream}
    {session session' : Session} {records : List (Except RpcError Record)}
    (hd : stream.drain session = ([], stream, session)) :
    Receives chunks stream session records stream' session' ↔
      Drains (stream.feed chunks.flatten) session records stream' session' := by
  induction chunks generalizing stream session records with
  | nil =>
      rw [List.flatten_nil, feed_nil, drains_iff, hd]
      constructor
      · rintro ⟨⟩
        rfl
      · rintro ⟨⟩
        exact .nil _ _
  | cons chunk chunks ih =>
      have hdrained := drain_drain (stream.feed chunk) session
      rw [List.flatten_cons, drains_iff, drain_feed_append]
      constructor
      · rintro (_ | ⟨hfirst, hrest⟩)
        rw [drains_iff] at hfirst
        rw [hfirst] at hdrained ⊢
        rw [ih hdrained, drains_iff] at hrest
        rw [hrest]
      · intro h
        simp only [Prod.mk.injEq] at h
        obtain ⟨rfl, hrest⟩ := h
        refine .cons (drains_drain _ _) ((ih hdrained).2 ?_)
        rw [drains_iff, ← hrest]

theorem drain_fresh (session : Session) : fresh.drain session = ([], fresh, session) := rfl

/-- Feeding a fresh stream chunk by chunk, and asking for its records after each chunk, always comes
to an end; and it gives the same records and malformed ones, the same session, the same octets left
over and the same state of the header block as feeding all octets at once. -/
theorem receives_iff_drains_flatten (chunks : List Bytes) (session : Session) :
    (∃ records stream' session', Receives chunks fresh session records stream' session') ∧
      ∀ records stream' session', Receives chunks fresh session records stream' session' ↔
        Drains (fresh.feed chunks.flatten) session records stream' session' := by
  have h (records : List (Except RpcError Record)) (stream' : RecordStream) (session' : Session) :
      Receives chunks fresh session records stream' session' ↔
        Drains (fresh.feed chunks.flatten) session records stream' session' :=
    receives_iff_of_drained (drain_fresh session)
  exact ⟨⟨_, _, _, (h _ _ _).2 (drains_drain _ _)⟩, h⟩

end ClusterRpc.RecordStream
