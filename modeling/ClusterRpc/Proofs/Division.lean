import ClusterRpc.Proofs.Documents

/-!
# The records of a buffer and what remains of it

Taking records until none is complete divides the octets of a buffer without loss or overlap. Each
record stands between the separator that introduces it, if there is one, and its terminator, which
is the first one; what remains is unfinished. There is one such division only, and every operation
on a buffer goes by it.
-/

namespace ClusterRpc

/-- Octets in which no record ends. -/
structure Unbroken (s : Bytes) : Prop where
  separator : recordSeparator ∉ s
  lines : ¬ blankLine <:+: s

/-! ## The first terminator -/

namespace Boundary

section

variable {s text terminator rest : Bytes}

theorem cut_eq_none_iff : cut s = none ↔ Unbroken s := by
  constructor
  · intro h
    have hends : ¬ (recordSeparator ∈ s ∨ blankLine <:+: s) := by
      intro hends
      obtain ⟨text, rest, hcut⟩ := cut_of_ends hends
      rw [h] at hcut
      cases hcut
    exact ⟨fun hmem => hends (.inl hmem), fun hlines => hends (.inr hlines)⟩
  · intro h
    exact cut_eq_none h.separator h.lines

/-- Nothing ends in front of what comes before the first terminator is passed. -/
theorem unbroken_of_cut_append {x : Bytes} (h : cut (s ++ x) = some (text, rest))
    (hlt : rest.length < x.length) : Unbroken s := by
  rw [← cut_eq_none_iff]
  cases hcut : cut s with
  | none => rfl
  | some found =>
      have hfound := cut_append hcut x
      rw [h] at hfound
      cases hfound
      rw [List.length_append] at hlt
      omega

/-- What comes before the first terminator is unbroken, and if that is a blank line no other one
begins earlier. -/
theorem unbroken_of_cut (h : cut s = some (text, rest)) : ∃ terminator,
    s = text ++ (terminator ++ rest) ∧ IsTerminator terminator ∧ Unbroken text ∧
      (terminator = blankLine → ¬ blankLine <:+: text ++ [0x0A]) := by
  obtain ⟨terminator, rfl, hterminator, -⟩ := cut_spec h
  refine ⟨terminator, rfl, hterminator, unbroken_of_cut_append h ?_, ?_⟩
  · rcases hterminator with rfl | rfl <;>
      simp only [List.length_append, List.length_cons, List.length_nil] <;> omega
  · rintro rfl
    have hsplit : text ++ (blankLine ++ rest) = (text ++ [0x0A]) ++ (0x0A :: rest) := by
      simp [blankLine]
    rw [hsplit] at h
    exact (unbroken_of_cut_append h (Nat.lt_succ_self _)).lines

/-- A blank line is found where no terminator comes before its second line feed. -/
theorem cut_of_blankLine (h : cut (text ++ [0x0A]) = none) (rest : Bytes) :
    cut (text ++ (blankLine ++ rest)) = some (text, rest) := by
  induction text with
  | nil => rfl
  | cons b text ih =>
      rw [List.cons_append, cut] at h ⊢
      split at h
      · cases h
      · rename_i hb
        split at h
        · cases h
        · rename_i hlines
          have hhead : (text ++ (blankLine ++ rest)).head? = (text ++ [0x0A]).head? := by
            cases text <;> rfl
          rw [if_neg hb, hhead, if_neg hlines, ih (Option.map_eq_none_iff.1 h)]
          rfl

theorem cut_of_unbroken (htext : Unbroken text) (hterminator : IsTerminator terminator)
    (hfirst : terminator = blankLine → ¬ blankLine <:+: text ++ [0x0A]) (rest : Bytes) :
    cut (text ++ (terminator ++ rest)) = some (text, rest) := by
  rcases hterminator with rfl | rfl
  · rw [cut_append_of_none (cut_eq_none_iff.2 htext) (by simp [recordSeparator])]
    simp [cut]
  · refine cut_of_blankLine (cut_eq_none_iff.2 ⟨?_, hfirst rfl⟩) rest
    simpa [recordSeparator] using htext.separator

end

end Boundary

namespace ReceiveBuffer

/-! ## Pieces -/

/-- A record with what stands around it in a buffer. -/
structure Piece where
  /-- The separator that introduces the record, or nothing. -/
  lead : Bytes
  record : Bytes
  terminator : Bytes
  /-- If the octets begin with a separator, then that introduces the record. -/
  introduced : lead =
    if (lead ++ (record ++ terminator)).head? = some recordSeparator then [recordSeparator] else []
  unbroken : Unbroken record
  ended : IsTerminator terminator
  /-- A blank line that ends the record is the first one. -/
  first : terminator = blankLine → ¬ blankLine <:+: record ++ [0x0A]

namespace Piece

/-- All the octets of a piece. -/
def octets (p : Piece) : Bytes := p.lead ++ (p.record ++ p.terminator)

theorem octets_ne_nil (p : Piece) : p.octets ≠ [] := by
  rcases p.ended with h | h <;> simp [octets, h]

theorem unmarked_octets (p : Piece) : unmarked p.octets = p.record ++ p.terminator := by
  have h := p.introduced
  rw [octets, unmarked, mark]
  split at h <;> rename_i hhead
  · rw [if_pos hhead, h]
    rfl
  · rw [if_neg hhead, h]
    rfl

/-- The octets of a piece are what is consumed with its record, whatever comes after them. -/
theorem takeRecord?_octets (p : Piece) (rest : Bytes) :
    takeRecord? ⟨p.octets ++ rest⟩ = some (p.record, ⟨rest⟩) := by
  rw [takeRecord?_eq_cut, unmarked_append (.inl p.octets_ne_nil), unmarked_octets,
    List.append_assoc, Boundary.cut_of_unbroken p.unbroken p.ended p.first]
  rfl

end Piece

/-- A buffer made of pieces, with something after them. -/
def ofPieces (pieces : List Piece) (rest : Bytes) : ReceiveBuffer :=
  ⟨pieces.flatMap Piece.octets ++ rest⟩

theorem ofPieces_cons (p : Piece) (pieces : List Piece) (rest : Bytes) :
    ofPieces (p :: pieces) rest = ⟨p.octets ++ (ofPieces pieces rest).bytes⟩ := by
  simp [ofPieces]

section

variable {b b' rest : ReceiveBuffer} {record : Bytes} {records : List Bytes}

/-- A record that is taken is taken with its piece. -/
theorem exists_piece (h : b.takeRecord? = some (record, b')) :
    ∃ p : Piece, p.record = record ∧ b.bytes = p.octets ++ b'.bytes := by
  obtain ⟨terminator, hbytes, hterminator, hrecord, hfirst⟩ :=
    Boundary.unbroken_of_cut (cut_of_takeRecord? h)
  let lead := b.bytes.take (mark b.bytes)
  have hsplit : lead ++ (record ++ terminator) ++ b'.bytes = b.bytes := by
    rw [List.append_assoc, List.append_assoc, ← hbytes]
    exact List.take_append_drop ..
  -- What introduces the record is told by the first octet, which belongs to the piece.
  have hhead : (lead ++ (record ++ terminator)).head? = b.bytes.head? := by
    have hne : lead ++ (record ++ terminator) ≠ [] := by
      rcases hterminator with h | h <;> simp [h]
    rw [← hsplit, List.head?_append_of_ne_nil _ hne]
  refine ⟨⟨lead, record, terminator, ?_, hrecord, hterminator, hfirst⟩, rfl, hsplit.symm⟩
  rw [hhead]
  change b.bytes.take (mark b.bytes) = _
  rw [mark]
  split
  · rename_i hmark
    obtain ⟨s, hs⟩ := List.head?_eq_some_iff.1 hmark
    rw [hs]
    rfl
  · rfl

theorem takeRecord?_eq_none_iff : b.takeRecord? = none ↔ Unbroken (unmarked b.bytes) := by
  rw [show b.takeRecord? = takeRecord? ⟨b.bytes⟩ from rfl, takeRecord?_eq_cut,
    Option.map_eq_none_iff, Boundary.cut_eq_none_iff]

theorem takeAll_ofPieces (pieces : List Piece) {rest : Bytes} (h : Unbroken (unmarked rest)) :
    (ofPieces pieces rest).takeAll = (pieces.map Piece.record, ⟨rest⟩) := by
  induction pieces with
  | nil => exact takeAll_of_none (takeRecord?_eq_none_iff.2 h)
  | cons p pieces ih =>
      rw [ofPieces_cons, takeAll_of_some (p.takeRecord?_octets _)]
      change (p.record :: (ofPieces pieces rest).takeAll.1, (ofPieces pieces rest).takeAll.2) = _
      rw [ih]
      rfl

theorem exists_pieces (b : ReceiveBuffer) : ∃ pieces : List Piece,
    b = ofPieces pieces b.takeAll.2.bytes ∧ Unbroken (unmarked b.takeAll.2.bytes) := by
  fun_induction takeAll b with
  | case1 b h => exact ⟨[], rfl, takeRecord?_eq_none_iff.1 h⟩
  | case2 b record rest h _ others ih =>
      obtain ⟨pieces, hpieces, hrest⟩ := ih
      obtain ⟨p, -, hbytes⟩ := exists_piece h
      refine ⟨p :: pieces, ?_, hrest⟩
      rw [ofPieces_cons, ← hpieces, ← hbytes]

/-- Octets divide in one way only into pieces and an unfinished rest. -/
theorem takeAll_eq_iff : b.takeAll = (records, rest) ↔ ∃ pieces : List Piece,
    records = pieces.map Piece.record ∧ b = ofPieces pieces rest.bytes ∧
      Unbroken (unmarked rest.bytes) := by
  constructor
  · intro h
    obtain ⟨pieces, hpieces, hrest⟩ := b.exists_pieces
    have hall := takeAll_ofPieces pieces hrest
    rw [← hpieces, h] at hall
    rw [h] at hpieces hrest
    exact ⟨pieces, congrArg Prod.fst hall, hpieces, hrest⟩
  · rintro ⟨pieces, rfl, rfl, hrest⟩
    exact takeAll_ofPieces pieces hrest

end

/-! ## What the operations find -/

/-- Every operation on a buffer goes by the same first record and the same rest, if there is a
complete record at all. -/
structure Finds (b : ReceiveBuffer) (first : Option (Bytes × ReceiveBuffer)) : Prop where
  take : b.takeRecord? = first
  has : b.hasRecord = first.isSome
  record : b.record? = first.map Prod.fst
  /-- Without a complete record nothing is consumed. -/
  consume : b.consumeRecord = (first.map Prod.snd).getD b

theorem finds_takeRecord? (b : ReceiveBuffer) : b.Finds b.takeRecord? := by
  constructor
  · rfl
  all_goals
    simp only [takeRecord?, record?, hasRecord, consumeRecord]
    cases Boundary.find? b.bytes <;> rfl

/-- What is left of the pieces of a buffer after the first `k` of them. -/
theorem takeRecord?_drop (pieces : List Piece) {rest : Bytes} (h : Unbroken (unmarked rest))
    (k : Nat) : (ofPieces (pieces.drop k) rest).takeRecord? =
      pieces[k]?.map fun p => (p.record, ofPieces (pieces.drop (k + 1)) rest) := by
  rw [← List.head?_drop, ← List.tail_drop]
  cases pieces.drop k with
  | nil => exact takeRecord?_eq_none_iff.2 h
  | cons p others => rw [ofPieces_cons, p.takeRecord?_octets]; rfl

/-- Taking every record divides a buffer into pieces, one for each record, and a rest in which no
record is complete. After any number of them all operations agree on what comes next. -/
theorem takeAll_divides (b : ReceiveBuffer) : ∃ pieces : List Piece,
    b.takeAll.1 = pieces.map Piece.record ∧
      b.bytes = pieces.flatMap Piece.octets ++ b.takeAll.2.bytes ∧
      Unbroken (unmarked b.takeAll.2.bytes) ∧
      ∀ k, (ofPieces (pieces.drop k) b.takeAll.2.bytes).Finds
        (pieces[k]?.map fun p =>
          (p.record, ofPieces (pieces.drop (k + 1)) b.takeAll.2.bytes)) := by
  obtain ⟨pieces, hrecords, hpieces, hrest⟩ :=
    takeAll_eq_iff.1 (show b.takeAll = (b.takeAll.1, b.takeAll.2) from rfl)
  refine ⟨pieces, hrecords, congrArg bytes hpieces, hrest, ?_⟩
  intro k
  rw [← takeRecord?_drop pieces hrest k]
  exact finds_takeRecord? _

end ReceiveBuffer

end ClusterRpc
