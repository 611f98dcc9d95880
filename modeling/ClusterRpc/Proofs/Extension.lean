import ClusterRpc.Wire.RecordStream
import Mathlib.Data.List.Basic

/-!
# Decisions that more octets do not undo

Where the first record ends, where the header block ends, and whether there is a header block at
all are decided on the octets at hand. Once such a decision is taken, octets that arrive later leave
it as it is.
-/

namespace ClusterRpc

/-! ## Where a record ends -/

/-- What ends a record. -/
def IsTerminator (s : Bytes) : Prop := s = [recordSeparator] ∨ s = [0x0A, 0x0A]

namespace Boundary

/-- What comes before the first terminator, and what comes after it. -/
def cut : Bytes → Option (Bytes × Bytes)
  | [] => none
  | b :: rest =>
      if b = recordSeparator then some ([], rest)
      else if b = 0x0A ∧ rest.head? = some 0x0A then some ([], rest.tail)
      else (cut rest).map fun found => (b :: found.1, found.2)

section

variable {s text rest : Bytes}

theorem cut_spec (h : cut s = some (text, rest)) : ∃ terminator,
    s = text ++ (terminator ++ rest) ∧ IsTerminator terminator ∧ recordSeparator ∉ text := by
  induction s generalizing text with
  | nil => cases h
  | cons b s ih =>
      rw [cut] at h
      split at h
      · rename_i hb
        cases h
        exact ⟨[b], rfl, .inl (by rw [hb]), List.not_mem_nil⟩
      · rename_i hb
        split at h
        · rename_i hblank
          obtain ⟨rfl, hs⟩ := hblank
          obtain ⟨s, rfl⟩ := List.head?_eq_some_iff.1 hs
          cases h
          exact ⟨[0x0A, 0x0A], rfl, .inr rfl, List.not_mem_nil⟩
        · obtain ⟨⟨text, rest⟩, hcut, heq⟩ := Option.map_eq_some_iff.1 h
          cases heq
          obtain ⟨terminator, rfl, hterminator, hsep⟩ := ih hcut
          refine ⟨terminator, rfl, hterminator, fun hmem => ?_⟩
          rcases List.mem_cons.1 hmem with heq | hmem
          · exact hb heq.symm
          · exact hsep hmem

theorem prefix_of_cut (h : cut s = some (text, rest)) : text <+: s := by
  obtain ⟨terminator, rfl, -⟩ := cut_spec h
  exact List.prefix_append text _

theorem suffix_of_cut (h : cut s = some (text, rest)) : rest <:+ s := by
  obtain ⟨terminator, rfl, -⟩ := cut_spec h
  exact ⟨text ++ terminator, List.append_assoc ..⟩

theorem length_lt_of_cut (h : cut s = some (text, rest)) : rest.length < s.length := by
  obtain ⟨terminator, rfl, hterminator, -⟩ := cut_spec h
  rcases hterminator with rfl | rfl <;>
    simp only [List.length_append, List.length_cons, List.length_nil] <;> omega

theorem scan_eq_cut (offset : Nat) (s : Bytes) : scan offset s =
    (cut s).map fun found => (offset + found.1.length, offset + (s.length - found.2.length)) := by
  induction s generalizing offset with
  | nil => rfl
  | cons b s ih =>
      rw [scan, cut]
      split
      · simp
      · split
        · rename_i hblank
          cases s with
          | nil => cases hblank.2
          | cons c s =>
              simp only [Option.map_some, List.length_nil, List.tail_cons, List.length_cons,
                Option.some.injEq, Prod.mk.injEq]
              omega
        · rw [ih]
          cases hcut : cut s with
          | none => rfl
          | some found =>
              have hlen := length_lt_of_cut hcut
              simp only [Option.map_some, List.length_cons, Option.some.injEq, Prod.mk.injEq]
              omega

/-- The first terminator of a buffer is still the first one when more octets follow. -/
theorem cut_append (h : cut s = some (text, rest)) (x : Bytes) :
    cut (s ++ x) = some (text, rest ++ x) := by
  induction s generalizing text with
  | nil => cases h
  | cons b s ih =>
      rw [List.cons_append, cut]
      rw [cut] at h
      by_cases hb : b = recordSeparator
      · rw [if_pos hb] at h ⊢
        cases h
        rfl
      · rw [if_neg hb] at h ⊢
        cases s with
        -- A lone line feed at the very end is no terminator yet, and no later one is known.
        | nil => simp [cut] at h
        | cons c s =>
            rw [List.cons_append, List.head?_cons]
            rw [List.head?_cons] at h
            by_cases hblank : b = 0x0A ∧ some c = some 0x0A
            · rw [if_pos hblank] at h ⊢
              cases h
              rfl
            · rw [if_neg hblank] at h ⊢
              obtain ⟨⟨text, rest'⟩, hcut, heq⟩ := Option.map_eq_some_iff.1 h
              cases heq
              rw [← List.cons_append, ih hcut]
              rfl

end

end Boundary

/-- How many octets introduce the first record. -/
def mark (s : Bytes) : Nat := if s.head? = some recordSeparator then 1 else 0

/-- The octets from the first record on. -/
def unmarked (s : Bytes) : Bytes := s.drop (mark s)

theorem unmarked_append {s x : Bytes} (h : s ≠ [] ∨ x.head? ≠ some recordSeparator) :
    unmarked (s ++ x) = unmarked s ++ x := by
  cases s with
  | nil =>
      have hx := h.resolve_left fun hne => hne rfl
      simp [unmarked, mark, hx]
  | cons b s => by_cases hb : b = recordSeparator <;> simp [unmarked, mark, hb]

theorem unmarked_suffix (s : Bytes) : unmarked s <:+ s := List.drop_suffix _ s

theorem Boundary.find?_eq_cut (s : Bytes) : find? s = (cut (unmarked s)).map fun found =>
    ⟨mark s, mark s + found.1.length,
      mark s + ((unmarked s).length - found.2.length)⟩ := by
  rw [find?, scan_eq_cut, Option.map_map]
  rfl

namespace ReceiveBuffer

/-- The record that is taken is what stands before the first terminator. -/
theorem takeRecord?_eq_cut (s : Bytes) :
    takeRecord? ⟨s⟩ = (Boundary.cut (unmarked s)).map fun found => (found.1, ⟨found.2⟩) := by
  simp only [takeRecord?, record?, consumeRecord, Boundary.find?_eq_cut]
  cases hcut : Boundary.cut (unmarked s) with
  | none => rfl
  | some found =>
      obtain ⟨text, rest⟩ := found
      have hrecord : (s.drop (mark s)).take (mark s + text.length - mark s) = text := by
        rw [Nat.add_sub_cancel_left]
        exact (List.prefix_iff_eq_take.1 (Boundary.prefix_of_cut hcut)).symm
      have hothers : s.drop (mark s + ((unmarked s).length - rest.length)) = rest := by
        rw [← List.drop_drop]
        exact (List.suffix_iff_eq_drop.1 (Boundary.suffix_of_cut hcut)).symm
      simp only [Option.map_some, discardFront, hrecord, hothers]

theorem cut_of_takeRecord? {b rest : ReceiveBuffer} {record : Bytes}
    (h : b.takeRecord? = some (record, rest)) :
    Boundary.cut (unmarked b.bytes) = some (record, rest.bytes) := by
  rw [takeRecord?_eq_cut, Option.map_eq_some_iff] at h
  obtain ⟨found, hcut, heq⟩ := h
  cases heq
  exact hcut

/-- A record that can be taken from a buffer can be taken as well when more octets follow it. -/
theorem takeRecord?_append {b rest : ReceiveBuffer} {record : Bytes}
    (h : b.takeRecord? = some (record, rest)) (s : Bytes) :
    (b.append s).takeRecord? = some (record, rest.append s) := by
  have hcut := cut_of_takeRecord? h
  have hne : b.bytes ≠ [] := by
    intro hnil
    rw [hnil] at hcut
    cases hcut
  rw [append, takeRecord?_eq_cut, unmarked_append (.inl hne), Boundary.cut_append hcut]
  rfl

end ReceiveBuffer

/-! ## Where a header block ends -/

/-- A blank line, which ends a header block. -/
def EndsHead (s : Bytes) : Prop := s = [0x0A, 0x0A] ∨ s = [0x0D, 0x0A, 0x0D, 0x0A]

/-- What is found is a blank line. -/
theorem findBlankLine_spec {n k : Nat} {s body : Bytes}
    (h : findBlankLine n s = some (k, body)) : ∃ head ending,
      s = head ++ (ending ++ body) ∧ EndsHead ending ∧ k = n + head.length := by
  fun_induction findBlankLine n s with
  | case1 => cases h
  | case2 n body' =>
      cases h
      exact ⟨[], [0x0A, 0x0A], rfl, .inl rfl, rfl⟩
  | case3 n body' =>
      cases h
      exact ⟨[], [0x0D, 0x0A, 0x0D, 0x0A], rfl, .inr rfl, rfl⟩
  | case4 n b rest _ _ ih =>
      obtain ⟨head, ending, rfl, hending, rfl⟩ := ih h
      refine ⟨b :: head, ending, rfl, hending, ?_⟩
      rw [List.length_cons]
      omega

theorem findBlankLine_bound {n k : Nat} {s body : Bytes}
    (h : findBlankLine n s = some (k, body)) : n ≤ k ∧ k ≤ n + s.length := by
  obtain ⟨head, ending, rfl, -, rfl⟩ := findBlankLine_spec h
  rw [List.length_append]
  omega

/-- The first blank line is still the first one when more octets follow. -/
theorem findBlankLine_append {n k : Nat} {s body : Bytes}
    (h : findBlankLine n s = some (k, body)) (t : Bytes) :
    findBlankLine n (s ++ t) = some (k, body ++ t) := by
  fun_induction findBlankLine n s with
  | case1 => simp at h
  | case2 n body' =>
      obtain ⟨rfl, rfl⟩ : n = k ∧ body' = body := by simpa using h
      rfl
  | case3 n body' =>
      obtain ⟨rfl, rfl⟩ : n = k ∧ body' = body := by simpa using h
      rfl
  | case4 n b rest hlf hcr ih =>
      rw [List.cons_append, findBlankLine]
      · exact ih h
      -- The octets of a blank line that begins here are all known, or none is found further on.
      · intro body' hb hrest
        cases rest with
        | nil => simp [findBlankLine] at h
        | cons c rest =>
            rw [List.cons_append, List.cons.injEq] at hrest
            exact hlf rest hb (by rw [hrest.1])
      · intro body' hb hrest
        match rest with
        | [] => simp [findBlankLine] at h
        | [c] => simp [findBlankLine] at h
        | [c, d] => simp_all [findBlankLine]
        | c :: d :: e :: rest =>
            simp only [List.cons_append, List.cons.injEq] at hrest
            exact hcr rest hb (by rw [hrest.1, hrest.2.1, hrest.2.2.1])

theorem splitHead_append {s head body : Bytes} (h : splitHead s = some (head, body)) (t : Bytes) :
    splitHead (s ++ t) = some (head, body ++ t) := by
  simp only [splitHead, Option.map_eq_some_iff] at h ⊢
  obtain ⟨⟨k, body'⟩, hfound, h⟩ := h
  obtain ⟨rfl, rfl⟩ : s.take k = head ∧ body' = body := by simpa using h
  have hk := (findBlankLine_bound hfound).2
  refine ⟨(k, body' ++ t), findBlankLine_append hfound t, ?_⟩
  rw [List.take_append_of_le_length (by omega)]

/-! ## Whether there is a header block -/

namespace Opening

/-- There is no header block once the first octets that are not white space and the mark of a status
line have come apart. -/
theorem of_eq_headless_iff {s : Bytes} :
    of s = .headless ↔ ¬ s.dropWhile isAsciiSpace <+: statusMark ∧
      ¬ statusMark <+: s.dropWhile isAsciiSpace := by
  generalize hrest : s.dropWhile isAsciiSpace = rest
  simp only [of, hrest, Bool.and_eq_true, List.isPrefixOf_iff_prefix, decide_eq_true_eq,
    Bool.not_eq_true', ← Bool.not_eq_true]
  constructor
  · intro h
    split at h
    · simp at h
    · rename_i hshort
      split at h
      · rename_i hmark
        refine ⟨fun hp => hmark ?_, hmark⟩
        -- A beginning of the mark that is not shorter than the mark is the mark.
        have hlong : statusMark.length ≤ rest.length := by
          by_contra hlt
          exact hshort ⟨hp, by omega⟩
        have hrest : rest = statusMark := hp.eq_of_length (Nat.le_antisymm hp.length_le hlong)
        exact hrest ▸ List.prefix_rfl
      · split at h <;> simp at h
  · rintro ⟨hnot, hmark⟩
    rw [if_neg fun h => hnot h.1, if_pos hmark]

theorem of_eq_headed_iff {s head body : Bytes} :
    of s = .headed head body ↔ statusMark <+: s.dropWhile isAsciiSpace ∧
      splitHead s = some (head, body) := by
  generalize hrest : s.dropWhile isAsciiSpace = rest
  simp only [of, hrest, Bool.and_eq_true, List.isPrefixOf_iff_prefix, decide_eq_true_eq,
    Bool.not_eq_true', ← Bool.not_eq_true]
  constructor
  · intro h
    split at h
    · simp at h
    · split at h
      · simp at h
      · rename_i hmark
        refine ⟨by simpa using hmark, ?_⟩
        split at h
        · simp at h
        · rename_i hsplit
          simpa [hsplit] using h
  · rintro ⟨hmark, hsplit⟩
    have hlong := hmark.length_le
    rw [if_neg fun h => absurd h.2 (by omega), if_neg (by simpa using hmark), hsplit]

/-- What comes after the leading white space is only added to. -/
theorem dropWhile_append {s : Bytes} (h : s.dropWhile isAsciiSpace ≠ []) (t : Bytes) :
    (s ++ t).dropWhile isAsciiSpace = s.dropWhile isAsciiSpace ++ t := by
  rw [List.dropWhile_append, if_neg (by simpa using h)]

/-- Octets that are not the beginning of a status line stay so. -/
theorem of_append_of_headless {s : Bytes} (h : of s = .headless) (t : Bytes) :
    of (s ++ t) = .headless := by
  rw [of_eq_headless_iff] at h ⊢
  obtain ⟨hnot, hmark⟩ := h
  rw [dropWhile_append fun hnil => hnot (by rw [hnil]; exact List.nil_prefix)]
  constructor
  · exact fun hp => hnot ((List.prefix_append _ t).trans hp)
  · intro hp
    rcases List.prefix_or_prefix_of_prefix hp (List.prefix_append _ t) with hp | hp
    · exact hmark hp
    · exact hnot hp

/-- A complete header block is the header block, whatever follows. -/
theorem of_append_of_headed {s head body : Bytes} (h : of s = .headed head body) (t : Bytes) :
    of (s ++ t) = .headed head (body ++ t) := by
  rw [of_eq_headed_iff] at h ⊢
  obtain ⟨hmark, hsplit⟩ := h
  have hne : s.dropWhile isAsciiSpace ≠ [] := by
    intro hnil
    rw [hnil] at hmark
    simp [statusMark] at hmark
  rw [dropWhile_append hne]
  exact ⟨hmark.trans (List.prefix_append _ t), splitHead_append hsplit t⟩

end Opening

end ClusterRpc
