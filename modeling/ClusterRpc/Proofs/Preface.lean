import ClusterRpc.Proofs.Encoding
import ClusterRpc.Proofs.Separation
import Mathlib.Data.List.TakeDrop

/-!
# White space in front of the status line

White space in front of a header block says nothing to the session, and the search for the end of
the block passes over it, as long as it has no blank line of its own. The first blank line in it is
taken for the end of the block; what should be the block then stands where the records are.
-/

namespace ClusterRpc

/-! ## What the session takes in -/

namespace Text

variable {c d : Char}

theorem cut_cons (h : c ≠ d) (s : Text) :
    cut d (c :: s) = (cut d s).map fun found => (c :: found.1, found.2) := by
  have hc : (c != d) = true := bne_iff_ne.2 h
  simp only [cut, List.span_eq_takeWhile_dropWhile, List.takeWhile_cons, List.dropWhile_cons, hc,
    if_true]
  cases s.dropWhile (· != d) <;> rfl

theorem trim_cons (h : isBlank c = true) (s : Text) : trim (c :: s) = trim s := by
  rw [trim, trim, trimStart, trimStart, List.dropWhile_cons_of_pos h]

end Text

namespace Session

/-- A blank in front of a line says nothing. -/
theorem readLine_cons (session : Session) {c : Char} (hblank : Text.isBlank c = true)
    (hcolon : c ≠ ':') (line : Text) : session.readLine (c :: line) = session.readLine line := by
  rw [readLine, readLine, Text.cut_cons hcolon]
  cases Text.cut ':' line with
  | none => rfl
  | some found =>
      simp only [Option.map_some, Text.trim_cons hblank]

/-- White space in front of a header block says nothing. -/
theorem readHeaders_append_left (session : Session) {spaces : Bytes}
    (h : spaces.all Json.isSpace = true) (block : Bytes) :
    session.readHeaders (spaces ++ block) = session.readHeaders block := by
  induction spaces with
  | nil => rfl
  | cons b spaces ih =>
      rw [List.all_cons, Bool.and_eq_true] at h
      rw [← ih h.2, List.cons_append]
      generalize spaces ++ block = s
      have hspace := h.1
      simp only [Json.isSpace, Bool.or_eq_true, decide_eq_true_eq] at hspace
      have hencode : [b] = Utf8.encode [Char.ofNat b.toNat] := by
        rcases hspace with ((rfl | rfl) | rfl) | rfl <;> decide
      rw [readHeaders, readHeaders, ← List.singleton_append, hencode, Utf8.lossy_encode_append,
        List.singleton_append, Text.splitWhere_cons]
      split
      -- The octet ends a line: an empty line more.
      · rfl
      -- It stands in front of one.
      · rename_i hline
        cases hpieces : Text.splitWhere (fun c => c == '\r' || c == '\n') (Utf8.lossy s) with
        | nil => exact absurd hpieces (Text.splitWhere_ne_nil _ _)
        | cons first others =>
            have hchar : Text.isBlank (Char.ofNat b.toNat) = true ∧ Char.ofNat b.toNat ≠ ':' := by
              rcases hspace with ((rfl | rfl) | rfl) | rfl <;> decide
            rw [List.foldl_cons, List.foldl_cons, readLine_cons _ hchar.1 hchar.2]

end Session

/-! ## Where the block ends -/

section

variable {s x : Bytes}

theorem findBlankLine_add (n m : Nat) (s : Bytes) :
    findBlankLine (n + m) s = (findBlankLine m s).map fun found => (n + found.1, found.2) := by
  fun_induction findBlankLine m s with
  | case1 => rfl
  | case2 m body => rfl
  | case3 m body => rfl
  | case4 m b rest hlf hcr ih =>
      rw [findBlankLine.eq_4 _ _ _ hlf hcr, Nat.add_assoc, ih]

/-- Octets without a blank line are passed over. -/
theorem findBlankLine_append_of_none {n : Nat} (h : findBlankLine n s = none)
    (hx : x.head?.any isLineEnd = false) :
    findBlankLine n (s ++ x) = findBlankLine (n + s.length) x := by
  have hne (b : UInt8) (hb : isLineEnd b = true) (body : Bytes) : x ≠ b :: body := by
    rintro rfl
    rw [List.head?_cons, Option.any_some, hb] at hx
    cases hx
  fun_induction findBlankLine n s with
  | case1 => rfl
  | case2 => cases h
  | case3 => cases h
  | case4 n b rest hlf hcr ih =>
      rw [List.cons_append, findBlankLine, ih h, List.length_cons, Nat.add_assoc, Nat.add_comm 1]
      -- A blank line that begins here would go on with ends of lines in `x`.
      · intro body hb hrest
        cases rest with
        | nil => exact hne 0x0A rfl body hrest
        | cons c rest =>
            rw [List.cons_append, List.cons.injEq] at hrest
            exact hlf rest hb (by rw [hrest.1])
      · intro body hb hrest
        rcases rest with _ | ⟨c, _ | ⟨d, _ | ⟨e, rest⟩⟩⟩
        · exact hne 0x0A rfl _ hrest
        · exact hne 0x0D rfl _ (List.cons.inj hrest).2
        · exact hne 0x0A rfl _ (List.cons.inj (List.cons.inj hrest).2).2
        · simp only [List.cons_append, List.cons.injEq] at hrest
          exact hcr rest hb (by rw [hrest.1, hrest.2.1, hrest.2.2.1])

theorem splitHead_append_left (h : splitHead s = none) (hx : x.head?.any isLineEnd = false) :
    splitHead (s ++ x) = (splitHead x).map fun found => (s ++ found.1, found.2) := by
  have hnone : findBlankLine 0 s = none := Option.map_eq_none_iff.1 h
  rw [splitHead, splitHead, findBlankLine_append_of_none hnone hx, Nat.zero_add,
    ← Nat.add_zero s.length, findBlankLine_add, Option.map_map, Option.map_map]
  congr 1
  funext found
  rw [Function.comp_apply, Function.comp_apply, List.take_length_add_append]

theorem splitHead_eq_none (h : ∀ other, EndsHead other → ¬ other <:+: s) : splitHead s = none := by
  rw [splitHead, Option.map_eq_none_iff, Option.eq_none_iff_forall_ne_some]
  rintro ⟨k, body⟩ hfound
  obtain ⟨head, other, rfl, hother, -⟩ := findBlankLine_spec hfound
  exact h other hother ⟨head, body, List.append_assoc ..⟩

end

/-! ## A stream with white space in front -/

namespace RecordStream

variable {spaces head body s : Bytes}

theorem statusMark_prefix_append (hspaces : spaces.all Json.isSpace = true)
    (h : statusMark <+: s.dropWhile isAsciiSpace) :
    statusMark <+: (spaces ++ s).dropWhile isAsciiSpace := by
  rwa [List.dropWhile_append_of_pos (List.all_eq_true.1 (all_isAsciiSpace_of_isSpace hspaces))]

/-- White space without a blank line in front of a header block changes nothing. -/
theorem drain_of_unbroken (hspaces : spaces.all Json.isSpace = true)
    (hnone : splitHead spaces = none) (hof : Opening.of s = .headed head body)
    (hs : s.head?.any isLineEnd = false) (session : Session) :
    (fresh.feed (spaces ++ s)).drain session = (fresh.feed s).drain session := by
  obtain ⟨hmark, hsplit⟩ := Opening.of_eq_headed_iff.1 hof
  have hof' : Opening.of (spaces ++ s) = .headed (spaces ++ head) body := by
    rw [Opening.of_eq_headed_iff, splitHead_append_left hnone hs, hsplit]
    exact ⟨statusMark_prefix_append hspaces hmark, rfl⟩
  have hpending (s : Bytes) : fresh.feed s = ⟨⟨s⟩, true⟩ := rfl
  simp only [hpending, drain_of_pending, hof, hof', Session.readHeaders_append_left session hspaces]

/-- The first blank line in white space in front is taken for the end of the header block: the
session takes nothing in, and the records begin there. -/
theorem drain_of_broken (hspaces : spaces.all Json.isSpace = true) {before rest : Bytes}
    (hsome : splitHead spaces = some (before, rest))
    (hmark : statusMark <+: s.dropWhile isAsciiSpace) (session : Session) :
    (fresh.feed (spaces ++ s)).drain session = drain ⟨⟨rest ++ s⟩, false⟩ session := by
  have hof : Opening.of (spaces ++ s) = .headed before (rest ++ s) :=
    Opening.of_eq_headed_iff.2 ⟨statusMark_prefix_append hspaces hmark, splitHead_append hsome s⟩
  have hbefore : before.all Json.isSpace = true := by
    obtain ⟨found, -, heq⟩ := Option.map_eq_some_iff.1 hsome
    cases heq
    exact List.all_eq_true.2 fun b hb => List.all_eq_true.1 hspaces b (List.mem_of_mem_take hb)
  have hsession : session.readHeaders before = session := by
    have hblank := session.readHeaders_append_left hbefore []
    rwa [List.append_nil] at hblank
  rw [show fresh.feed (spaces ++ s) = ⟨⟨spaces ++ s⟩, true⟩ from rfl, drain_of_pending]
  simp only [hof, hsession]

/-- White space in front of the status line does not matter as long as there is no blank line in it.
If there is one, what follows the first of them is left to the records, the header block with it,
and the session takes nothing in. -/
theorem drain_of_spaces {block ending : Bytes} (hspaces : spaces.all Json.isSpace = true)
    (hstatus : statusMark <+: block) (hblock : ∀ other, EndsHead other → ¬ other <:+: block)
    (hending : EndsHead ending) (x : Bytes) (session : Session) :
    ((∀ other, EndsHead other → ¬ other <:+: spaces) →
      (fresh.feed (spaces ++ (block ++ (ending ++ x)))).drain session =
        (fresh.feed (block ++ (ending ++ x))).drain session) ∧
    ∀ before rest, splitHead spaces = some (before, rest) →
      (fresh.feed (spaces ++ (block ++ (ending ++ x)))).drain session =
        drain ⟨⟨rest ++ (block ++ (ending ++ x))⟩, false⟩ session := by
  obtain ⟨head, trail, ends, hof, -⟩ := Opening.of_block hstatus hblock hending x
  have hs : (block ++ (ending ++ x)).head?.any isLineEnd = false := by
    obtain ⟨rest, rfl⟩ := hstatus
    rfl
  constructor
  · intro hunbroken
    exact drain_of_unbroken hspaces (splitHead_eq_none hunbroken) hof hs session
  · intro before rest hsome
    exact drain_of_broken hspaces hsome (Opening.of_eq_headed_iff.1 hof).1 session

/-- An object after a header block, with white space in front of it all. -/
theorem drain_of_four_spaces :
    (fresh.feed ([0x20, 0x0D, 0x0A, 0x09] ++
        (aBlock ++ ([0x0D, 0x0A, 0x0D, 0x0A] ++ octets "\x7b\x7d\x1e")))).drain .fresh =
      ([.ok (.reply ⟨[]⟩)], ⟨.empty, false⟩, ⟨[], some "x", false⟩) := by
  have hunbroken (s : Bytes) (hlf : ¬ [0x0A, 0x0A] <:+: s)
      (hcrlf : ¬ [0x0D, 0x0A, 0x0D, 0x0A] <:+: s) : ∀ other, EndsHead other → ¬ other <:+: s := by
    rintro other (rfl | rfl)
    · exact hlf
    · exact hcrlf
  have hblock := hunbroken aBlock (by decide +kernel) (by decide +kernel)
  have hspaces := hunbroken [0x20, 0x0D, 0x0A, 0x09] (by decide) (by decide)
  refine ((drain_of_spaces (by decide) (by decide +kernel) hblock (.inr rfl) _ .fresh).1
    hspaces).trans ?_
  decide +kernel

/-- With a blank line in front of it the header block is a record, and no good one; what it says of
the server is lost. -/
theorem drain_of_blank_line :
    let sent := aBlock ++ ([0x0D, 0x0A, 0x0D, 0x0A] ++ octets "\x7b\x7d\x1e")
    (fresh.feed sent).drain .fresh =
        ([.ok (.reply ⟨[]⟩)], ⟨.empty, false⟩, ⟨[], some "x", false⟩) ∧
      ((fresh.feed ([0x0A, 0x0A] ++ sent)).drain .fresh).1.map Except.toOption = [none] ∧
      ((fresh.feed ([0x0A, 0x0A] ++ sent)).drain .fresh).2 = (⟨.empty, false⟩, .fresh) := by
  decide +kernel

end RecordStream

end ClusterRpc
