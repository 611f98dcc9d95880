import ClusterRpc.Proofs.Extension
import ClusterRpc.Session
import Mathlib.Tactic.SplitIfs

/-!
# What ends a header block

A header block ends at its first blank line. Where ends of lines stand in front of that, the search
may find it a few octets early; what the session learns from the block is the same.
-/

namespace ClusterRpc

/-! ## Octets at the end of a text -/

namespace Utf8

theorem fits_eq_false {b c : UInt8} (hc : c < 0x80) : fits b c = false := by
  have hle : 0x80 ≤ (second b).1 := by
    unfold second
    split_ifs <;> decide
  have hlt : ¬ (second b).1 ≤ c := UInt8.not_le.2 (UInt8.lt_of_lt_of_le hc hle)
  rw [fits, decide_eq_false hlt, Bool.false_and]

theorem isContinuation_eq_false {c : UInt8} (hc : c < 0x80) : isContinuation c = false := by
  rw [isContinuation, decide_eq_false (UInt8.not_le.2 hc), Bool.false_and]

/-- An ASCII octet at the end is part of no sequence. -/
theorem piece_concat {c : UInt8} (hc : c < 0x80) (b : UInt8) (rest : Bytes) :
    piece b (rest ++ [c]) = piece b rest := by
  have hfits := fits_eq_false (b := b) hc
  have hcont := isContinuation_eq_false hc
  unfold piece
  refine ite_congr rfl (fun _ => rfl) fun _ => ite_congr rfl (fun _ => rfl) fun _ =>
    ite_congr rfl (fun _ => ?_) fun _ => ite_congr rfl (fun _ => ?_) fun _ =>
      ite_congr rfl (fun _ => ?_) fun _ => rfl
  -- Sequences of two, three and four octets, as far as they are there.
  · cases rest with
    | nil =>
        simp only [List.nil_append, hfits]
        rfl
    | cons d rest => rfl
  · match rest with
    | [] =>
        simp only [List.nil_append, hfits]
        rfl
    | [d] =>
        simp only [List.singleton_append, hcont]
        cases fits b d <;> rfl
    | _ :: _ :: _ => rfl
  · match rest with
    | [] =>
        simp only [List.nil_append, hfits]
        rfl
    | [d] =>
        simp only [List.singleton_append, hcont]
        cases fits b d <;> rfl
    | [d, e] =>
        simp only [List.cons_append, List.nil_append, hcont]
        cases fits b d <;> cases isContinuation e <;> rfl
    | _ :: _ :: _ :: _ => rfl

/-- A piece takes no more octets than there are. -/
theorem piece_le (b : UInt8) (rest : Bytes) : (piece b rest).2 ≤ rest.length := by
  have hone (p : Prop) [Decidable p] : (if p then 1 else 0) ≤ 1 := by split <;> decide
  fun_cases piece b rest
  case case9 | case16 => exact hone _
  case case15 =>
      dsimp only
      split
      · split
        · exact Nat.le_refl 2
        · exact Nat.le_succ 1
      · exact Nat.zero_le _
  all_goals first | exact Nat.zero_le _ | exact Nat.le_add_left _ _

theorem map_fst_piecesOnto_concat {c : UInt8} (hc : c < 0x80) {acc acc' : List (Piece × Bytes)}
    {skip : Nat} {s : Bytes} (hskip : skip ≤ s.length)
    (hacc : acc.map Prod.fst = acc'.map Prod.fst) :
    (piecesOnto acc skip (s ++ [c])).map Prod.fst =
      (piecesOnto acc' skip s).map Prod.fst ++ [.char (Char.ofNat c.toNat)] := by
  induction s generalizing acc acc' skip with
  | nil =>
      obtain rfl : skip = 0 := Nat.le_zero.1 hskip
      simp [piecesOnto, piece, hc, hacc]
  | cons b s ih =>
      cases skip with
      | zero =>
          rw [List.cons_append, piecesOnto, piecesOnto, piece_concat hc]
          apply ih (piece_le b s)
          simp [hacc]
      | succ skip => exact ih (Nat.le_of_succ_le_succ hskip) hacc

/-- The character that a piece is shown as. -/
def shown (p : Piece) : Char := p.casesOn (fun c => c) '\uFFFD'

theorem lossy_eq (s : Bytes) : lossy s = ((pieces s).map Prod.fst).map shown := by
  rw [lossy, List.map_map]
  congr 1
  funext ⟨p, rest⟩
  cases p <;> rfl

/-- What an ASCII octet at the end says stands at the end of the text. -/
theorem lossy_concat {c : UInt8} (hc : c < 0x80) (s : Bytes) :
    lossy (s ++ [c]) = lossy s ++ [Char.ofNat c.toNat] := by
  rw [lossy_eq, lossy_eq, pieces, pieces, map_fst_piecesOnto_concat hc (Nat.zero_le _) rfl,
    List.map_append]
  rfl

end Utf8

namespace Text

theorem splitWhere_cons (p : Char → Bool) (c : Char) (s : Text) : splitWhere p (c :: s) =
    if p c then [] :: splitWhere p s
    else match splitWhere p s with
      | [] => [[c]]
      | first :: others => (c :: first) :: others := rfl

theorem splitWhere_ne_nil (p : Char → Bool) (s : Text) : splitWhere p s ≠ [] := by
  cases s with
  | nil => exact nofun
  | cons c s =>
      rw [splitWhere_cons]
      split
      · exact nofun
      · split <;> exact nofun

/-- A separator at the end of a text adds an empty piece. -/
theorem splitWhere_concat {p : Char → Bool} {c : Char} (hc : p c = true) (s : Text) :
    splitWhere p (s ++ [c]) = splitWhere p s ++ [[]] := by
  induction s with
  | nil => rw [List.nil_append, splitWhere_cons, if_pos hc]; rfl
  | cons d s ih =>
      rw [List.cons_append, splitWhere_cons, splitWhere_cons, ih]
      cases hs : splitWhere p s with
      | nil => exact absurd hs (splitWhere_ne_nil p s)
      | cons first others => split <;> rfl

end Text

/-! ## Header blocks -/

/-- An octet that ends a line of a header block. -/
def isLineEnd (b : UInt8) : Bool := b = 0x0D || b = 0x0A

/-- Ends of lines at the end of a header block say nothing. -/
theorem Session.readHeaders_append (session : Session) (block : Bytes) {ends : Bytes}
    (h : ends.all isLineEnd = true) :
    session.readHeaders (block ++ ends) = session.readHeaders block := by
  induction ends generalizing block with
  | nil => rw [List.append_nil]
  | cons b ends ih =>
      rw [List.all_cons, Bool.and_eq_true] at h
      have hb : b < 0x80 ∧ (Char.ofNat b.toNat == '\r' || Char.ofNat b.toNat == '\n') = true := by
        have hb := h.1
        simp only [isLineEnd, Bool.or_eq_true, decide_eq_true_eq] at hb
        rcases hb with rfl | rfl <;> decide
      have hconcat : session.readHeaders (block ++ [b]) = session.readHeaders block := by
        rw [readHeaders, Utf8.lossy_concat hb.1, Text.splitWhere_concat hb.2, List.foldl_append]
        rfl
      rw [List.append_cons, ih _ h.2, hconcat]

theorem EndsHead.lineEnds {s : Bytes} (h : EndsHead s) : s.all isLineEnd = true := by
  rcases h with rfl | rfl <;> decide

/-- The blank line that is found is not behind one that is there. -/
theorem findBlankLine_of_ends {ending : Bytes} (h : EndsHead ending) (n : Nat)
    (block x : Bytes) : ∃ k body, findBlankLine n (block ++ (ending ++ x)) = some (k, body) ∧
      k ≤ n + block.length := by
  induction block generalizing n with
  | nil =>
      rcases h with rfl | rfl
      · exact ⟨n, x, rfl, Nat.le_refl _⟩
      · exact ⟨n, x, rfl, Nat.le_refl _⟩
  | cons b block ih =>
      rw [List.cons_append, List.length_cons, findBlankLine.eq_def]
      split
      · rename_i heq
        cases heq
      · rename_i c rest heq
        split
        · exact ⟨n, _, rfl, Nat.le_add_right _ _⟩
        · exact ⟨n, _, rfl, Nat.le_add_right _ _⟩
        · cases heq
          obtain ⟨k, body, hfound, hk⟩ := ih (n + 1)
          refine ⟨k, body, hfound, ?_⟩
          omega

/-- Two blank lines with something behind them are the same only if they are of one kind. -/
theorem EndsHead.append_inj {ending ending' x x' : Bytes} (h : EndsHead ending)
    (h' : EndsHead ending') (heq : ending ++ x = ending' ++ x') : ending = ending' ∧ x = x' := by
  rcases h with rfl | rfl <;> rcases h' with rfl | rfl <;> simp_all

/-- The header block ends where a blank line begins and none begins further ahead. -/
theorem splitHead_eq_some_iff {s head body : Bytes} : splitHead s = some (head, body) ↔
    ∃ ending, EndsHead ending ∧ s = head ++ (ending ++ body) ∧
      ∀ n < head.length, ∀ other, EndsHead other → ¬ other <+: s.drop n := by
  constructor
  · intro h
    obtain ⟨⟨k, rest⟩, hfound, heq⟩ := Option.map_eq_some_iff.1 h
    obtain ⟨front, ending, hs, hending, hk⟩ := findBlankLine_spec hfound
    obtain ⟨rfl, rfl⟩ : front = head ∧ rest = body := by simpa [hs, hk] using heq
    refine ⟨ending, hending, hs, fun n hn other hother ⟨x, hx⟩ => ?_⟩
    obtain ⟨k', body', hfound', hk'⟩ := findBlankLine_of_ends hother 0 (s.take n) x
    rw [hx, List.take_append_drop, hfound] at hfound'
    cases hfound'
    rw [List.length_take] at hk'
    omega
  · rintro ⟨ending, hending, hs, hfirst⟩
    obtain ⟨k, rest, hfound, hk⟩ := findBlankLine_of_ends hending 0 head body
    rw [← hs] at hfound
    obtain ⟨front, other, hs', hother, rfl⟩ := findBlankLine_spec hfound
    have hlength : front.length = head.length := by
      by_contra hne
      exact hfirst front.length (by omega) other hother ⟨rest, by rw [hs', List.drop_left]⟩
    obtain ⟨rfl, htail⟩ := List.append_inj (hs'.symm.trans hs) hlength
    obtain ⟨-, rfl⟩ := hother.append_inj hending htail
    rw [splitHead, hfound, Option.map_some, hs', Nat.zero_add, List.take_left]

/-- The header block is found up to ends of lines that the search takes for part of the blank line,
or leaves to the body. -/
theorem splitHead_of_block {block ending : Bytes} (hending : EndsHead ending)
    (hblock : ∀ other, EndsHead other → ¬ other <:+: block) (x : Bytes) :
    ∃ head trail body, splitHead (block ++ (ending ++ x)) = some (head, body ++ x) ∧
      block = head ++ trail ∧ trail.all isLineEnd = true ∧ body.all isLineEnd = true := by
  obtain ⟨k, body, hfound, hk⟩ := findBlankLine_of_ends hending 0 block []
  rw [List.append_nil] at hfound
  obtain ⟨head, other, hsplit, hother, rfl⟩ := findBlankLine_spec hfound
  have hlen : head.length ≤ block.length := by omega
  -- What is found begins in the block or at its end, and does not end in it.
  obtain ⟨trail, rfl, htrail⟩ : ∃ trail, block = head ++ trail ∧
      trail ++ ending = other ++ body := by
    rcases List.append_eq_append_iff.1 hsplit with ⟨trail, rfl, htrail⟩ | ⟨trail, rfl, htrail⟩
    · have hnil : trail = [] := by
        rw [List.length_append] at hlen
        exact List.eq_nil_of_length_eq_zero (by omega)
      subst hnil
      exact ⟨[], by simp, htrail⟩
    · exact ⟨trail, rfl, htrail.symm⟩
  have hfound' := findBlankLine_append hfound x
  rw [List.append_assoc] at hfound'
  obtain ⟨cut, rfl, rfl⟩ : ∃ cut, other = trail ++ cut ∧ ending = cut ++ body := by
    rcases List.append_eq_append_iff.1 htrail with ⟨cut, rfl, rfl⟩ | ⟨cut, rfl, hbody⟩
    · exact ⟨cut, rfl, rfl⟩
    · exact absurd ⟨head, cut, by rw [List.append_assoc]⟩ (hblock other hother)
  have hother := hother.lineEnds
  have hending := hending.lineEnds
  rw [List.all_append, Bool.and_eq_true] at hother hending
  refine ⟨head, trail, body, ?_, rfl, hother.1, hending.2⟩
  rw [splitHead, hfound']
  simp

end ClusterRpc
