import ClusterRpc.Proofs.Heading

/-!
# Texts as octets and back

The octets of a text are read as that text. An octet of the ASCII range stands for a character of
its own and is never a part of another one.
-/

namespace ClusterRpc.Utf8

/-! ## The pieces of one character -/

/-- The continuation octet that carries the low six bits of a number. -/
def continuation (n : Nat) : UInt8 := UInt8.ofNat (n % 0x40 + 0x80)

section

variable {b d : UInt8} {n : Nat} {x : Bytes}

theorem toNat_ofNat_of_lt (h : n < 0x100) : (UInt8.ofNat n).toNat = n := by
  rw [UInt8.toNat_ofNat']
  omega

theorem toNat_continuation (n : Nat) : (continuation n).toNat = n % 0x40 + 0x80 :=
  toNat_ofNat_of_lt (by omega)

theorem payload_continuation (n : Nat) : payload (continuation n) = n % 0x40 := by
  rw [payload, toNat_continuation]
  omega

theorem isContinuation_continuation (n : Nat) : isContinuation (continuation n) = true := by
  simp only [isContinuation, Bool.and_eq_true, decide_eq_true_eq, UInt8.le_iff_toNat_le,
    UInt8.lt_iff_toNat_lt, toNat_continuation, UInt8.reduceToNat]
  omega

/-- The bounds on a second octet that shut out overlong forms, surrogates and values that are too
large. -/
theorem fits_continuation (hE0 : b.toNat = 0xE0 → 0x20 ≤ n % 0x40)
    (hED : b.toNat = 0xED → n % 0x40 < 0x20) (hF0 : b.toNat = 0xF0 → 0x10 ≤ n % 0x40)
    (hF4 : b.toNat = 0xF4 → n % 0x40 < 0x10) : fits b (continuation n) = true := by
  simp only [fits, second, ← UInt8.toNat_inj, Bool.and_eq_true, decide_eq_true_eq,
    UInt8.le_iff_toNat_le, toNat_continuation, UInt8.reduceToNat] at *
  split_ifs <;> simp only [UInt8.reduceToNat] <;> omega

theorem piece_one (h : b.toNat < 0x80) : piece b x = (.char (Char.ofNat b.toNat), 0) := by
  rw [piece.eq_def, if_pos (UInt8.lt_iff_toNat_lt.2 h)]

theorem piece_two (hlow : 0xC2 ≤ b.toNat) (hhigh : b.toNat < 0xE0) (hfits : fits b d = true) :
    piece b (d :: x) = (.char (Char.ofNat (b.toNat % 0x20 * 0x40 + payload d)), 1) := by
  simp only [piece, hfits, if_true, UInt8.lt_iff_toNat_lt, UInt8.reduceToNat]
  rw [if_neg (by omega), if_neg (by omega), if_pos hhigh]

theorem piece_three {e : UInt8} (hlow : 0xE0 ≤ b.toNat) (hhigh : b.toNat < 0xF0)
    (hfits : fits b d = true) (he : isContinuation e = true) :
    piece b (d :: e :: x) =
      (.char (Char.ofNat ((b.toNat % 0x10 * 0x40 + payload d) * 0x40 + payload e)), 2) := by
  simp only [piece, hfits, he, if_true, UInt8.lt_iff_toNat_lt, UInt8.reduceToNat]
  rw [if_neg (by omega), if_neg (by omega), if_neg (by omega), if_pos hhigh]

theorem piece_four {e f : UInt8} (hlow : 0xF0 ≤ b.toNat) (hhigh : b.toNat < 0xF5)
    (hfits : fits b d = true) (he : isContinuation e = true) (hf : isContinuation f = true) :
    piece b (d :: e :: f :: x) =
      (.char (Char.ofNat
        (((b.toNat % 0x08 * 0x40 + payload d) * 0x40 + payload e) * 0x40 + payload f)), 3) := by
  simp only [piece, hfits, he, hf, if_true, UInt8.lt_iff_toNat_lt, UInt8.reduceToNat]
  rw [if_neg (by omega), if_neg (by omega), if_neg (by omega), if_neg (by omega), if_pos hhigh]

end

/-- The octets of a character, by its number. -/
theorem utf8EncodeChar_eq (c : Char) : String.utf8EncodeChar c =
    if c.toNat ≤ 0x7F then [UInt8.ofNat c.toNat]
    else if c.toNat ≤ 0x7FF then
      [UInt8.ofNat (c.toNat / 0x40 % 0x20 + 0xC0), continuation c.toNat]
    else if c.toNat ≤ 0xFFFF then
      [UInt8.ofNat (c.toNat / 0x1000 % 0x10 + 0xE0), continuation (c.toNat / 0x40),
        continuation c.toNat]
    else
      [UInt8.ofNat (c.toNat / 0x40000 % 0x08 + 0xF0), continuation (c.toNat / 0x1000),
        continuation (c.toNat / 0x40), continuation c.toNat] := rfl

/-- The octets of a character are read as that character, whatever follows them. -/
theorem piece_utf8EncodeChar (c : Char) : ∃ b rest, String.utf8EncodeChar c = b :: rest ∧
    ∀ x, piece b (rest ++ x) = (.char c, rest.length) := by
  have hvalid : c.toNat < 0xD800 ∨ 0xDFFF < c.toNat ∧ c.toNat < 0x110000 := c.valid
  have hchar {n : Nat} (h : n = c.toNat) : Char.ofNat n = c := by rw [h, Char.ofNat_toNat]
  rw [utf8EncodeChar_eq]
  split_ifs with hone htwo hthree
  · have hb := toNat_ofNat_of_lt (n := c.toNat) (by omega)
    refine ⟨_, [], rfl, fun x => ?_⟩
    rw [piece_one (by omega), hchar hb]
    rfl
  · have hb := toNat_ofNat_of_lt (n := c.toNat / 0x40 % 0x20 + 0xC0) (by omega)
    refine ⟨_, [_], rfl, fun x => ?_⟩
    have hfits := fits_continuation (b := UInt8.ofNat (c.toNat / 0x40 % 0x20 + 0xC0)) (n := c.toNat)
      (by omega) (by omega) (by omega) (by omega)
    rw [List.singleton_append, piece_two (by omega) (by omega) hfits, hb, payload_continuation,
      hchar (by omega)]
    rfl
  · have hb := toNat_ofNat_of_lt (n := c.toNat / 0x1000 % 0x10 + 0xE0) (by omega)
    refine ⟨_, [_, _], rfl, fun x => ?_⟩
    have hfits := fits_continuation (b := UInt8.ofNat (c.toNat / 0x1000 % 0x10 + 0xE0))
      (n := c.toNat / 0x40) (by omega) (by omega) (by omega) (by omega)
    rw [List.cons_append, List.singleton_append, piece_three (by omega) (by omega) hfits
      (isContinuation_continuation _), hb, payload_continuation, payload_continuation,
      hchar (by omega)]
    rfl
  · have hb := toNat_ofNat_of_lt (n := c.toNat / 0x40000 % 0x08 + 0xF0) (by omega)
    refine ⟨_, [_, _, _], rfl, fun x => ?_⟩
    have hfits := fits_continuation (b := UInt8.ofNat (c.toNat / 0x40000 % 0x08 + 0xF0))
      (n := c.toNat / 0x1000) (by omega) (by omega) (by omega) (by omega)
    rw [List.cons_append, List.cons_append, List.singleton_append,
      piece_four (by omega) (by omega) hfits (isContinuation_continuation _)
        (isContinuation_continuation _), hb, payload_continuation, payload_continuation,
      payload_continuation, hchar (by omega)]
    rfl

/-! ## Texts -/

theorem encode_cons (c : Char) (s : List Char) :
    encode (c :: s) = String.utf8EncodeChar c ++ encode s := rfl

/-- The octets of a piece that was already collected are passed over. -/
theorem piecesOnto_skip (acc : List (Piece × Bytes)) (t x : Bytes) :
    piecesOnto acc t.length (t ++ x) = piecesOnto acc 0 x := by
  induction t with
  | nil => rfl
  | cons b t ih => exact ih

/-- What was collected before does not matter for what is collected next. -/
theorem piecesOnto_eq (acc : List (Piece × Bytes)) (skip : Nat) (s : Bytes) :
    piecesOnto acc skip s = acc.reverse ++ piecesOnto [] skip s := by
  induction s generalizing acc skip with
  | nil => simp [piecesOnto]
  | cons b s ih =>
      cases skip with
      | zero =>
          rw [piecesOnto, piecesOnto, ih, ih [_]]
          simp
      | succ skip => exact ih acc skip

theorem map_fst_pieces_encode_append (s : List Char) (x : Bytes) :
    (pieces (encode s ++ x)).map Prod.fst = s.map .char ++ (pieces x).map Prod.fst := by
  induction s with
  | nil => rfl
  | cons c s ih =>
      obtain ⟨b, rest, hc, hpiece⟩ := piece_utf8EncodeChar c
      rw [encode_cons, hc, List.append_assoc, List.cons_append, pieces, piecesOnto, hpiece,
        piecesOnto_skip, piecesOnto_eq, List.map_append, show piecesOnto [] 0 _ = pieces _ from rfl,
        ih]
      rfl

/-- The octets of a text are read as that text, whatever follows them. -/
theorem lossy_encode_append (s : List Char) (x : Bytes) : lossy (encode s ++ x) = s ++ lossy x := by
  rw [lossy_eq, lossy_eq, map_fst_pieces_encode_append, List.map_append]
  simp [Function.comp_def, shown]

theorem lossy_encode (s : List Char) : lossy (encode s) = s := by
  have h := lossy_encode_append s []
  rwa [List.append_nil, show lossy [] = [] from rfl, List.append_nil] at h

/-- Octets without a broken piece are decoded. -/
theorem decode_of_pieces {found : List (Piece × Bytes)} {s : List Char}
    (h : found.map Prod.fst = s.map .char) :
    (found.mapM fun p => match p.1 with
      | .char c => Except.ok c
      | .broken => .error p.2) = .ok s := by
  induction found generalizing s with
  | nil =>
      rw [List.map_nil, eq_comm, List.map_eq_nil_iff] at h
      rw [h]
      rfl
  | cons p found ih =>
      cases s with
      | nil => cases h
      | cons c s =>
          obtain ⟨hp, hrest⟩ := List.cons.inj h
          rw [List.mapM_cons, hp, ih hrest]
          rfl

theorem decode_encode (s : List Char) : decode (encode s) = .ok s := by
  have h := map_fst_pieces_encode_append s []
  rw [List.append_nil, show pieces [] = [] from rfl, List.map_nil, List.append_nil] at h
  exact decode_of_pieces h

theorem eq_of_mem_utf8EncodeChar {b : UInt8} {c : Char} (h : b ∈ String.utf8EncodeChar c)
    (hb : b.toNat < 0x80) : b.toNat = c.toNat := by
  have hlead {n m : Nat} (hm : 0x80 ≤ m) (hn : n + m < 0x100) : b ≠ UInt8.ofNat (n + m) := by
    rintro rfl
    rw [toNat_ofNat_of_lt hn] at hb
    omega
  have hcontinuation (n : Nat) : b ≠ continuation n := by
    rintro rfl
    rw [toNat_continuation] at hb
    omega
  rw [utf8EncodeChar_eq] at h
  split_ifs at h with hone htwo hthree
  · rw [List.mem_singleton] at h
    rw [h, toNat_ofNat_of_lt (by omega)]
  all_goals
    simp only [List.mem_cons, List.not_mem_nil, or_false, hcontinuation] at h
    exact absurd h (hlead (by omega) (by omega))

/-- An octet of the ASCII range stands for a character of its own. -/
theorem exists_of_mem_encode {b : UInt8} {s : List Char} (h : b ∈ encode s)
    (hb : b.toNat < 0x80) : ∃ c ∈ s, c.toNat = b.toNat := by
  obtain ⟨c, hc, hmem⟩ := List.mem_flatMap.1 h
  exact ⟨c, hc, (eq_of_mem_utf8EncodeChar hmem hb).symm⟩

end ClusterRpc.Utf8
