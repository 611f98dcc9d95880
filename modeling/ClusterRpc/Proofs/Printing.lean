import ClusterRpc.Proofs.Encoding
import ClusterRpc.Proofs.Extent

/-!
# Values printed and read again

The indented text of a value is read as that value, whatever follows it that no number goes on with.
Strings and the layout of containers ask for nothing. The entries of an object have to be in the
order of their keys, numbers have to be read as what they are, and there is a limit to the
containers that stand inside one another.
-/

namespace ClusterRpc

theorem octets_append (s t : String) : octets (s ++ t) = octets s ++ octets t := by
  simp [octets]

namespace Json

open Utf8 (encode)

/-! ## Strings -/

/-- A reader that takes a text in as a whole takes it in whatever follows. -/
theorem Reads.takes {α : Type} {P : Bytes → Prop} {r : Bytes → Read α} {s : Bytes} {v : α}
    (h : Reads P r) (hs : r s = .ok (v, [])) : Takes P r s v := by
  obtain ⟨used, rfl, -, htakes⟩ := h s v [] hs
  rwa [List.append_nil]

/-- A control character is read by its number. -/
theorem escape_control : ∀ n < 0x20, escape (encode
    ['u', '0', '0', if n < 0x10 then '0' else '1', Nat.digitChar (n % 16)]) =
      .ok (Char.ofNat n, []) := by
  decide

/-- A character of a literal stands for itself or is escaped. -/
theorem escaped_spec (c : Char) :
    (escaped c = [c] ∧ c ≠ '"' ∧ c ≠ '\\' ∧ 0x20 ≤ c.toNat) ∨
      ∃ text, escaped c = '\\' :: text ∧ Takes Any escape (encode text) c := by
  rw [escaped.eq_def]
  split
  case h_8 hquote hbackslash _ _ _ _ _ =>
    split
    · rename_i hcontrol
      refine .inr ⟨_, rfl, reads_escape.takes ?_⟩
      rw [escape_control _ hcontrol, Char.ofNat_toNat]
    · rename_i hcontrol
      exact .inl ⟨rfl, hquote, hbackslash, Nat.le_of_not_lt hcontrol⟩
  all_goals exact .inr ⟨_, rfl, reads_escape.takes (by decide)⟩

/-- The octets of a character that stands for itself do so too. -/
theorem plain_of_mem_utf8EncodeChar {c : Char} (hquote : c ≠ '"') (hbackslash : c ≠ '\\')
    (hplain : 0x20 ≤ c.toNat) {b : UInt8} (hb : b ∈ String.utf8EncodeChar c) :
    b ≠ 0x22 ∧ b ≠ 0x5C ∧ 0x20 ≤ b := by
  have hne {a : Char} (ha : a.toNat < 0x80) (hc : c ≠ a) : b.toNat ≠ a.toNat := by
    intro heq
    refine hc (Char.toNat_inj.1 ?_)
    rw [← Utf8.eq_of_mem_utf8EncodeChar hb (by omega), heq]
  refine ⟨?_, ?_, ?_⟩
  · rintro rfl
    exact hne (by decide) hquote rfl
  · rintro rfl
    exact hne (by decide) hbackslash rfl
  · refine UInt8.le_iff_toNat_le.2 (show 0x20 ≤ b.toNat from ?_)
    by_cases hb' : b.toNat < 0x80
    · rwa [Utf8.eq_of_mem_utf8EncodeChar hb hb']
    · omega

/-- Octets that stand for themselves are collected. -/
theorem stringFrom_append {w : Bytes} (hw : ∀ b ∈ w, b ≠ 0x22 ∧ b ≠ 0x5C ∧ 0x20 ≤ b)
    (octets : List (UInt8 × Bytes)) (fuel : Nat) (x : Bytes) :
    ∃ octets', octets'.map Prod.fst = w.reverse ++ octets.map Prod.fst ∧
      stringFrom octets (w.length + fuel) (w ++ x) = stringFrom octets' fuel x := by
  induction w generalizing octets with
  | nil => exact ⟨octets, rfl, by rw [List.length_nil, Nat.zero_add, List.nil_append]⟩
  | cons b w ih =>
      obtain ⟨⟨hquote, hescape, hcontrol⟩, hw⟩ := List.forall_mem_cons.1 hw
      obtain ⟨octets', hoctets', hread⟩ := ih hw ((b, w ++ x) :: octets)
      refine ⟨octets', by rw [hoctets']; simp, ?_⟩
      rw [List.length_cons, Nat.add_right_comm, List.cons_append,
        stringFrom_plain hquote hescape hcontrol, hread]

/-- One character of a literal is read, with fuel for it and something left over. -/
theorem stringFrom_character (c : Char) (octets : List (UInt8 × Bytes)) {left fuel : Nat}
    (hfuel : (encode (escaped c)).length + left ≤ fuel) (x : Bytes) : ∃ octets' fuel',
      octets'.map Prod.fst = (encode [c]).reverse ++ octets.map Prod.fst ∧ left ≤ fuel' ∧
        stringFrom octets fuel (encode (escaped c) ++ x) = stringFrom octets' fuel' x := by
  rcases escaped_spec c with ⟨hself, hquote, hbackslash, hplain⟩ | ⟨text, htext, htakes⟩
  · rw [hself] at hfuel ⊢
    have hw : ∀ b ∈ encode [c], b ≠ 0x22 ∧ b ≠ 0x5C ∧ 0x20 ≤ b := fun b hb =>
      plain_of_mem_utf8EncodeChar hquote hbackslash hplain
        (by rwa [Utf8.encode_cons, Utf8.encode_nil, List.append_nil] at hb)
    obtain ⟨more, rfl⟩ := Nat.exists_eq_add_of_le hfuel
    obtain ⟨octets', hoctets', hread⟩ := stringFrom_append hw octets (left + more) x
    exact ⟨octets', left + more, hoctets', Nat.le_add_right .., by rw [Nat.add_assoc, hread]⟩
  · have hcons : encode (escaped c) = 0x5C :: encode text := by rw [htext]; rfl
    rw [hcons, List.length_cons, Nat.add_right_comm] at hfuel
    obtain ⟨more, rfl⟩ := Nat.exists_eq_add_of_lt hfuel
    refine ⟨unescaped c x octets, (encode text).length + left + more, ?_, ?_, ?_⟩
    · simp [unescaped, Utf8.encode_cons, Function.comp_def]
    · exact Nat.le_add_right_of_le (Nat.le_add_left left (encode text).length)
    · rw [hcons, List.cons_append, stringFrom_escape (htakes x trivial)]

/-- The characters of a literal are read one after the other, up to its end. -/
theorem stringFrom_escaped (s before : List Char) {octets : List (UInt8 × Bytes)} {fuel : Nat}
    (hoctets : octets.map Prod.fst = (encode before).reverse)
    (hfuel : (encode (s.flatMap escaped)).length < fuel) (x : Bytes) :
    stringFrom octets fuel (encode (s.flatMap escaped) ++ 0x22 :: x) =
      .ok (String.ofList (before ++ s), x) := by
  -- What was read so far is known by its text alone, since the octets come with what followed them.
  induction s generalizing before octets fuel with
  | nil =>
      obtain ⟨fuel, rfl⟩ := Nat.exists_eq_add_of_lt hfuel
      rw [List.flatMap_nil, Utf8.encode_nil, List.nil_append, stringFrom_quote,
        finishString_ok_iff, hoctets, List.reverse_reverse, Utf8.decode_encode, List.append_nil]
      exact ⟨rfl, rfl⟩
  | cons c s ih =>
      rw [List.flatMap_cons, Utf8.encode_append, List.length_append] at hfuel
      have henough : (encode (escaped c)).length +
          ((encode (s.flatMap escaped)).length + 1) ≤ fuel := hfuel
      obtain ⟨octets', fuel', hoctets', hfuel', hread⟩ :=
        stringFrom_character c octets henough (encode (s.flatMap escaped) ++ 0x22 :: x)
      have hbefore : octets'.map Prod.fst = (encode (before ++ [c])).reverse := by
        rw [hoctets', hoctets, Utf8.encode_append, List.reverse_append]
      rw [List.flatMap_cons, Utf8.encode_append, List.append_assoc, hread,
        ih (before ++ [c]) hbefore hfuel', ← List.append_cons]

theorem octets_literal (s : String) :
    octets (literal s) = 0x22 :: (encode (s.toList.flatMap escaped) ++ [0x22]) := by
  rw [octets, literal, String.toList_ofList, List.cons_append]
  exact congrArg _ (Utf8.encode_append _ _)

/-- A literal is read as the string that it was made of. -/
theorem takes_literal (s : String) :
    Takes Any readString (encode (s.toList.flatMap escaped) ++ [0x22]) s := by
  intro x _
  rw [← List.append_cons, readString, stringFrom_escaped s.toList [] rfl, List.nil_append,
    String.ofList_toList]
  rw [List.length_append, List.length_cons]
  omega

/-! ## White space and scalars -/

section

variable {b : UInt8} {s spaces : Bytes} {v : Json}

theorem all_isSpace_newline (depth : Nat) : (octets (newline depth)).all isSpace = true := by
  have hline : octets (newline depth) =
      0x0A :: (List.replicate (2 * depth) ' ').flatMap String.utf8EncodeChar := by
    rw [octets, newline, String.toList_ofList]
    rfl
  rw [hline, List.all_cons, List.all_flatMap, List.all_replicate]
  split <;> decide

theorem readValue_spaces (h : spaces.all isSpace = true) (depth : Nat) (s : Bytes) :
    readValue depth (spaces ++ s) = readValue depth s := by
  rw [← readValue_skipSpace, skipSpace_append h, readValue_skipSpace]

theorem readValue_scalar (hspace : isSpace b = false) (hlist : b ≠ 0x5B) (hobject : b ≠ 0x7B)
    (depth : Nat) (s : Bytes) : readValue depth (b :: s) = readScalar b s := by
  rw [readValue.eq_def]
  simp only [skipSpace_cons hspace, if_neg hlist, if_neg hobject]

theorem readScalar_quote (s : Bytes) :
    readScalar 0x22 s = (readString s).map fun r => (.string r.1, r.2) := rfl

/-- What is read without opening a container is read at every depth. -/
theorem readValue_of_zero {r : Json × Bytes} (h : readValue 0 s = .ok r) (depth : Nat) :
    readValue depth s = .ok r := by
  rw [← readValue_skipSpace] at h ⊢
  cases hs : skipSpace s with
  | nil =>
      rw [hs] at h
      cases h
  | cons b t =>
      obtain ⟨-, -, -, hspace⟩ := skipSpace_eq_cons hs
      rw [hs] at h
      by_cases hlist : b = 0x5B
      · rw [readValue, skipSpace_cons hspace] at h
        simp only [if_pos hlist] at h
        cases h
      · by_cases hobject : b = 0x7B
        · rw [readValue, skipSpace_cons hspace] at h
          simp only [if_neg hlist, if_pos hobject] at h
          cases h
        · rw [readValue_scalar hspace hlist hobject] at h ⊢
          exact h

/-- A text without containers that is read as a whole is read at every depth. -/
theorem takes_of_zero (h : readValue 0 s = .ok (v, [])) (depth : Nat) :
    Takes Ends (readValue depth) s v :=
  fun x hx => readValue_of_zero ((reads_readValue 0).takes h x hx) depth

/-- Where a value starts, no list ends. -/
theorem exists_of_readValue {depth : Nat} {r : Json × Bytes} (h : readValue depth s = .ok r) :
    ∃ b t, skipSpace s = b :: t ∧ b ≠ 0x5D ∧ readValue depth (b :: t) = .ok r := by
  rw [← readValue_skipSpace] at h
  cases hs : skipSpace s with
  | nil =>
      rw [hs] at h
      cases depth <;> cases h
  | cons b t =>
      rw [hs] at h
      refine ⟨b, t, rfl, ?_, h⟩
      rintro rfl
      rw [readValue_scalar (by decide) (by decide) (by decide)] at h
      cases h

end

/-! ## Integers -/

namespace Numeral

/-- A digit is an octet of its own. -/
theorem exists_of_isDigit {c : Char} (h : c.isDigit = true) : ∃ b,
    String.utf8EncodeChar c = [b] ∧ isDigit b = true ∧ digit b = c.toNat - '0'.toNat ∧
      (b = 0x30 → c = '0') := by
  have hc := Text.toNat_of_isDigit h
  have hb : (UInt8.ofNat c.toNat).toNat = c.toNat := Utf8.toNat_ofNat_of_lt (by omega)
  refine ⟨UInt8.ofNat c.toNat, ?_, ?_, ?_, fun hzero => ?_⟩
  · rw [Utf8.utf8EncodeChar_eq, if_pos (by omega)]
  · rw [isDigit, Bool.and_eq_true, decide_eq_true_eq, decide_eq_true_eq, UInt8.le_iff_toNat_le,
      UInt8.le_iff_toNat_le, hb]
    exact hc
  · rw [digit, hb]
    rfl
  · rw [hzero] at hb
    exact Char.toNat_inj.1 hb.symm

theorem le_ofDigitChars (cs : List Char) (n : Nat) : n ≤ Nat.ofDigitChars 10 cs n := by
  rw [Nat.ofDigitChars_eq_ofDigitChars_zero]
  exact Nat.le_add_right_of_le (Nat.le_mul_of_pos_left n (Nat.pow_pos (by decide)))

/-- Digits of a number that fits are all taken in. -/
theorem absorb_encode {cs : List Char} (hcs : ∀ c ∈ cs, c.isDigit = true) {n : Nat}
    (h : Nat.ofDigitChars 10 cs n ≤ maxInteger) :
    absorb n (encode cs) = (Nat.ofDigitChars 10 cs n, []) := by
  induction cs generalizing n with
  | nil => rfl
  | cons c cs ih =>
      obtain ⟨hc, hcs⟩ := List.forall_mem_cons.1 hcs
      obtain ⟨b, hb, -, hdigit, -⟩ := exists_of_isDigit hc
      rw [Nat.ofDigitChars_cons, ← hdigit] at h ⊢
      rw [Utf8.encode_cons, hb, List.singleton_append, absorb,
        if_neg (Nat.not_lt.2 (Nat.le_trans (le_ofDigitChars cs _) h)), ih hcs h]

theorem all_isDigit_encode {cs : List Char} (hcs : ∀ c ∈ cs, c.isDigit = true) :
    (encode cs).all isDigit = true := by
  induction cs with
  | nil => rfl
  | cons c cs ih =>
      obtain ⟨hc, hcs⟩ := List.forall_mem_cons.1 hcs
      obtain ⟨b, hb, hdigit, -⟩ := exists_of_isDigit hc
      rw [Utf8.encode_cons, hb, List.singleton_append, List.all_cons, hdigit, ih hcs]
      rfl

theorem encode_toDigits (n : Nat) :
    ∃ b s, encode (Nat.toDigits 10 n) = b :: s ∧ isDigit b = true := by
  cases h : Nat.toDigits 10 n with
  | nil => exact absurd h Nat.toDigits_ne_nil
  | cons c cs =>
      obtain ⟨b, hb, hdigit, -⟩ := exists_of_isDigit
        (Nat.isDigit_of_mem_toDigits (by decide) (by decide) (h ▸ List.mem_cons_self))
      exact ⟨b, encode cs, by rw [Utf8.encode_cons, hb, List.singleton_append], hdigit⟩

/-- No zero stands in front of other digits. -/
theorem eq_nil_of_toDigits {n : Nat} {cs : List Char} (h : Nat.toDigits 10 n = '0' :: cs) :
    cs = [] := by
  induction n using Nat.strongRecOn generalizing cs with
  | ind n ih =>
      rw [Nat.toDigits_eq_if (by decide)] at h
      split at h
      · exact (List.cons.inj h).2.symm
      · rename_i hle
        rcases List.append_eq_cons_iff.1 h with ⟨hnil, -⟩ | ⟨cs', hzero, -⟩
        · exact absurd hnil Nat.toDigits_ne_nil
        · rw [ih (n / 10) (by omega) hzero] at hzero
          have hvalue := @Nat.ofDigitChars_ten_toDigits (n / 10)
          rw [hzero] at hvalue
          exact absurd (show 0 = n / 10 from hvalue) (by omega)

/-- The digits of a number that fits are read as that number. -/
theorem read_toDigits (negative : Bool) {n : Nat} (h : n ≤ maxInteger) :
    read negative (encode (Nat.toDigits 10 n)) = afterDigits negative n [] [] := by
  have hcs : ∀ c ∈ Nat.toDigits 10 n, c.isDigit = true := fun c =>
    Nat.isDigit_of_mem_toDigits (by decide) (by decide)
  have habsorb := absorb_encode hcs (n := 0) (by rwa [Nat.ofDigitChars_ten_toDigits])
  rw [Nat.ofDigitChars_ten_toDigits] at habsorb
  have hall := all_isDigit_encode hcs
  have hzero : ∀ cs, Nat.toDigits 10 n = '0' :: cs → cs = [] := fun _ => eq_nil_of_toDigits
  cases hdigits : Nat.toDigits 10 n with
  | nil => exact absurd hdigits Nat.toDigits_ne_nil
  | cons c cs =>
      rw [hdigits] at hcs habsorb hall
      obtain ⟨b, hb, hdigit, -, hb0⟩ := exists_of_isDigit (hcs c List.mem_cons_self)
      have hlead : ¬(b = 0x30 ∧ (encode cs).head?.any isDigit = true) := by
        rintro ⟨hb', hhead⟩
        rw [hb0 hb'] at hdigits
        rw [hzero cs hdigits] at hhead
        cases hhead
      rw [Utf8.encode_cons, hb, List.singleton_append] at habsorb hall ⊢
      have htake := takeWhile_append hall (s := []) rfl
      have hdrop := dropWhile_append hall (s := []) rfl
      rw [List.append_nil] at htake hdrop
      simp only [read, hdigit, Bool.not_true, Bool.false_eq_true, if_false, if_neg hlead, htake,
        hdrop, habsorb]
      rfl

end Numeral

theorem readValue_digit {b : UInt8} (h : Numeral.isDigit b = true) (depth : Nat) (s : Bytes) :
    readValue depth (b :: s) = (Numeral.read false (b :: s)).map fun r => (.number r.1, r.2) := by
  have hne {a : UInt8} (ha : Numeral.isDigit a = false) : b ≠ a := by
    rintro rfl
    rw [h] at ha
    cases ha
  have hspace : isSpace b = false := by
    simp only [isSpace, Bool.or_eq_false_iff, decide_eq_false_iff_not]
    exact ⟨⟨⟨hne rfl, hne rfl⟩, hne rfl⟩, hne rfl⟩
  rw [readValue_scalar hspace (hne rfl) (hne rfl), readScalar, if_neg (hne rfl), if_neg (hne rfl),
    if_neg (hne rfl), if_neg (hne rfl), if_pos h]

/-! ## Lists -/

section

variable {depth k : Nat} {spaces : Bytes} {items : List Json} {fields : Object}

/-- Nothing that stands behind commas goes on with a number. -/
theorem ends_commas {α : Type} (piece : α → Bytes) (l : List α) {rest : Bytes} (h : Ends rest) :
    Ends ((l.flatMap fun a => 0x2C :: piece a) ++ rest) := by
  cases l with
  | nil => exact h
  | cons a l => rfl

theorem length_le_commas {α : Type} (piece : α → Bytes) (l : List α) :
    l.length ≤ (l.flatMap fun a => 0x2C :: piece a).length := by
  induction l with
  | nil => exact Nat.le_refl 0
  | cons a l ih =>
      rw [List.flatMap_cons, List.length_append, List.length_cons, List.length_cons]
      omega

/-- The octets of an item on a line of its own. -/
def itemLine (k : Nat) (v : Json) : Bytes := octets (newline k) ++ octets (prettyAt k v)

theorem octets_prettyItems (k : Nat) (v : Json) (items : List Json) :
    octets (prettyItems k (v :: items)) =
      itemLine k v ++ items.flatMap fun w => 0x2C :: itemLine k w := by
  induction items generalizing v with
  | nil => simp [prettyItems, octets_append, itemLine]
  | cons w items ih =>
      have hcons : prettyItems k (v :: w :: items) =
          newline k ++ prettyAt k v ++ "," ++ prettyItems k (w :: items) := by
        rw [prettyItems]
        exact List.cons_ne_nil _ _
      rw [hcons, octets_append, octets_append, octets_append, ih, List.flatMap_cons, itemLine,
        List.append_assoc]
      rfl

theorem takes_itemLine {v : Json} (h : Takes Ends (readValue depth) (octets (prettyAt k v)) v) :
    Takes Ends (readValue depth) (itemLine k v) v := by
  intro x hx
  rw [itemLine, List.append_assoc, readValue_spaces (all_isSpace_newline k), h x hx]

theorem moreItems_lines (hspaces : spaces.all isSpace = true)
    (hitems : ∀ v ∈ items, Takes Ends (readValue depth) (itemLine k v) v) (acc : List Json)
    {fuel : Nat} (hfuel : items.length < fuel) (x : Bytes) :
    moreItems (readValue depth) acc fuel
        ((items.flatMap fun v => 0x2C :: itemLine k v) ++ (spaces ++ 0x5D :: x)) =
      .ok (acc.reverse ++ items, x) := by
  induction items generalizing acc fuel with
  | nil =>
      obtain ⟨fuel, rfl⟩ := Nat.exists_eq_add_of_lt hfuel
      rw [List.flatMap_nil, List.nil_append,
        moreItems_close (skipSpace_append_cons hspaces (by decide) x), List.append_nil]
  | cons v items ih =>
      obtain ⟨hv, hitems⟩ := List.forall_mem_cons.1 hitems
      obtain ⟨fuel, rfl⟩ := Nat.exists_eq_add_of_lt hfuel
      have hread := hv _ (ends_commas (itemLine k) items (ends_spaces hspaces
        (show Numeral.goesOn 0x5D = false by decide) x))
      obtain ⟨b, t, hskip, hb, hread⟩ := exists_of_readValue hread
      rw [List.flatMap_cons, List.append_assoc, List.cons_append,
        moreItems_comma (skipSpace_cons (by decide) _) hskip hb hread,
        ih hitems (v :: acc) (by rw [List.length_cons]; omega), List.reverse_cons,
        ← List.append_cons]

/-- A list is read item by item. -/
theorem readItems_lines {v : Json} (hspaces : spaces.all isSpace = true)
    (hitems : ∀ w ∈ v :: items, Takes Ends (readValue depth) (itemLine k w) w) (x : Bytes) :
    readItems (readValue depth) (octets (prettyItems k (v :: items)) ++ (spaces ++ 0x5D :: x)) =
      .ok (v :: items, x) := by
  obtain ⟨hv, hitems⟩ := List.forall_mem_cons.1 hitems
  have hread := hv _ (ends_commas (itemLine k) items (ends_spaces hspaces
    (show Numeral.goesOn 0x5D = false by decide) x))
  obtain ⟨b, t, hskip, hb, hread⟩ := exists_of_readValue hread
  rw [octets_prettyItems, List.append_assoc, readItems_item hskip hb, hread]
  refine moreItems_lines hspaces hitems [v] ?_ x
  rw [List.length_append]
  have := length_le_commas (itemLine k) items
  omega

/-! ## Objects -/

/-- The octets of an entry from its key on, but for the quote in front. -/
def entryText (k : Nat) (e : String × Json) : Bytes :=
  encode (e.1.toList.flatMap escaped) ++ [0x22] ++ 0x3A :: 0x20 :: octets (prettyAt k e.2)

/-- The octets of an entry on a line of its own. -/
def entryLine (k : Nat) (e : String × Json) : Bytes := octets (newline k) ++ 0x22 :: entryText k e

theorem octets_prettyFields (k : Nat) (e : String × Json) (fields : Object) :
    octets (prettyFields k (e :: fields)) =
      entryLine k e ++ fields.flatMap fun f => 0x2C :: entryLine k f := by
  have hline (e : String × Json) :
      octets (newline k ++ literal e.1 ++ ": " ++ prettyAt k e.2) = entryLine k e := by
    rw [octets_append, octets_append, octets_append, octets_literal, entryLine, entryText,
      List.append_assoc, List.append_assoc]
    rfl
  induction fields generalizing e with
  | nil =>
      rw [List.flatMap_nil, List.append_nil, ← hline]
      rfl
  | cons f fields ih =>
      have hcons : prettyFields k (e :: f :: fields) =
          newline k ++ literal e.1 ++ ": " ++ prettyAt k e.2 ++ "," ++
            prettyFields k (f :: fields) := by
        rw [prettyFields]
        exact List.cons_ne_nil _ _
      rw [hcons, octets_append, octets_append, hline, ih, List.flatMap_cons, List.append_assoc]
      rfl

theorem takes_entryText {e : String × Json}
    (h : Takes Ends (readValue depth) (octets (prettyAt k e.2)) e.2) :
    Takes Ends (readEntry (readValue depth)) (entryText k e) e := by
  intro x hx
  have hvalue : afterKey (readValue depth) (0x3A :: 0x20 :: (octets (prettyAt k e.2) ++ x)) =
      .ok (e.2, x) := by
    have hspace : ([0x20] : Bytes).all isSpace = true := rfl
    rw [afterKey, skipSpace_cons (by decide), ← h x hx]
    exact readValue_spaces hspace depth _
  rw [entryText, List.append_assoc, readEntry, takes_literal e.1 _ trivial]
  exact congrArg (Except.bind · fun r => .ok ((e.1, r.1), r.2)) hvalue

theorem moreEntries_lines (hspaces : spaces.all isSpace = true)
    (hfields : ∀ e ∈ fields, Takes Ends (readEntry (readValue depth)) (entryText k e) e)
    (acc : Object) {fuel : Nat} (hfuel : fields.length < fuel) (x : Bytes) :
    moreEntries (readValue depth) acc fuel
        ((fields.flatMap fun e => 0x2C :: entryLine k e) ++ (spaces ++ 0x7D :: x)) =
      .ok (fields.foldl (fun m e => m.insert e.1 e.2) acc, x) := by
  induction fields generalizing acc fuel with
  | nil =>
      obtain ⟨fuel, rfl⟩ := Nat.exists_eq_add_of_lt hfuel
      rw [List.flatMap_nil, List.nil_append,
        moreEntries_close (skipSpace_append_cons hspaces (by decide) x), List.foldl_nil]
  | cons e fields ih =>
      obtain ⟨he, hfields⟩ := List.forall_mem_cons.1 hfields
      obtain ⟨fuel, rfl⟩ := Nat.exists_eq_add_of_lt hfuel
      have hread := he _ (ends_commas (entryLine k) fields (ends_spaces hspaces
        (show Numeral.goesOn 0x7D = false by decide) x))
      rw [List.flatMap_cons, List.append_assoc, List.cons_append, entryLine, List.append_assoc,
        List.cons_append, moreEntries_comma (skipSpace_cons (by decide) _)
          (skipSpace_append_cons (all_isSpace_newline k) (by decide) _) hread,
        ih hfields _ (by rw [List.length_cons]; omega), List.foldl_cons]

/-- An object is read entry by entry. -/
theorem readEntries_lines {e : String × Json} (hspaces : spaces.all isSpace = true)
    (hsorted : Keyed.Sorted (e :: fields))
    (hfields : ∀ f ∈ e :: fields, Takes Ends (readEntry (readValue depth)) (entryText k f) f)
    (x : Bytes) :
    readEntries (readValue depth)
        (octets (prettyFields k (e :: fields)) ++ (spaces ++ 0x7D :: x)) =
      .ok (e :: fields, x) := by
  obtain ⟨he, hfields⟩ := List.forall_mem_cons.1 hfields
  have hread := he _ (ends_commas (entryLine k) fields (ends_spaces hspaces
    (show Numeral.goesOn 0x7D = false by decide) x))
  have hfuel : fields.length <
      ((fields.flatMap fun f => 0x2C :: entryLine k f) ++ (spaces ++ 0x7D :: x)).length + 1 := by
    have := length_le_commas (entryLine k) fields
    rw [List.length_append]
    omega
  have hmore := moreEntries_lines hspaces hfields (Keyed.insert [] e.1 e.2) hfuel x
  rw [octets_prettyFields, List.append_assoc, entryLine, List.append_assoc, List.cons_append,
    readEntries, skipSpace_append_cons (all_isSpace_newline k) (by decide)]
  simp only [hread, hmore]
  exact congrArg (Except.ok <| Prod.mk · x) (Keyed.foldl_insert_of_sorted (m := [e]) hsorted)

end

/-! ## Values -/

/-- The text of a number is read as that number. -/
def Number.ReadsBack (n : Number) : Prop := readValue 0 (octets n.text) = .ok (.number n, [])

instance (n : Number) : Decidable n.ReadsBack := inferInstanceAs (Decidable (_ = _))

/-- An integer that fits 64 bits, with or without a sign, is read back. -/
theorem Number.readsBack_integer {z : Int} (hlow : -0x8000000000000000 ≤ z)
    (hhigh : z ≤ Numeral.maxInteger) : (Number.integer z).ReadsBack := by
  rw [ReadsBack, text, Int.toString_eq_repr, Int.repr_eq_if]
  split
  · rename_i hnonneg
    obtain ⟨n, rfl⟩ := Int.eq_ofNat_of_zero_le hnonneg
    obtain ⟨b, s, hbs, hb⟩ := Numeral.encode_toDigits n
    have htext : octets (Int.toNat n).repr = b :: s := by
      rw [Int.toNat_natCast, Nat.repr, octets, String.toList_ofList, hbs]
    have hread := Numeral.read_toDigits false (n := n) (by exact_mod_cast hhigh)
    rw [htext, readValue_digit hb, ← hbs, hread]
    rfl
  · rename_i hneg
    obtain ⟨n, rfl⟩ := Int.exists_eq_neg_ofNat (Int.le_of_lt (Int.not_le.1 hneg))
    have htext : octets ("-" ++ (Int.toNat (- -n)).repr) =
        0x2D :: encode (Nat.toDigits 10 n) := by
      rw [Int.neg_neg, Int.toNat_natCast, Nat.repr, octets_append, octets, octets,
        String.toList_ofList, String.toList_ofList]
      rfl
    have hread : Numeral.read true (encode (Nat.toDigits 10 n)) = .ok (.integer (-n), []) := by
      rw [Numeral.read_toDigits true (by unfold Numeral.maxInteger; omega)]
      exact if_neg (by omega)
    rw [htext, readValue_scalar (by decide) (by decide) (by decide)]
    exact congrArg (Except.map _) hread

/-- A value that is read as itself once it is printed: its numbers are, the keys of its objects are
in order, and at most `depth` containers stand inside one another. -/
inductive Lasting : Nat → Json → Prop
  | null {depth : Nat} : Lasting depth .null
  | bool {depth : Nat} (b : Bool) : Lasting depth (.bool b)
  | number {depth : Nat} {n : Number} : n.ReadsBack → Lasting depth (.number n)
  | string {depth : Nat} (s : String) : Lasting depth (.string s)
  | array {depth : Nat} {items : List Json} : (∀ v ∈ items, Lasting depth v) →
      Lasting (depth + 1) (.array items)
  | object {depth : Nat} {fields : Object} : Keyed.Sorted fields →
      (∀ e ∈ fields, Lasting depth e.2) → Lasting (depth + 1) (.object fields)

theorem octets_array (k : Nat) (v : Json) (items : List Json) :
    octets (prettyAt k (.array (v :: items))) =
      0x5B :: (octets (prettyItems (k + 1) (v :: items)) ++ (octets (newline k) ++ [0x5D])) := by
  have hcons : prettyAt k (.array (v :: items)) =
      "[" ++ prettyItems (k + 1) (v :: items) ++ newline k ++ "]" := by
    rw [prettyAt]
    exact List.cons_ne_nil _ _
  rw [hcons, octets_append, octets_append, octets_append, List.append_assoc, List.append_assoc]
  rfl

theorem octets_object (k : Nat) (e : String × Json) (fields : Object) :
    octets (prettyAt k (.object (e :: fields))) =
      0x7B :: (octets (prettyFields (k + 1) (e :: fields)) ++ (octets (newline k) ++ [0x7D])) := by
  have hcons : prettyAt k (.object (e :: fields)) =
      "\x7b" ++ prettyFields (k + 1) (e :: fields) ++ newline k ++ "\x7d" := by
    rw [prettyAt]
    exact List.cons_ne_nil _ _
  rw [hcons, octets_append, octets_append, octets_append, List.append_assoc, List.append_assoc]
  rfl

/-- A value that lasts is read, wherever it was printed, up to where its text ends. -/
theorem Lasting.takes {depth : Nat} {v : Json} (h : Lasting depth v) (k : Nat) :
    Takes Ends (readValue depth) (octets (prettyAt k v)) v := by
  -- Inside a container there is one level less to go and one step more of indentation.
  induction h generalizing k with
  | null =>
      rw [prettyAt]
      exact takes_of_zero (by decide) _
  | bool b =>
      cases b <;> exact takes_of_zero (by rw [prettyAt]; decide) _
  | number h =>
      rw [prettyAt]
      exact takes_of_zero h _
  | string s =>
      intro x _
      rw [prettyAt, octets_literal, List.cons_append, readValue_scalar (by decide) (by decide)
        (by decide), readScalar_quote, takes_literal s x trivial]
      rfl
  | @array depth items hitems ih =>
      cases items with
      | nil =>
          intro x _
          rw [prettyAt]
          exact readValue_cons (by decide) depth _
      | cons v items =>
          have hlines := readItems_lines (all_isSpace_newline k) fun w hw =>
            takes_itemLine (ih w hw (k + 1))
          intro x _
          rw [octets_array, List.cons_append, List.append_assoc, List.append_assoc,
            List.singleton_append, readValue_cons (by decide), if_pos rfl, hlines x]
          rfl
  | @object depth fields hsorted hfields ih =>
      cases fields with
      | nil =>
          intro x _
          rw [prettyAt]
          exact readValue_cons (by decide) depth _
      | cons e fields =>
          have hlines := readEntries_lines (all_isSpace_newline k) hsorted fun f hf =>
            takes_entryText (ih f hf (k + 1))
          intro x _
          rw [octets_object, List.cons_append, List.append_assoc, List.append_assoc,
            List.singleton_append, readValue_cons (by decide), if_neg (by decide), if_pos rfl,
            hlines x]
          rfl

/-! ## What is read lasts -/

/-- A value with numbers that are read back. -/
inductive Exact : Json → Prop
  | null : Exact .null
  | bool (b : Bool) : Exact (.bool b)
  | number {n : Number} : n.ReadsBack → Exact (.number n)
  | string (s : String) : Exact (.string s)
  | array {items : List Json} : (∀ v ∈ items, Exact v) → Exact (.array items)
  | object {fields : Object} : (∀ e ∈ fields, Exact e.2) → Exact (.object fields)

section

variable {P : Json → Prop} {item : Bytes → Read Json} {s rest : Bytes}

theorem forall_of_moreItems (hitem : ∀ s v rest, item s = .ok (v, rest) → P v)
    {acc vs : List Json} (hacc : ∀ v ∈ acc, P v) {fuel : Nat}
    (h : moreItems item acc fuel s = .ok (vs, rest)) : ∀ v ∈ vs, P v := by
  induction fuel generalizing acc s with
  | zero => cases h
  | succ fuel ih =>
      obtain ⟨fuel, hfuel, ⟨-, rfl⟩ | ⟨_, _, _, v, s', -, -, -, hread, h⟩⟩ := moreItems_ok h
      · exact fun v hv => hacc v (List.mem_reverse.1 hv)
      · cases hfuel
        exact ih (List.forall_mem_cons.2 ⟨hitem _ _ _ hread, hacc⟩) h

/-- The items of a list are read one by one. -/
theorem forall_of_readItems (hitem : ∀ s v rest, item s = .ok (v, rest) → P v) {vs : List Json}
    (h : readItems item s = .ok (vs, rest)) : ∀ v ∈ vs, P v := by
  rw [readItems] at h
  split at h
  · cases h
  · cases h
    exact fun v hv => absurd hv List.not_mem_nil
  · split at h
    · rename_i v s' hread
      exact forall_of_moreItems hitem (List.forall_mem_singleton.2 (hitem _ _ _ hread)) h
    · cases h

theorem exists_of_afterKey {v : Json} (h : afterKey item s = .ok (v, rest)) :
    ∃ t, item t = .ok (v, rest) := by
  rw [afterKey] at h
  split at h
  · cases h
  · exact ⟨_, h⟩
  · cases h

theorem of_readEntry (hitem : ∀ s v rest, item s = .ok (v, rest) → P v) {e : String × Json}
    (h : readEntry item s = .ok (e, rest)) : P e.2 := by
  have hbind : Except.bind (readString s) (fun r =>
      (afterKey item r.2).map fun p => ((r.1, p.1), p.2)) = .ok (e, rest) := h
  cases hkey : readString s with
  | error fault =>
      rw [hkey] at hbind
      cases hbind
  | ok r =>
      rw [hkey] at hbind
      obtain ⟨v, hvalue, rfl⟩ := exists_of_map hbind
      obtain ⟨t, hread⟩ := exists_of_afterKey hvalue
      exact hitem t v rest hread

theorem forall_of_moreEntries (hitem : ∀ s v rest, item s = .ok (v, rest) → P v)
    {acc fields : Object} (hsorted : Keyed.Sorted acc) (hacc : ∀ e ∈ acc, P e.2) {fuel : Nat}
    (h : moreEntries item acc fuel s = .ok (fields, rest)) :
    Keyed.Sorted fields ∧ ∀ e ∈ fields, P e.2 := by
  induction fuel generalizing acc s with
  | zero => cases h
  | succ fuel ih =>
      obtain ⟨fuel, hfuel, ⟨-, rfl⟩ | ⟨_, _, key, v, s', -, -, hread, h⟩⟩ := moreEntries_ok h
      · exact ⟨hsorted, hacc⟩
      · cases hfuel
        refine ih (hsorted.insert key v) (fun e he => ?_) h
        rcases Keyed.mem_insert he with rfl | he
        · exact of_readEntry hitem hread
        · exact hacc e he

/-- The entries of an object are read one by one and put in order. -/
theorem forall_of_readEntries (hitem : ∀ s v rest, item s = .ok (v, rest) → P v)
    {fields : Object} (h : readEntries item s = .ok (fields, rest)) :
    Keyed.Sorted fields ∧ ∀ e ∈ fields, P e.2 := by
  rw [readEntries] at h
  split at h
  · cases h
  · cases h
    exact ⟨.nil, fun e he => absurd he List.not_mem_nil⟩
  · split at h
    · rename_i key v s' hread
      exact forall_of_moreEntries hitem (List.pairwise_singleton _ _)
        (List.forall_mem_singleton.2 (of_readEntry hitem hread)) h
    · cases h
  · cases h

end

/-- A value that is read is a scalar, or a container with values that are read one level in. -/
theorem readValue_ok {depth : Nat} {s rest : Bytes} {v : Json}
    (h : readValue depth s = .ok (v, rest)) : (∃ b t, readScalar b t = .ok (v, rest)) ∨
      ∃ inner t, depth = inner + 1 ∧
        ((∃ items, readItems (readValue inner) t = .ok (items, rest) ∧ .array items = v) ∨
          ∃ fields, readEntries (readValue inner) t = .ok (fields, rest) ∧ .object fields = v) := by
  rw [readValue.eq_def] at h
  simp only at h
  split at h
  · cases h
  · split_ifs at h
    · split at h
      · cases h
      · exact .inr ⟨_, _, rfl, .inl (exists_of_map h)⟩
    · split at h
      · cases h
      · exact .inr ⟨_, _, rfl, .inr (exists_of_map h)⟩
    · exact .inl ⟨_, _, h⟩

/-- What is read is in order and not too deep, so it lasts if its numbers do. -/
theorem Exact.lasting_of_readValue {depth : Nat} {s rest : Bytes} {v : Json} (hv : v.Exact)
    (h : readValue depth s = .ok (v, rest)) : Lasting depth v := by
  induction depth using Nat.strongRecOn generalizing s rest v with
  | ind depth ih =>
      rcases readValue_ok h with ⟨b, t, hscalar⟩ | ⟨inner, t, rfl, hlist | hobject⟩
      · cases hv with
        | null => exact .null
        | bool b => exact .bool b
        | number hn => exact .number hn
        | string s => exact .string s
        | array => exact absurd hscalar readScalar_ne_array
        | object => exact absurd hscalar readScalar_ne_object
      · obtain ⟨items, hread, rfl⟩ := hlist
        cases hv with
        | array hitems =>
            have hlasting := forall_of_readItems (P := fun v => v.Exact → Lasting inner v)
              (fun s v rest h hv => ih inner (Nat.lt_succ_self inner) hv h) hread
            exact .array fun v hv => hlasting v hv (hitems v hv)
      · obtain ⟨fields, hread, rfl⟩ := hobject
        cases hv with
        | object hfields =>
            obtain ⟨hsorted, hlasting⟩ := forall_of_readEntries
              (P := fun v => v.Exact → Lasting inner v)
              (fun s v rest h hv => ih inner (Nat.lt_succ_self inner) hv h) hread
            exact .object hsorted fun e he => hlasting e he (hfields e he)

/-! ## Objects as whole texts -/

theorem readObject_eq_ok {s rest : Bytes} {o : Object} :
    readObject s = .ok (o, rest) ↔ readValue depthLimit s = .ok (.object o, rest) := by
  constructor
  · intro h
    rw [readObject] at h
    split at h
    · cases h
    · rename_i t hs
      rw [← readValue_skipSpace, hs, depthLimit, readValue_cons (by decide)]
      exact congrArg (Except.map _) h
    · cases h
    · split at h <;> cases h
  · intro h
    obtain ⟨spaces, t, rfl, hspaces, hread⟩ := readValue_eq_object 126 h
    rw [readObject, skipSpace_append_cons hspaces (by decide)]
    exact hread

theorem parseObject_eq_ok {text : Bytes} {o : Object} (h : parseObject text = .ok o) :
    ∃ rest, readValue depthLimit text = .ok (.object o, rest) := by
  rw [parseObject] at h
  cases hread : toEnd (readObject text) with
  | error fault =>
      rw [hread] at h
      cases h
  | ok o' =>
      rw [hread] at h
      cases h
      obtain ⟨rest, hobject, -⟩ := toEnd_eq_ok hread
      exact ⟨rest, readObject_eq_ok.1 hobject⟩

/-- An object that was read from a text lasts if its numbers do. -/
theorem Exact.lasting_of_parseObject {text : Bytes} {o : Object} (ho : (Json.object o).Exact)
    (h : parseObject text = .ok o) : Lasting depthLimit (.object o) := by
  obtain ⟨rest, hread⟩ := parseObject_eq_ok h
  exact ho.lasting_of_readValue hread

theorem brace_mem_of_parseObject {text : Bytes} {o : Object} (h : parseObject text = .ok o) :
    0x7B ∈ text := by
  obtain ⟨rest, hread⟩ := parseObject_eq_ok h
  obtain ⟨spaces, t, rfl, -, -⟩ := readValue_eq_object 126 hread
  exact List.mem_append_right _ List.mem_cons_self

/-- An object that lasts is read from its text, between white space at the end. -/
theorem Lasting.parseObject_pretty {o : Object} (h : Lasting depthLimit (.object o))
    {spaces : Bytes} (hspaces : spaces.all isSpace = true) :
    parseObject (octets (pretty (.object o)) ++ spaces) = .ok o := by
  have hends : Ends spaces := by
    cases spaces with
    | nil => rfl
    | cons b spaces =>
        rw [List.all_cons, Bool.and_eq_true] at hspaces
        exact goesOn_of_isSpace hspaces.1
  have hread := readObject_eq_ok.2 (h.takes 0 spaces hends)
  rw [pretty, parseObject, hread, toEnd_of_isSpace o hspaces]
  rfl

end Json

end ClusterRpc
