import ClusterRpc.Json.Reader
import Mathlib.Tactic.SplitIfs

/-!
# How far a reader of JSON reads

What a reader takes in is a piece at the front of its text. Which piece, and what it says, does not
depend on what follows; only a number has to be followed by something that does not go on with it.
No control character but white space is ever taken in.
-/

namespace ClusterRpc.Json

/-- Not a control character, or white space. -/
def isPlain (b : UInt8) : Bool := isSpace b || 0x20 ≤ b

/-- An octet that a number may go on with after a digit. -/
def Numeral.goesOn (b : UInt8) : Bool := isDigit b || b = 0x2E || b = 0x65 || b = 0x45

/-- No such octet comes next. -/
def Clear (p : UInt8 → Bool) (s : Bytes) : Prop := s.head?.any p = false

/-- No number goes on with this. -/
def Ends : Bytes → Prop := Clear Numeral.goesOn

/-- The reader takes `used` in and makes `v` of it before everything that satisfies `P`. -/
def Takes {α : Type} (P : Bytes → Prop) (r : Bytes → Read α) (used : Bytes) (v : α) : Prop :=
  ∀ x, P x → r (used ++ x) = .ok (v, x)

/-- What the reader takes in is a plain piece at the front, and it takes that piece in whatever
follows. -/
def Reads {α : Type} (P : Bytes → Prop) (r : Bytes → Read α) : Prop :=
  ∀ s v rest, r s = .ok (v, rest) →
    ∃ used, s = used ++ rest ∧ used.all isPlain = true ∧ Takes P r used v

/-- Nothing is asked of what follows. -/
def Any : Bytes → Prop := fun _ => True

theorem Clear.mono {p q : UInt8 → Bool} (h : ∀ b, q b = true → p b = true) {s : Bytes}
    (hs : Clear p s) : Clear q s := by
  cases s with
  | nil => rfl
  | cons b s =>
      have hs : p b = false := hs
      cases hq : q b with
      | true => rw [h b hq] at hs; cases hs
      | false => exact hq

/-- What comes next is told by the piece that is taken in, or else by what follows it. -/
theorem Clear.append {p : UInt8 → Bool} {used rest x : Bytes} (h : Clear p (used ++ rest))
    (hx : Clear p x) : Clear p (used ++ x) := by
  cases used with
  | nil => exact hx
  | cons b used => exact h

section

variable {α β : Type} {P : Bytes → Prop}

theorem reads_stop (cause : Cause) : Reads P (stop cause : Bytes → Read α) := nofun

theorem reads_pure (a : α) : Reads P fun s => .ok (a, s) := by
  intro s v rest h
  cases h
  exact ⟨[], rfl, rfl, fun _ _ => rfl⟩

theorem Reads.mono {r : Bytes → Read α} (h : Reads Any r) : Reads P r := by
  intro s v rest hs
  obtain ⟨used, rfl, hplain, htakes⟩ := h s v rest hs
  exact ⟨used, rfl, hplain, fun x _ => htakes x trivial⟩

/-- One reader after the other. -/
theorem Reads.bind {r : Bytes → Read α} {f : α → Bytes → Read β} (hr : Reads Any r)
    (hf : ∀ a, Reads P (f a)) : Reads P fun s => Except.bind (r s) fun p => f p.1 p.2 := by
  intro s v rest h
  cases hs : r s with
  | error e => simp [hs, Except.bind] at h
  | ok p =>
      obtain ⟨a, t⟩ := p
      obtain ⟨used, rfl, hplain, htakes⟩ := hr s a t hs
      simp only [hs, Except.bind] at h
      obtain ⟨used', rfl, hplain', htakes'⟩ := hf a t v rest h
      refine ⟨used ++ used', by rw [List.append_assoc], ?_, fun x hx => ?_⟩
      · rw [List.all_append, hplain, hplain']
        rfl
      · simp only [List.append_assoc, htakes _ trivial, Except.bind, htakes' x hx]

theorem Reads.map {r : Bytes → Read α} (hr : Reads P r) (f : α → β) :
    Reads P fun s => (r s).map fun p => (f p.1, p.2) := by
  intro s v rest h
  cases hs : r s with
  | error e => simp [hs, Except.map] at h
  | ok p =>
      obtain ⟨a, t⟩ := p
      obtain ⟨used, rfl, hplain, htakes⟩ := hr s a t hs
      simp only [hs, Except.map, Except.ok.injEq, Prod.mk.injEq] at h
      obtain ⟨rfl, rfl⟩ := h
      exact ⟨used, rfl, hplain, fun x hx => by simp only [htakes x hx, Except.map]⟩

theorem exists_of_map {r : Read α} {f : α → β} {v : β} {rest : Bytes}
    (h : (r.map fun p => (f p.1, p.2)) = .ok (v, rest)) : ∃ a, r = .ok (a, rest) ∧ f a = v := by
  cases r with
  | error e => cases h
  | ok p =>
      cases h
      exact ⟨_, rfl, rfl⟩

/-- A reader is known by what it does after each first octet. -/
theorem Reads.of_cons {r : Bytes → Read α} (hnil : ∀ v rest, r [] ≠ .ok (v, rest))
    (hcons : ∀ b s v rest, r (b :: s) = .ok (v, rest) →
      isPlain b = true ∧ Reads P fun s => r (b :: s)) : Reads P r := by
  intro s v rest h
  cases s with
  | nil => exact absurd h (hnil v rest)
  | cons b s =>
      obtain ⟨hb, hr⟩ := hcons b s v rest h
      obtain ⟨used, rfl, hplain, htakes⟩ := hr s v rest h
      exact ⟨b :: used, rfl, by rw [List.all_cons, hb, hplain]; rfl, htakes⟩

end

/-! ## White space -/

section

variable {s t spaces : Bytes} {b : UInt8}

theorem skipSpace_append (h : spaces.all isSpace = true) (s : Bytes) :
    skipSpace (spaces ++ s) = skipSpace s :=
  List.dropWhile_append_of_pos (List.all_eq_true.1 h)

theorem skipSpace_cons (h : isSpace b = false) (s : Bytes) : skipSpace (b :: s) = b :: s :=
  List.dropWhile_cons_of_neg (by rw [h]; exact Bool.false_ne_true)

/-- What is skipped is white space, up to an octet that is not. -/
theorem skipSpace_spec (s : Bytes) : ∃ spaces, s = spaces ++ skipSpace s ∧
    spaces.all isSpace = true ∧ (skipSpace s).head?.any isSpace = false := by
  induction s with
  | nil => exact ⟨[], rfl, rfl, rfl⟩
  | cons b s ih =>
      cases hb : isSpace b with
      | true =>
          obtain ⟨spaces, hs, hall, hhead⟩ := ih
          have hskip : skipSpace (b :: s) = skipSpace s := List.dropWhile_cons_of_pos hb
          refine ⟨b :: spaces, ?_, by rw [List.all_cons, hb, hall]; rfl, by rwa [hskip]⟩
          rw [hskip, List.cons_append, ← hs]
      | false =>
          refine ⟨[], by rw [skipSpace_cons hb]; rfl, rfl, ?_⟩
          rw [skipSpace_cons hb]
          exact hb

theorem skipSpace_eq_cons (h : skipSpace s = b :: t) : ∃ spaces, s = spaces ++ b :: t ∧
    spaces.all isSpace = true ∧ isSpace b = false := by
  obtain ⟨spaces, hs, hall, hhead⟩ := skipSpace_spec s
  rw [h] at hs hhead
  exact ⟨spaces, hs, hall, hhead⟩

theorem skipSpace_append_cons (h : spaces.all isSpace = true) (hb : isSpace b = false) (s : Bytes) :
    skipSpace (spaces ++ b :: s) = b :: s := by
  rw [skipSpace_append h, skipSpace_cons hb]

theorem isPlain_of_isSpace (h : isSpace b = true) : isPlain b = true := by
  rw [isPlain, h, Bool.true_or]

theorem all_isPlain_of_isSpace (h : spaces.all isSpace = true) : spaces.all isPlain = true :=
  List.all_eq_true.2 fun b hb => isPlain_of_isSpace (List.all_eq_true.1 h b hb)

theorem isPlain_of_le (h : 0x20 ≤ b) : isPlain b = true := by
  rw [isPlain, decide_eq_true h, Bool.or_true]

end

/-! ## Words and strings -/

theorem reads_keyword {word : Bytes} (hword : word.all isPlain = true) :
    Reads Any (keyword word) := by
  intro s v rest h
  refine ⟨word, ?_, hword, ?_⟩
  · induction word generalizing s with
    | nil => cases h; rfl
    | cons w word ih =>
        rw [List.all_cons, Bool.and_eq_true] at hword
        cases s with
        | nil => cases h
        | cons b s =>
            rw [keyword] at h
            split at h
            · rename_i hb
              rw [hb, List.cons_append, ← ih hword.2 s h]
            · cases h
  · intro x _
    clear h hword
    induction word with
    | nil => rfl
    | cons w word ih => rw [List.cons_append, keyword, if_pos rfl, ih]

theorem isPlain_of_hexDigit? {b : UInt8} {n : Nat} (h : hexDigit? b = some n) :
    isPlain b = true := by
  have hle {c : UInt8} (hc : (0x20 : UInt8) ≤ c) (h : c ≤ b) : isPlain b = true :=
    isPlain_of_le (UInt8.le_trans hc h)
  simp only [hexDigit?, Bool.and_eq_true, decide_eq_true_eq] at h
  split at h
  · rename_i hb
    exact hle (by decide) hb.1
  · split at h
    · rename_i hb
      exact hle (by decide) hb.1
    · split at h
      · rename_i hb
        exact hle (by decide) hb.1
      · cases h

theorem reads_fourHex : Reads Any fourHex := by
  intro s v rest h
  match s with
  | a :: b :: c :: d :: s =>
      simp only [fourHex] at h
      split at h
      · rename_i ha hb hc hd
        cases h
        refine ⟨[a, b, c, d], rfl, ?_, fun x _ => ?_⟩
        · simp [isPlain_of_hexDigit? ha, isPlain_of_hexDigit? hb, isPlain_of_hexDigit? hc,
            isPlain_of_hexDigit? hd]
        · simp [fourHex, ha, hb, hc, hd]
      · cases h
  | [] | [_] | [_, _] | [_, _, _] => cases h

theorem reads_pairOctet {expected : UInt8} (he : isPlain expected = true) :
    Reads Any (pairOctet expected) := by
  intro s v rest h
  cases s with
  | nil => cases h
  | cons b s =>
      rw [pairOctet] at h
      split at h
      · rename_i hb
        cases h
        subst hb
        exact ⟨[b], rfl, by rw [List.all_cons, he]; rfl, fun x _ => if_pos rfl⟩
      · cases h

/-- Reads the second code unit of a pair, with its mark. -/
def pairedUnit (high : Nat) (s : Bytes) : Read Char :=
  Except.bind (pairOctet 0x5C s) fun p => Except.bind (pairOctet 0x75 p.2) fun p =>
    Except.bind (fourHex p.2) fun p =>
      if isLowSurrogate p.1 then
        .ok (Char.ofNat (0x10000 + (high - 0xD800) * 0x400 + (p.1 - 0xDC00)), p.2)
      else stop .loneSurrogate p.2

/-- Reads what follows the first code unit of an escape. -/
def afterUnit (high : Nat) (s : Bytes) : Read Char :=
  if isLowSurrogate high then stop .loneSurrogate s
  else if !isHighSurrogate high then .ok (Char.ofNat high, s)
  else pairedUnit high s

theorem unicodeEscape_eq :
    unicodeEscape = fun s => Except.bind (fourHex s) fun p => afterUnit p.1 p.2 := rfl

theorem reads_pairedUnit (high : Nat) : Reads Any (pairedUnit high) := by
  have hlow (low : Nat) : Reads Any fun s : Bytes => if isLowSurrogate low then
      (.ok (Char.ofNat (0x10000 + (high - 0xD800) * 0x400 + (low - 0xDC00)), s) : Read Char)
      else stop .loneSurrogate s := by
    split
    · exact reads_pure _
    · exact reads_stop _
  exact (reads_pairOctet (by decide)).bind fun _ => (reads_pairOctet (by decide)).bind fun _ =>
    reads_fourHex.bind hlow

theorem reads_unicodeEscape : Reads Any unicodeEscape := by
  rw [unicodeEscape_eq]
  refine reads_fourHex.bind fun high => ?_
  unfold afterUnit
  split
  · exact reads_stop _
  · split
    · exact reads_pure _
    · exact reads_pairedUnit high

theorem reads_escape : Reads Any escape := by
  refine .of_cons nofun fun b s c rest h => ?_
  rw [escape.eq_def] at h
  split at h
  case h_1 => cases ‹_ :: _ = []›
  case h_11 => cases h
  case h_10 heq =>
    cases heq
    exact ⟨by decide, reads_unicodeEscape⟩
  all_goals
    rename_i heq
    cases heq
    exact ⟨by decide, reads_pure _⟩

/-- What follows the octets of a string in the text matters only for the place of a fault. -/
theorem finishString_ok_iff {octets : List (UInt8 × Bytes)} {s rest : Bytes} {text : String} :
    finishString octets s = .ok (text, rest) ↔ rest = s ∧
      (Utf8.decode (octets.map Prod.fst).reverse).map String.ofList = .ok text := by
  rw [finishString, List.map_reverse]
  cases Utf8.decode (octets.map Prod.fst).reverse with
  | ok cs =>
      simp only [Except.map, Except.ok.injEq, Prod.mk.injEq]
      exact ⟨fun h => ⟨h.2.symm, h.1⟩, fun h => ⟨h.2, h.1.symm⟩⟩
  | error after =>
      simp only [Except.map, reduceCtorEq, and_false, iff_false]
      split <;> nofun

/-- The octets read, after a character that was escaped. -/
def unescaped (c : Char) (rest : Bytes) (octets : List (UInt8 × Bytes)) : List (UInt8 × Bytes) :=
  (String.utf8EncodeChar c).map (·, rest) |>.reverse |>.append octets

section

variable {octets : List (UInt8 × Bytes)} {fuel : Nat} {s t rest : Bytes} {b : UInt8} {c : Char}
  {text : String}

theorem stringFrom_quote : stringFrom octets (fuel + 1) (0x22 :: s) = finishString octets s := rfl

theorem stringFrom_escape (h : escape s = .ok (c, t)) :
    stringFrom octets (fuel + 1) (0x5C :: s) = stringFrom (unescaped c t octets) fuel t := by
  rw [stringFrom, if_neg (by decide), if_pos rfl, h]
  rfl

theorem stringFrom_plain (hquote : b ≠ 0x22) (hescape : b ≠ 0x5C) (hplain : 0x20 ≤ b) :
    stringFrom octets (fuel + 1) (b :: s) = stringFrom ((b, s) :: octets) fuel s := by
  rw [stringFrom, if_neg hquote, if_neg hescape, if_neg (UInt8.not_lt.2 hplain)]

/-- What a string goes on with: its closing quote, an escape or an octet as it is. -/
theorem stringFrom_ok (h : stringFrom octets fuel s = .ok (text, rest)) :
    ∃ fuel' b t, fuel = fuel' + 1 ∧ s = b :: t ∧
      ((b = 0x22 ∧ finishString octets t = .ok (text, rest)) ∨
        (b = 0x5C ∧ ∃ c t', escape t = .ok (c, t') ∧
          stringFrom (unescaped c t' octets) fuel' t' = .ok (text, rest)) ∨
        (b ≠ 0x22 ∧ b ≠ 0x5C ∧ 0x20 ≤ b ∧
          stringFrom ((b, t) :: octets) fuel' t = .ok (text, rest))) := by
  cases fuel with
  | zero => cases h
  | succ fuel =>
      cases s with
      | nil => cases h
      | cons b t =>
          refine ⟨fuel, b, t, rfl, rfl, ?_⟩
          rw [stringFrom] at h
          split_ifs at h with hquote hescape hcontrol
          · exact .inl ⟨hquote, h⟩
          · split at h
            · rename_i c t' hc
              exact .inr (.inl ⟨hescape, c, t', hc, h⟩)
            · cases h
          · cases h
          · exact .inr (.inr ⟨hquote, hescape, UInt8.not_lt.1 hcontrol, h⟩)

/-- A string is read up to its closing quote with enough fuel for it. -/
theorem takes_stringFrom (h : stringFrom octets fuel s = .ok (text, rest)) :
    ∃ used, s = used ++ rest ∧ used.all isPlain = true ∧ ∀ octets' fuel' x,
      octets'.map Prod.fst = octets.map Prod.fst → used.length ≤ fuel' →
        stringFrom octets' fuel' (used ++ x) = .ok (text, x) := by
  induction fuel generalizing octets s with
  | zero => cases h
  | succ fuel ih =>
      obtain ⟨fuel, b, t, hfuel, rfl, hquote | hescape | hplain⟩ := stringFrom_ok h
      · obtain ⟨rfl, hfinish⟩ := hquote
        obtain ⟨rfl, hdecode⟩ := finishString_ok_iff.1 hfinish
        refine ⟨[0x22], rfl, by decide, fun octets' fuel' x hoctets hlt => ?_⟩
        obtain ⟨fuel', rfl⟩ := Nat.exists_eq_add_of_lt hlt
        rw [List.singleton_append, stringFrom_quote, finishString_ok_iff, hoctets]
        exact ⟨rfl, hdecode⟩
      · obtain ⟨rfl, c, t', hc, hrest⟩ := hescape
        cases hfuel
        obtain ⟨taken, rfl, hplain, htakes⟩ := reads_escape _ _ _ hc
        obtain ⟨used, rfl, hplain', htakes'⟩ := ih hrest
        refine ⟨0x5C :: (taken ++ used), by rw [List.cons_append, List.append_assoc], ?_,
          fun octets' fuel' x hoctets hlt => ?_⟩
        · rw [List.all_cons, List.all_append, hplain, hplain']
          decide
        · rw [List.length_cons, List.length_append] at hlt
          obtain ⟨fuel', rfl⟩ := Nat.exists_eq_add_of_lt hlt
          rw [List.cons_append, List.append_assoc, stringFrom_escape (htakes _ trivial)]
          exact htakes' _ _ x (by simp [unescaped, hoctets]) (by omega)
      · obtain ⟨hquote, hescape, hcontrol, hrest⟩ := hplain
        cases hfuel
        obtain ⟨used, rfl, hplain, htakes⟩ := ih hrest
        refine ⟨b :: used, rfl, ?_, fun octets' fuel' x hoctets hlt => ?_⟩
        · rw [List.all_cons, hplain, isPlain_of_le hcontrol]
          rfl
        · rw [List.length_cons] at hlt
          obtain ⟨fuel', rfl⟩ := Nat.exists_eq_add_of_lt hlt
          rw [List.cons_append, stringFrom_plain hquote hescape hcontrol]
          exact htakes _ _ x (by simp [hoctets]) (by omega)

end

theorem reads_readString : Reads Any readString := by
  intro s text rest h
  obtain ⟨used, rfl, hplain, htakes⟩ := takes_stringFrom h
  refine ⟨used, rfl, hplain, fun x _ => htakes [] _ x rfl ?_⟩
  rw [List.length_append]
  omega

/-! ## Numbers -/

namespace Numeral

theorem isPlain_of_isDigit {b : UInt8} (h : isDigit b = true) : isPlain b = true := by
  rw [isDigit, Bool.and_eq_true, decide_eq_true_eq, decide_eq_true_eq] at h
  exact isPlain_of_le (UInt8.le_trans (by decide) h.1)

theorem all_isPlain_of_isDigit {digits : Bytes} (h : digits.all isDigit = true) :
    digits.all isPlain = true :=
  List.all_eq_true.2 fun b hb => isPlain_of_isDigit (List.all_eq_true.1 h b hb)

theorem goesOn_of_isDigit {b : UInt8} (h : isDigit b = true) : goesOn b = true := by
  simp only [goesOn, h, Bool.true_or]

/-- No digit comes next. -/
def Stops : Bytes → Prop := Clear isDigit

theorem Stops.of_ends {s : Bytes} (h : Ends s) : Stops s := h.mono fun _ => goesOn_of_isDigit

theorem stops_dropWhile (s : Bytes) : Stops (s.dropWhile isDigit) := by
  induction s with
  | nil => rfl
  | cons b s ih =>
      cases hb : isDigit b with
      | true => rwa [List.dropWhile_cons_of_pos hb]
      | false =>
          rw [List.dropWhile_cons_of_neg (by rw [hb]; exact Bool.false_ne_true)]
          exact hb

section

variable {digits s : Bytes}

theorem dropWhile_append (h : digits.all isDigit = true) (hs : Stops s) :
    (digits ++ s).dropWhile isDigit = s := by
  rw [List.dropWhile_append_of_pos (List.all_eq_true.1 h)]
  cases s with
  | nil => rfl
  | cons b s => exact List.dropWhile_cons_of_neg (Bool.eq_false_iff.1 hs)

theorem takeWhile_append (h : digits.all isDigit = true) (hs : Stops s) :
    (digits ++ s).takeWhile isDigit = digits := by
  rw [List.takeWhile_append_of_pos (List.all_eq_true.1 h)]
  cases s with
  | nil => exact List.append_nil _
  | cons b s =>
      have hb : isDigit b = false := hs
      rw [List.takeWhile_cons_of_neg (Bool.eq_false_iff.1 hb), List.append_nil]

end

/-- A reader is known by what it does after all digits at the front. -/
theorem reads_of_digits {α : Type} {r : Bytes → Read α}
    (h : ∀ digits, digits.all isDigit = true →
      ∃ r' : Bytes → Read α, Reads Ends r' ∧ ∀ s, Stops s → r (digits ++ s) = r' s) :
    Reads Ends r := by
  intro s v rest hs
  have hall : (s.takeWhile isDigit).all isDigit = true := List.all_takeWhile
  obtain ⟨r', hreads, hr'⟩ := h _ hall
  have hsplit : s.takeWhile isDigit ++ s.dropWhile isDigit = s := List.takeWhile_append_dropWhile
  have hstops := stops_dropWhile s
  generalize s.takeWhile isDigit = digits, s.dropWhile isDigit = s' at hall hr' hsplit hstops
  subst hsplit
  rw [hr' _ hstops] at hs
  obtain ⟨used, rfl, hplain, htakes⟩ := hreads _ _ _ hs
  refine ⟨digits ++ used, by rw [List.append_assoc], ?_, fun x hx => ?_⟩
  · rw [List.all_append, all_isPlain_of_isDigit hall, hplain]
    rfl
  · rw [List.append_assoc, hr' _ (Clear.append hstops (Stops.of_ends hx)), htakes x hx]

/-- A reader is known by what it does after each octet that it takes for a mark, and what it does
without one. -/
theorem reads_of_mark {α : Type} {r : Bytes → Read α} (mark : UInt8 → Bool) (r' : Bytes → Read α)
    (hmark : ∀ b, mark b = true → goesOn b = true) (hr' : Reads Ends r')
    (hwithout : ∀ s, Clear mark s → r s = r' s)
    (hwith : ∀ b, mark b = true → isPlain b = true ∧ Reads Ends fun s => r (b :: s)) :
    Reads Ends r := by
  intro s v rest h
  cases hs : s.head?.any mark with
  | true =>
      cases s with
      | nil => cases hs
      | cons b s =>
          obtain ⟨hb, hr⟩ := hwith b hs
          obtain ⟨used, rfl, hplain, htakes⟩ := hr s v rest h
          exact ⟨b :: used, rfl, by rw [List.all_cons, hb, hplain]; rfl, htakes⟩
  | false =>
      rw [hwithout s hs] at h
      obtain ⟨used, rfl, hplain, htakes⟩ := hr' s v rest h
      refine ⟨used, rfl, hplain, fun x hx => ?_⟩
      rw [hwithout _ (Clear.append hs (hx.mono hmark)), htakes x hx]

section

variable {negative : Bool} {significand : Nat} {exponent : Int}

theorem reads_real {P : Bytes → Prop} : Reads P (real negative significand exponent) := by
  unfold real
  split
  · exact reads_pure _
  · exact reads_stop _

/-- The digits of an exponent are either all counted, or the ones after the one that is too many
are left over. -/
theorem exponentDigits_append {digits : Bytes} (h : digits.all isDigit = true) (n : Nat) :
    (∃ m, ∀ s, Stops s → exponentDigits n (digits ++ s) = (some m, s)) ∨
      ∃ left, left.all isDigit = true ∧
        ∀ s, exponentDigits n (digits ++ s) = (none, left ++ s) := by
  induction digits generalizing n with
  | nil =>
      refine .inl ⟨n, fun s hs => ?_⟩
      cases s with
      | nil => rfl
      | cons b s => exact if_neg (Bool.eq_false_iff.1 (show isDigit b = false from hs))
  | cons d digits ih =>
      rw [List.all_cons, Bool.and_eq_true] at h
      simp only [List.cons_append, exponentDigits, h.1, if_true]
      by_cases hmax : maxExponent < 10 * n + digit d
      · exact .inr ⟨digits, h.2, fun s => if_pos hmax⟩
      · simp only [if_neg hmax]
        exact ih h.2 _

/-- Goes on after the digits of an exponent. -/
def afterExponent (negative : Bool) (significand : Nat) (exponent : Int) (down : Bool) :
    Option Nat × Bytes → Read Number
  | (some n, rest) => real negative significand (if down then exponent - n else exponent + n) rest
  | (none, rest) =>
      if significand ≠ 0 ∧ !down then stop .numberOutOfRange rest
      else .ok (.real (.zero negative), rest.dropWhile isDigit)

/-- Reads an exponent after its sign. -/
def unsigned (negative : Bool) (significand : Nat) (exponent : Int) (down : Bool) (s : Bytes) :
    Read Number :=
  match s with
  | [] => stop .endInValue []
  | b :: rest =>
      if !isDigit b then stop .invalidNumber rest
      else afterExponent negative significand exponent down (exponentDigits (digit b) rest)

theorem reads_exponentDigits (down : Bool) (n : Nat) : Reads Ends fun s =>
    afterExponent negative significand exponent down (exponentDigits n s) := by
  refine reads_of_digits fun digits hdigits => ?_
  rcases exponentDigits_append hdigits n with ⟨m, hm⟩ | ⟨left, hleft, hnone⟩
  · exact ⟨_, reads_real, fun s hs => by rw [hm s hs]; rfl⟩
  · refine ⟨fun s => if significand ≠ 0 ∧ !down then stop .numberOutOfRange (left ++ s)
      else .ok (.real (.zero negative), s), ?_, fun s hs => ?_⟩
    · split
      · exact nofun
      · exact reads_pure _
    · rw [hnone s, afterExponent, dropWhile_append hleft hs]

theorem unsigned_plain {down : Bool} {b : UInt8} {s rest : Bytes} {v : Number}
    (h : unsigned negative significand exponent down (b :: s) = .ok (v, rest)) :
    isPlain b = true ∧
      Reads Ends fun s => unsigned negative significand exponent down (b :: s) := by
  cases hb : isDigit b with
  | false =>
      rw [unsigned, hb] at h
      cases h
  | true =>
      simp only [unsigned, hb, Bool.not_true, Bool.false_eq_true, if_false]
      exact ⟨isPlain_of_isDigit hb, reads_exponentDigits down _⟩

theorem reads_unsigned (down : Bool) :
    Reads Ends (unsigned negative significand exponent down) :=
  .of_cons nofun fun _ _ _ _ h => unsigned_plain h

theorem reads_exponentPart : Reads Ends (exponentPart negative significand exponent) := by
  refine .of_cons nofun fun b s v rest h => ?_
  by_cases hminus : b = 0x2D
  · subst hminus
    exact ⟨by decide, reads_unsigned true⟩
  · by_cases hplus : b = 0x2B
    · subst hplus
      exact ⟨by decide, reads_unsigned false⟩
    · have heq (s : Bytes) : exponentPart negative significand exponent (b :: s) =
          unsigned negative significand exponent false (b :: s) := by
        have hminus : (some b == some 0x2D) = false := by simpa using hminus
        have hplus : (some b == some 0x2B) = false := by simpa using hplus
        simp only [exponentPart, List.head?_cons, hminus, hplus, Bool.or_self, Bool.false_eq_true,
          if_false]
        rfl
      rw [heq] at h
      simpa only [heq] using unsigned_plain h

/-- The letter of an exponent. -/
def isLetter (b : UInt8) : Bool := b = 0x65 || b = 0x45

theorem reads_exponentOrEnd : Reads Ends (exponentOrEnd negative significand exponent) := by
  refine reads_of_mark isLetter (real negative significand exponent) ?_ reads_real ?_ ?_
  · intro b hb
    simp only [isLetter, Bool.or_eq_true, decide_eq_true_eq] at hb
    rcases hb with rfl | rfl <;> decide
  · intro s hs
    rw [exponentOrEnd.eq_def]
    split
    · cases hs
    · cases hs
    · rfl
  · intro b hb
    simp only [isLetter, Bool.or_eq_true, decide_eq_true_eq] at hb
    rcases hb with rfl | rfl
    · exact ⟨by decide, reads_exponentPart⟩
    · exact ⟨by decide, reads_exponentPart⟩

theorem reads_fraction : Reads Ends (fraction negative significand exponent) := by
  refine reads_of_digits fun digits hdigits => ?_
  refine ⟨fun s => if digits.isEmpty then
      stopAt (if s.isEmpty then .endInValue else .invalidNumber) s
    else exponentOrEnd negative (absorb significand digits).1
      (exponent - ((digits.length - (absorb significand digits).2.length : Nat) : Int)) s,
    ?_, fun s hs => ?_⟩
  · split
    · exact nofun
    · exact reads_exponentOrEnd
  · rw [fraction, takeWhile_append hdigits hs, dropWhile_append hdigits hs]

/-- Goes on after the digits before the point, of which some may be left over. -/
def afterDigits (negative : Bool) (n : Nat) (left s : Bytes) : Read Number :=
  match s with
  | 0x2E :: rest => fraction negative n left.length rest
  | 0x65 :: rest | 0x45 :: rest => exponentPart negative n left.length rest
  | _ =>
      if !left.isEmpty then real negative n left.length s
      else if !negative then .ok (.integer n, s)
      else if n = 0 ∨ 0x8000000000000000 < n then real true n 0 s
      else .ok (.integer (-n), s)

theorem reads_afterDigits (n : Nat) (left : Bytes) : Reads Ends (afterDigits negative n left) := by
  refine reads_of_mark (fun b => b = 0x2E || isLetter b)
    (fun s => if !left.isEmpty then real negative n left.length s
      else if !negative then .ok (.integer n, s)
      else if n = 0 ∨ 0x8000000000000000 < n then real true n 0 s
      else .ok (.integer (-n), s)) ?_ ?_ ?_ ?_
  · intro b hb
    simp only [isLetter, Bool.or_eq_true, decide_eq_true_eq] at hb
    rcases hb with rfl | rfl | rfl <;> decide
  · repeat' split
    all_goals first | exact reads_real | exact reads_pure _
  · intro s hs
    rw [afterDigits.eq_def]
    split
    · cases hs
    · cases hs
    · cases hs
    · rfl
  · intro b hb
    simp only [isLetter, Bool.or_eq_true, decide_eq_true_eq] at hb
    rcases hb with rfl | rfl | rfl
    · exact ⟨by decide, reads_fraction⟩
    · exact ⟨by decide, reads_exponentPart⟩
    · exact ⟨by decide, reads_exponentPart⟩

theorem reads_read_cons (b : UInt8) : Reads Ends fun s => read negative (b :: s) := by
  cases hb : isDigit b with
  | false =>
      simp only [read, hb, Bool.not_false, if_true]
      exact nofun
  | true =>
      refine reads_of_digits fun digits hdigits => ?_
      refine ⟨fun s => if b = 0x30 ∧ digits ≠ [] then stopAt .invalidNumber (digits ++ s)
        else afterDigits negative (absorb 0 (b :: digits)).1 (absorb 0 (b :: digits)).2 s,
        ?_, fun s hs => ?_⟩
      · split
        · exact nofun
        · exact reads_afterDigits _ _
      · have hhead : ((digits ++ s).head?.any isDigit = true) ↔ digits ≠ [] := by
          cases digits with
          | nil => simp [show s.head?.any isDigit = false from hs]
          | cons d digits => simpa using List.all_eq_true.1 hdigits d (by simp)
        have hall : (b :: digits).all isDigit = true := by rw [List.all_cons, hb, hdigits]; rfl
        have htake := takeWhile_append hall hs
        have hdrop := dropWhile_append hall hs
        rw [List.cons_append] at htake hdrop
        simp only [read, hb, Bool.not_true, Bool.false_eq_true, if_false, hhead, htake, hdrop]
        rfl

end

end Numeral

/-! ## Containers -/

/-- A reader that skips white space is known by what it does after each octet that is none. -/
theorem reads_of_skipSpace {α : Type} {P : Bytes → Prop} {r : Bytes → Read α}
    (hskip : ∀ s, r (skipSpace s) = r s) (hnil : ∀ v rest, r [] ≠ .ok (v, rest))
    (hcons : ∀ b s v rest, isSpace b = false → r (b :: s) = .ok (v, rest) →
      isPlain b = true ∧ Reads P fun s => r (b :: s)) : Reads P r := by
  intro s v rest h
  rw [← hskip] at h
  cases hs : skipSpace s with
  | nil =>
      rw [hs] at h
      exact absurd h (hnil v rest)
  | cons b t =>
      obtain ⟨spaces, rfl, hspaces, hb⟩ := skipSpace_eq_cons hs
      rw [hs] at h
      obtain ⟨hplain, hr⟩ := hcons b t v rest hb h
      obtain ⟨used, rfl, hplain', htakes⟩ := hr t v rest h
      refine ⟨spaces ++ b :: used, by rw [List.append_assoc, List.cons_append], ?_, fun x hx => ?_⟩
      · rw [List.all_append, List.all_cons, all_isPlain_of_isSpace hspaces, hplain, hplain']
        rfl
      · rw [List.append_assoc, List.cons_append, ← hskip, skipSpace_append_cons hspaces hb]
        exact htakes x hx

theorem skipSpace_skipSpace (s : Bytes) : skipSpace (skipSpace s) = skipSpace s := by
  obtain ⟨spaces, hs, hspaces, -⟩ := skipSpace_spec s
  calc skipSpace (skipSpace s) = skipSpace (spaces ++ skipSpace s) :=
        (skipSpace_append hspaces _).symm
    _ = skipSpace s := by rw [← hs]

theorem goesOn_of_isSpace {b : UInt8} (h : isSpace b = true) : Numeral.goesOn b = false := by
  simp only [isSpace, Bool.or_eq_true, decide_eq_true_eq] at h
  rcases h with ((rfl | rfl) | rfl) | rfl <;> decide

theorem ends_spaces {spaces : Bytes} {b : UInt8} (h : spaces.all isSpace = true)
    (hb : Numeral.goesOn b = false) (s : Bytes) : Ends (spaces ++ b :: s) := by
  cases spaces with
  | nil => exact hb
  | cons c spaces =>
      rw [List.all_cons, Bool.and_eq_true] at h
      exact goesOn_of_isSpace h.1

/-- The rest of a container, read up to `close` with enough fuel for it. No number goes on with
it. -/
def Closes {α : Type} (close : UInt8) (more : Nat → Bytes → Read α) (s : Bytes) (v : α)
    (rest : Bytes) : Prop :=
  ∃ used, s = used ++ close :: rest ∧ used.all isPlain = true ∧
    (∀ x, Ends (used ++ close :: x)) ∧
      ∀ fuel x, used.length < fuel → more fuel (used ++ close :: x) = .ok (v, x)

section

variable {α : Type} {close : UInt8} {more : Nat → Bytes → Read α} {spaces spaces' w rest : Bytes}
  {v : α}

theorem Closes.of_close (hspaces : spaces.all isSpace = true)
    (hclose : Numeral.goesOn close = false)
    (hmore : ∀ fuel x, more (fuel + 1) (spaces ++ close :: x) = .ok (v, x)) :
    Closes close more (spaces ++ close :: rest) v rest := by
  refine ⟨spaces, rfl, all_isPlain_of_isSpace hspaces, ends_spaces hspaces hclose,
    fun fuel x hlt => ?_⟩
  obtain ⟨fuel, rfl⟩ := Nat.exists_eq_add_of_lt hlt
  exact hmore _ x

/-- A comma and more. -/
theorem Closes.of_comma (hspaces : spaces.all isSpace = true)
    (hspaces' : spaces'.all isSpace = true) (hw : w.all isPlain = true)
    (hmore : ∀ fuel x, w.length < fuel →
      more (fuel + 1) (spaces ++ 0x2C :: (spaces' ++ (w ++ close :: x))) = .ok (v, x)) :
    Closes close more (spaces ++ 0x2C :: (spaces' ++ (w ++ close :: rest))) v rest := by
  have hassoc (x : Bytes) : spaces ++ 0x2C :: (spaces' ++ w) ++ close :: x =
      spaces ++ 0x2C :: (spaces' ++ (w ++ close :: x)) := by
    simp only [List.append_assoc, List.cons_append]
  refine ⟨spaces ++ 0x2C :: (spaces' ++ w), (hassoc rest).symm, ?_, fun x => ?_,
    fun fuel x hlt => ?_⟩
  · rw [List.all_append, List.all_cons, List.all_append, all_isPlain_of_isSpace hspaces,
      all_isPlain_of_isSpace hspaces', hw]
    decide
  · rw [hassoc]
    exact ends_spaces hspaces (by decide) _
  · obtain ⟨fuel, rfl⟩ := Nat.exists_eq_add_of_lt hlt
    rw [hassoc]
    apply hmore
    simp only [List.length_append, List.length_cons]
    omega

end

section

variable {item : Bytes → Read Json}

theorem moreItems_close {acc : List Json} {fuel : Nat} {s t : Bytes}
    (hs : skipSpace s = 0x5D :: t) :
    moreItems item acc (fuel + 1) s = .ok (acc.reverse, t) := by
  rw [moreItems, hs]
  rfl

theorem moreItems_comma {acc : List Json} {fuel : Nat} {s t u rest : Bytes} {b : UInt8}
    {v : Json} (hs : skipSpace s = 0x2C :: t) (ht : skipSpace t = b :: u) (hb : b ≠ 0x5D)
    (hread : item (b :: u) = .ok (v, rest)) :
    moreItems item acc (fuel + 1) s = moreItems item (v :: acc) fuel rest := by
  rw [moreItems, hs]
  simp only [ht]
  split
  · rename_i heq
    cases heq
  · rename_i heq
    cases heq
    exact absurd rfl hb
  · simp only [hread]

/-- What a list goes on with: its end, or a comma and an item. -/
theorem moreItems_ok {acc vs : List Json} {fuel : Nat} {s rest : Bytes}
    (h : moreItems item acc fuel s = .ok (vs, rest)) :
    ∃ fuel', fuel = fuel' + 1 ∧ ((skipSpace s = 0x5D :: rest ∧ vs = acc.reverse) ∨
      ∃ t b u v s', skipSpace s = 0x2C :: t ∧ skipSpace t = b :: u ∧ b ≠ 0x5D ∧
        item (b :: u) = .ok (v, s') ∧ moreItems item (v :: acc) fuel' s' = .ok (vs, rest)) := by
  cases fuel with
  | zero => cases h
  | succ fuel =>
      refine ⟨fuel, rfl, ?_⟩
      rw [moreItems] at h
      split at h
      · cases h
      · rename_i t hs
        cases h
        exact .inl ⟨hs, rfl⟩
      · rename_i t hs
        split at h
        · cases h
        · cases h
        · rename_i hnil hclose
          cases ht : skipSpace t with
          | nil => exact absurd ht hnil
          | cons b u =>
              rw [ht] at h
              split at h
              · rename_i v s' hitem
                refine .inr ⟨t, b, u, v, s', hs, ht, ?_, hitem, h⟩
                rintro rfl
                exact hclose u ht
              · cases h
      · cases h

/-- An item, and what the list goes on with after it. The item may take in nothing as far as is
known here, but the rest of the list does not. -/
theorem Closes.cons (hitem : Reads Ends item) {more : Nat → Bytes → Read (List Json)}
    {b : UInt8} {u s rest : Bytes} {v : Json} {vs : List Json} (hb : b ≠ 0x5D)
    (hread : item (b :: u) = .ok (v, s)) (h : Closes 0x5D more s vs rest) :
    ∃ w used, u = w ++ 0x5D :: rest ∧ (b :: w).all isPlain = true ∧ used.length ≤ w.length + 1 ∧
      ∀ x, item (b :: (w ++ 0x5D :: x)) = .ok (v, used ++ 0x5D :: x) ∧
        ∀ fuel, used.length < fuel → more fuel (used ++ 0x5D :: x) = .ok (vs, x) := by
  obtain ⟨taken, hsplit, hplain, htakes⟩ := hitem _ _ _ hread
  obtain ⟨used, rfl, hplain', hends, hmore⟩ := h
  rw [← List.append_assoc] at hsplit
  cases hw : taken ++ used with
  | nil =>
      rw [hw, List.nil_append, List.cons.injEq] at hsplit
      exact absurd hsplit.1 hb
  | cons c w =>
      rw [hw, List.cons_append, List.cons.injEq] at hsplit
      obtain ⟨rfl, rfl⟩ := hsplit
      have hlen := congrArg List.length hw
      rw [List.length_append, List.length_cons] at hlen
      refine ⟨w, used, rfl, by rw [← hw, List.all_append, hplain, hplain']; rfl, by omega,
        fun x => ⟨?_, fun fuel => hmore fuel x⟩⟩
      rw [← List.cons_append, ← hw, List.append_assoc, htakes _ (hends x)]

theorem closes_moreItems (hitem : Reads Ends item) {acc vs : List Json} {fuel : Nat}
    {s rest : Bytes} (h : moreItems item acc fuel s = .ok (vs, rest)) :
    Closes 0x5D (moreItems item acc) s vs rest := by
  induction fuel generalizing acc s with
  | zero => cases h
  | succ fuel ih =>
      obtain ⟨fuel, hfuel, ⟨hs, rfl⟩ | ⟨t, b, u, v, s', hs, ht, hb, hread, h⟩⟩ := moreItems_ok h
      · obtain ⟨spaces, rfl, hspaces, hclose⟩ := skipSpace_eq_cons hs
        exact .of_close hspaces (by decide) fun fuel x =>
          moreItems_close (skipSpace_append_cons hspaces hclose x)
      · cases hfuel
        obtain ⟨w, used, rfl, hplain, hlen, hmore⟩ := (ih h).cons hitem hb hread
        obtain ⟨spaces, rfl, hspaces, hcomma⟩ := skipSpace_eq_cons hs
        obtain ⟨spaces', rfl, hspaces', hb'⟩ := skipSpace_eq_cons ht
        refine .of_comma (w := b :: w) hspaces hspaces' hplain fun fuel x hlt => ?_
        rw [List.cons_append, moreItems_comma (skipSpace_append_cons hspaces hcomma _)
          (skipSpace_append_cons hspaces' hb' _) hb (hmore x).1]
        exact (hmore x).2 fuel (Nat.lt_of_le_of_lt hlen hlt)

theorem readItems_close {s t : Bytes} (hs : skipSpace s = 0x5D :: t) :
    readItems item s = .ok ([], t) := by
  rw [readItems, hs]
  rfl

theorem readItems_item {s u : Bytes} {b : UInt8} (hs : skipSpace s = b :: u) (hb : b ≠ 0x5D) :
    readItems item s =
      match item (b :: u) with
      | .ok (v, rest) => moreItems item [v] (rest.length + 1) rest
      | .error fault => .error fault := by
  rw [readItems]
  simp only [hs]
  split
  · rename_i heq
    cases heq
  · rename_i heq
    cases heq
    exact absurd rfl hb
  · rfl

theorem reads_readItems (hitem : Reads Ends item) : Reads Any (readItems item) := by
  intro s vs rest h
  cases hs : skipSpace s with
  | nil =>
      rw [readItems, hs] at h
      cases h
  | cons b u =>
      obtain ⟨spaces, rfl, hspaces, hspace⟩ := skipSpace_eq_cons hs
      have hskip := skipSpace_append_cons hspaces hspace
      have hplain := all_isPlain_of_isSpace hspaces
      by_cases hb : b = 0x5D
      · subst hb
        rw [readItems_close hs] at h
        cases h
        refine ⟨spaces ++ [0x5D], List.append_cons _ _ _, ?_, fun x _ => ?_⟩
        · rw [List.all_append, hplain]
          rfl
        · rw [← List.append_cons, readItems_close (hskip x)]
      · rw [readItems_item hs hb] at h
        split at h
        · rename_i v s hread
          obtain ⟨w, used, rfl, hplain', -, hmore⟩ :=
            (closes_moreItems hitem h).cons hitem hb hread
          have hassoc (x : Bytes) : spaces ++ b :: (w ++ [0x5D]) ++ x =
              spaces ++ b :: (w ++ 0x5D :: x) := by
            simp only [List.append_assoc, List.cons_append, List.nil_append]
          refine ⟨spaces ++ b :: (w ++ [0x5D]), (hassoc rest).symm, ?_, fun x _ => ?_⟩
          · rw [List.all_append, ← List.cons_append, List.all_append, hplain, hplain']
            rfl
          · rw [hassoc, readItems_item (hskip _) hb, (hmore x).1]
            refine (hmore x).2 _ ?_
            rw [List.length_append]
            omega
        · cases h

/-! ## Objects -/

theorem reads_afterKey (hitem : Reads Ends item) : Reads Ends (afterKey item) := by
  refine reads_of_skipSpace (fun s => ?_) nofun fun b s v rest hb h => ?_
  · unfold afterKey
    rw [skipSpace_skipSpace]
  · unfold afterKey at h
    rw [skipSpace_cons hb] at h
    split at h
    · cases h
    · rename_i heq
      cases heq
      exact ⟨by decide, hitem⟩
    · cases h

theorem reads_readEntry (hitem : Reads Ends item) : Reads Ends (readEntry item) :=
  reads_readString.bind fun key => (reads_afterKey hitem).map fun v => (key, v)

theorem moreEntries_close {acc : Object} {fuel : Nat} {s t : Bytes}
    (hs : skipSpace s = 0x7D :: t) : moreEntries item acc (fuel + 1) s = .ok (acc, t) := by
  rw [moreEntries, hs]
  rfl

theorem moreEntries_comma {acc : Object} {fuel : Nat} {s t u rest : Bytes} {key : String}
    {v : Json} (hs : skipSpace s = 0x2C :: t) (ht : skipSpace t = 0x22 :: u)
    (hread : readEntry item u = .ok ((key, v), rest)) :
    moreEntries item acc (fuel + 1) s = moreEntries item (acc.insert key v) fuel rest := by
  rw [moreEntries, hs]
  simp only [ht, hread]

/-- What an object goes on with: its end, or a comma and an entry. -/
theorem moreEntries_ok {acc o : Object} {fuel : Nat} {s rest : Bytes}
    (h : moreEntries item acc fuel s = .ok (o, rest)) :
    ∃ fuel', fuel = fuel' + 1 ∧ ((skipSpace s = 0x7D :: rest ∧ o = acc) ∨
      ∃ t u key v s', skipSpace s = 0x2C :: t ∧ skipSpace t = 0x22 :: u ∧
        readEntry item u = .ok ((key, v), s') ∧
          moreEntries item (acc.insert key v) fuel' s' = .ok (o, rest)) := by
  cases fuel with
  | zero => cases h
  | succ fuel =>
      refine ⟨fuel, rfl, ?_⟩
      rw [moreEntries] at h
      split at h
      · cases h
      · rename_i t hs
        cases h
        exact .inl ⟨hs, rfl⟩
      · rename_i t hs
        split at h
        · cases h
        · cases h
        · rename_i u ht
          split at h
          · rename_i key v s' hentry
            exact .inr ⟨t, u, key, v, s', hs, ht, hentry, h⟩
          · cases h
        · cases h
      · cases h

theorem closes_moreEntries (hitem : Reads Ends item) {acc o : Object} {fuel : Nat}
    {s rest : Bytes} (h : moreEntries item acc fuel s = .ok (o, rest)) :
    Closes 0x7D (moreEntries item acc) s o rest := by
  induction fuel generalizing acc s with
  | zero => cases h
  | succ fuel ih =>
      obtain ⟨fuel, hfuel, ⟨hs, rfl⟩ | ⟨t, u, key, v, s', hs, ht, hread, h⟩⟩ := moreEntries_ok h
      · obtain ⟨spaces, rfl, hspaces, hclose⟩ := skipSpace_eq_cons hs
        exact .of_close hspaces (by decide) fun fuel x =>
          moreEntries_close (skipSpace_append_cons hspaces hclose x)
      · cases hfuel
        obtain ⟨taken, rfl, hplain, htakes⟩ := reads_readEntry hitem _ _ _ hread
        obtain ⟨used, rfl, hplain', hends, hmore⟩ := ih h
        obtain ⟨spaces, rfl, hspaces, hcomma⟩ := skipSpace_eq_cons hs
        obtain ⟨spaces', rfl, hspaces', hquote⟩ := skipSpace_eq_cons ht
        have hw : (0x22 :: (taken ++ used)).all isPlain = true := by
          rw [List.all_cons, List.all_append, hplain, hplain']
          decide
        rw [← List.append_assoc taken used, ← List.cons_append]
        refine .of_comma hspaces hspaces' hw fun fuel x hlt => ?_
        rw [List.cons_append, List.append_assoc,
          moreEntries_comma (skipSpace_append_cons hspaces hcomma _)
            (skipSpace_append_cons hspaces' hquote _) (htakes _ (hends x))]
        rw [List.length_cons, List.length_append] at hlt
        exact hmore fuel x (by omega)

/-- An object is read up to its closing brace. -/
theorem closes_readEntries (hitem : Reads Ends item) {s rest : Bytes} {o : Object}
    (h : readEntries item s = .ok (o, rest)) :
    ∃ used, s = used ++ 0x7D :: rest ∧ used.all isPlain = true ∧
      ∀ x, readEntries item (used ++ 0x7D :: x) = .ok (o, x) := by
  rw [readEntries] at h
  split at h
  · cases h
  · rename_i t hs
    cases h
    obtain ⟨spaces, rfl, hspaces, hclose⟩ := skipSpace_eq_cons hs
    refine ⟨spaces, rfl, all_isPlain_of_isSpace hspaces, fun x => ?_⟩
    rw [readEntries, skipSpace_append_cons hspaces hclose]
    rfl
  · rename_i t hs
    split at h
    · rename_i key v s' hread
      obtain ⟨spaces, rfl, hspaces, hquote⟩ := skipSpace_eq_cons hs
      obtain ⟨taken, rfl, hplain, htakes⟩ := reads_readEntry hitem _ _ _ hread
      obtain ⟨used, rfl, hplain', hends, hmore⟩ := closes_moreEntries hitem h
      have hassoc (x : Bytes) : spaces ++ 0x22 :: (taken ++ used) ++ 0x7D :: x =
          spaces ++ 0x22 :: (taken ++ (used ++ 0x7D :: x)) := by
        simp only [List.append_assoc, List.cons_append]
      refine ⟨spaces ++ 0x22 :: (taken ++ used), (hassoc rest).symm, ?_, fun x => ?_⟩
      · rw [List.all_append, List.all_cons, List.all_append, all_isPlain_of_isSpace hspaces,
          hplain, hplain']
        decide
      · rw [hassoc, readEntries, skipSpace_append_cons hspaces hquote]
        simp only [htakes _ (hends x)]
        refine hmore _ x ?_
        rw [List.length_append]
        omega
    · cases h
  · cases h

end

/-! ## Values -/

theorem reads_word {word : Bytes} (hword : word.all isPlain = true) (v : Json) :
    Reads Ends fun s => (keyword word s).map fun r => (v, r.2) :=
  (reads_keyword hword).mono.map fun _ => v

theorem reads_number (negative : Bool) : Reads Ends (Numeral.read negative) := by
  refine .of_cons nofun fun b s v rest h => ⟨?_, Numeral.reads_read_cons b⟩
  cases hb : Numeral.isDigit b with
  | true => exact Numeral.isPlain_of_isDigit hb
  | false =>
      rw [Numeral.read, hb] at h
      cases h

theorem reads_readScalar {b : UInt8} {s rest : Bytes} {v : Json}
    (h : readScalar b s = .ok (v, rest)) : isPlain b = true ∧ Reads Ends (readScalar b) := by
  unfold readScalar at h ⊢
  split_ifs at h ⊢ with hn ht hf hminus hdigit hquote
  · exact ⟨by rw [hn]; decide, reads_word (by decide) .null⟩
  · exact ⟨by rw [ht]; decide, reads_word (by decide) (.bool true)⟩
  · exact ⟨by rw [hf]; decide, reads_word (by decide) (.bool false)⟩
  · exact ⟨by rw [hminus]; decide, (reads_number true).map Json.number⟩
  · exact ⟨Numeral.isPlain_of_isDigit hdigit, (Numeral.reads_read_cons b).map Json.number⟩
  · exact ⟨by rw [hquote]; decide, reads_readString.mono.map Json.string⟩
  · cases h

theorem readValue_cons {b : UInt8} (hb : isSpace b = false) (depth : Nat) (s : Bytes) :
    readValue (depth + 1) (b :: s) =
      if b = 0x5B then (readItems (readValue depth) s).map fun r => (.array r.1, r.2)
      else if b = 0x7B then (readEntries (readValue depth) s).map fun r => (.object r.1, r.2)
      else readScalar b s := by
  rw [readValue, skipSpace_cons hb]

theorem readValue_skipSpace (depth : Nat) (s : Bytes) :
    readValue depth (skipSpace s) = readValue depth s := by
  unfold readValue
  rw [skipSpace_skipSpace]

theorem reads_readEntries {item : Bytes → Read Json} (hitem : Reads Ends item) :
    Reads Any (readEntries item) := by
  intro s o rest h
  obtain ⟨used, rfl, hplain, htakes⟩ := closes_readEntries hitem h
  refine ⟨used ++ [0x7D], List.append_cons _ _ _, ?_, fun x _ => ?_⟩
  · rw [List.all_append, hplain]
    rfl
  · rw [← List.append_cons, htakes]

/-- A value is read up to its last octet, and a number needs to be told from what follows. -/
theorem reads_readValue (depth : Nat) : Reads Ends (readValue depth) := by
  induction depth with
  | zero =>
      refine reads_of_skipSpace (readValue_skipSpace 0) nofun fun b s v rest hb h => ?_
      have heq (s : Bytes) : readValue 0 (b :: s) =
          if b = 0x5B ∨ b = 0x7B then stop .recursionLimit s else readScalar b s := by
        rw [readValue, skipSpace_cons hb]
        by_cases hlist : b = 0x5B
        · simp [hlist]
        · by_cases hobject : b = 0x7B <;> simp [hlist, hobject]
      rw [heq] at h
      simp only [heq]
      split at h
      · cases h
      · rename_i hscalar
        simpa only [if_neg hscalar] using reads_readScalar h
  | succ depth ih =>
      refine reads_of_skipSpace (readValue_skipSpace _) nofun fun b s v rest hb h => ?_
      rw [readValue_cons hb] at h
      simp only [readValue_cons hb]
      split at h
      · rename_i hlist
        subst hlist
        exact ⟨by decide, (reads_readItems ih).mono.map Json.array⟩
      · split at h
        · rename_i hobject
          subst hobject
          exact ⟨by decide, (reads_readEntries ih).mono.map Json.object⟩
        · rename_i hlist hobject
          simpa only [if_neg hlist, if_neg hobject] using reads_readScalar h

/-- What holds of null, the truth values, numbers and strings holds of every scalar that is read. -/
theorem of_readScalar {P : Json → Prop} (hnull : P .null) (hbool : ∀ b, P (.bool b))
    (hnumber : ∀ n, P (.number n)) (hstring : ∀ s, P (.string s)) {b : UInt8} {s rest : Bytes}
    {v : Json} (h : readScalar b s = .ok (v, rest)) : P v := by
  have hmap {α : Type} {r : Read α} {f : α → Json} (hf : ∀ a, P (f a))
      (h : (r.map fun p => (f p.1, p.2)) = .ok (v, rest)) : P v := by
    obtain ⟨a, -, rfl⟩ := exists_of_map h
    exact hf a
  unfold readScalar at h
  split_ifs at h
  · exact hmap (fun _ => hnull) h
  · exact hmap (fun _ => hbool true) h
  · exact hmap (fun _ => hbool false) h
  · exact hmap hnumber h
  · exact hmap hnumber h
  · exact hmap hstring h
  · cases h

theorem readScalar_ne_array {b : UInt8} {s rest : Bytes} {items : List Json} :
    readScalar b s ≠ .ok (.array items, rest) := fun h =>
  of_readScalar (P := fun v => v ≠ .array items) (by simp) (by simp) (by simp) (by simp) h rfl

theorem readScalar_ne_object {b : UInt8} {s rest : Bytes} {o : Object} :
    readScalar b s ≠ .ok (.object o, rest) := fun h =>
  of_readScalar (P := fun v => v ≠ .object o) (by simp) (by simp) (by simp) (by simp) h rfl

theorem readValue_brace {spaces : Bytes} (h : spaces.all isSpace = true) (depth : Nat)
    (s : Bytes) : readValue (depth + 1) (spaces ++ 0x7B :: s) =
      (readEntries (readValue depth) s).map fun r => (.object r.1, r.2) := by
  rw [← readValue_skipSpace, skipSpace_append_cons h (by decide), readValue_cons (by decide)]
  rfl

theorem readValue_eq_object (depth : Nat) {s rest : Bytes} {o : Object}
    (h : readValue (depth + 1) s = .ok (.object o, rest)) : ∃ spaces t,
      s = spaces ++ 0x7B :: t ∧ spaces.all isSpace = true ∧
        readEntries (readValue depth) t = .ok (o, rest) := by
  rw [← readValue_skipSpace] at h
  cases hs : skipSpace s with
  | nil =>
      rw [hs] at h
      cases h
  | cons b t =>
      obtain ⟨spaces, rfl, hspaces, hb⟩ := skipSpace_eq_cons hs
      rw [hs, readValue_cons hb] at h
      split_ifs at h with hlist hobject
      · cases hr : readItems (readValue depth) t <;> rw [hr] at h <;> cases h
      · subst hobject
        refine ⟨spaces, t, rfl, hspaces, ?_⟩
        cases hr : readEntries (readValue depth) t with
        | error e =>
            rw [hr] at h
            cases h
        | ok r =>
            rw [hr] at h
            cases h
            rfl
      · exact absurd h readScalar_ne_object

theorem toEnd_eq_ok {α : Type} {r : Read α} {v : α} (h : toEnd r = .ok v) :
    ∃ rest, r = .ok (v, rest) ∧ rest.all isSpace = true := by
  unfold toEnd at h
  split at h
  · cases h
  · rename_i v' rest
    split at h
    · rename_i hrest
      cases h
      obtain ⟨spaces, hs, hspaces, -⟩ := skipSpace_spec rest
      rw [hrest, List.append_nil] at hs
      exact ⟨rest, rfl, by rwa [hs]⟩
    · cases h

theorem toEnd_of_isSpace {α : Type} (v : α) {rest : Bytes} (h : rest.all isSpace = true) :
    toEnd (.ok (v, rest)) = .ok v := by
  have hskip := skipSpace_append h []
  rw [List.append_nil] at hskip
  rw [toEnd, hskip]
  rfl

/-- The text of an object, up to the white space around it, holds that object wherever it stands
between white space. -/
theorem parse_object {text : Bytes} {o : Object} (h : parse text = .ok (.object o)) :
    ∃ left core right, text = left ++ 0x7B :: (core ++ 0x7D :: right) ∧
      left.all isSpace = true ∧ core.all isPlain = true ∧ right.all isSpace = true ∧
        ∀ left' right' : Bytes, left'.all isSpace = true → right'.all isSpace = true →
          parse (left' ++ 0x7B :: (core ++ 0x7D :: right')) = .ok (.object o) := by
  have hread : toEnd (readValue depthLimit text) = .ok (.object o) := by
    rw [parse] at h
    cases hr : toEnd (readValue depthLimit text) with
    | error fault =>
        rw [hr] at h
        cases h
    | ok v =>
        rw [hr] at h
        cases h
        rfl
  obtain ⟨right, hvalue, hright⟩ := toEnd_eq_ok hread
  obtain ⟨left, s, rfl, hleft, hentries⟩ := readValue_eq_object 126 hvalue
  obtain ⟨core, rfl, hplain, htakes⟩ := closes_readEntries (reads_readValue 126) hentries
  refine ⟨left, core, right, rfl, hleft, hplain, hright, fun left' right' hleft' hright' => ?_⟩
  have hbrace := readValue_brace hleft' 126 (core ++ 0x7D :: right')
  rw [htakes, Except.map] at hbrace
  rw [parse, depthLimit, hbrace, toEnd_of_isSpace _ hright', Except.mapError]

end ClusterRpc.Json
