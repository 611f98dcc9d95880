import ClusterRpc.Text.Blank

/-! # Punycode

The ASCII form of a label: its ASCII characters in order, then its other characters as differences
of code points and places, each difference a numeral of digits with varying weights. -/

namespace ClusterRpc.Url.Punycode

/-- The digits are `a` to `z`, then `0` to `9`. -/
def digit (d : Nat) : Char :=
  if d < 26 then Char.ofNat ('a'.toNat + d) else Char.ofNat ('0'.toNat + d - 26)

def digitValue? (c : Char) : Option Nat :=
  if 'a' ≤ c ∧ c ≤ 'z' then some (c.toNat - 'a'.toNat)
  else if 'A' ≤ c ∧ c ≤ 'Z' then some (c.toNat - 'A'.toNat)
  else if '0' ≤ c ∧ c ≤ '9' then some (c.toNat - '0'.toNat + 26)
  else none

/-- The digits below the threshold end a numeral; `k` is 36 times the digit's place, from one. -/
def threshold (k bias : Nat) : Nat :=
  if k ≤ bias then 1 else if bias + 26 ≤ k then 26 else k - bias

theorem one_le_threshold (k bias : Nat) : 1 ≤ threshold k bias := by
  unfold threshold
  split
  · omega
  · split <;> omega

/-- Divides `delta` by 35 until it is small, and counts 36 for each division. -/
def shrink (delta k : Nat) : Nat × Nat :=
  if 455 < delta then shrink (delta / 35) (k + 36) else (delta, k)
termination_by delta
decreasing_by exact Nat.div_lt_self (by omega) (by omega)

/-- The bias for the next difference, after the difference `delta` to the `count`-th character. -/
def adapt (delta count : Nat) (first : Bool) : Nat :=
  let damped := if first then delta / 700 else delta / 2
  let (small, k) := shrink (damped + damped / count) 0
  k + 36 * small / (small + 38)

/-! ## Writing -/

/-- The numeral of `q`, from the digit at place `k`. -/
def numeral (bias k q : Nat) : Text :=
  let t := threshold k bias
  if q < t then [digit q]
  else digit (t + (q - t) % (36 - t)) :: numeral bias (k + 36) ((q - t) / (36 - t))
termination_by q
decreasing_by
  have := one_le_threshold k bias
  have : (q - threshold k bias) / (36 - threshold k bias) ≤ q - threshold k bias :=
    Nat.div_le_self _ _
  omega

/-- How far the writer has come: the digits so far, the difference since the last character
written, the bias, and the number of characters written. -/
structure Progress where
  reversed : List Text
  delta : Nat
  bias : Nat
  written : Nat

/-- Passes one character of the label while the characters `point` are written. -/
def Progress.pass (basic point : Nat) (p : Progress) (c : Char) : Progress :=
  if c.toNat < point then { p with delta := p.delta + 1 }
  else if c.toNat = point then
    { reversed := numeral p.bias 36 p.delta :: p.reversed
      delta := 0
      bias := adapt p.delta (p.written + 1) (p.written == basic)
      written := p.written + 1 }
  else p

/-- Writes all characters of one code point, after those below `next`. -/
def Progress.round (label : Text) (basic : Nat) (state : Progress × Nat) (point : Nat) :
    Progress × Nat :=
  let (p, next) := state
  let p := { p with delta := p.delta + (point - next) * (p.written + 1) }
  let p := label.foldl (Progress.pass basic point) p
  ({ p with delta := p.delta + 1 }, point + 1)

def isBasic (c : Char) : Bool := c.toNat < 0x80

/-- The ASCII form of a label, without the mark in front of it. -/
def encode (label : Text) : Text :=
  let basic := label.filter isBasic
  let points := ((label.filter (!isBasic ·)).map Char.toNat).mergeSort.eraseDups
  let start : Progress := ⟨[], 0, 72, basic.length⟩
  let (p, _) := points.foldl (Progress.round label basic.length) (start, 0x80)
  basic ++ (if basic.isEmpty then [] else ['-']) ++ p.reversed.reverse.flatten

/-! ## Reading -/

/-- Reads a numeral from the digit at place `k` with weight `w`, onto `i`, and gives what follows
it. -/
def numeral? (bias : Nat) : Text → (k w i : Nat) → Option (Nat × Text)
  | [], _, _, _ => none
  | c :: rest, k, w, i => do
      let d ← digitValue? c
      let i := i + d * w
      let t := threshold k bias
      if 0x100000000 ≤ i then none
      else if d < t then some (i, rest)
      else numeral? bias rest (k + 36) (w * (36 - t)) i

theorem numeral?_length {bias : Nat} {s : Text} {k w i : Nat} {r : Nat × Text}
    (h : numeral? bias s k w i = some r) : r.2.length < s.length := by
  induction s generalizing k w i with
  | nil => simp [numeral?] at h
  | cons c rest ih =>
    simp only [numeral?, Option.bind_eq_bind, Option.bind_eq_some_iff] at h
    obtain ⟨d, _, h⟩ := h
    split at h
    · simp at h
    · split at h
      · obtain rfl := Option.some.inj h
        simp
      · exact Nat.lt_succ_of_lt (ih h)

/-- Inserts the characters that the digits `s` describe into `label`; `point` and `i` are the code
point and place reached. -/
def insertAll (label : Text) (s : Text) (point i bias : Nat) : Option Text :=
  if s.isEmpty then some label
  else
    match h : numeral? bias s 36 1 i with
    | none => none
    | some (j, rest) =>
        have := numeral?_length h
        let count := label.length + 1
        let point := point + j / count
        if (point < 0xD800 ∨ 0xDFFF < point) ∧ point ≤ 0x10FFFF then
          let place := j % count
          insertAll (label.take place ++ Char.ofNat point :: label.drop place) rest point
            (place + 1) (adapt (j - i) count (i == 0))
        else none
termination_by s.length

/-- The label whose ASCII form is `s`, without the mark in front of it. -/
def decode? (s : Text) : Option Text :=
  let digits := (s.reverse.takeWhile (· != '-')).reverse
  let basic := s.take (s.length - digits.length - 1)
  let delimited := digits.length < s.length
  if (delimited → basic ≠ []) ∧ basic.all isBasic then insertAll basic digits 0x80 0 72 else none

end ClusterRpc.Url.Punycode
