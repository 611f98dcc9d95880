/-! # Finite binary64 numbers, exactly

A finite double is a sign, a mantissa and a power of two, and every operation on it is exact
arithmetic on natural numbers followed by one rounding. -/

namespace ClusterRpc

/-- The number `mantissa * 2 ^ exponent`, negated if `negative`. Zero keeps its sign. -/
structure Binary64 where
  negative : Bool
  mantissa : Nat
  exponent : Int
deriving DecidableEq, Repr

namespace Binary64

/-- The smallest exponent of a double. -/
def minExponent : Int := -1074

/-- The largest exponent of a double. -/
def maxExponent : Int := 971

/-- The smallest mantissa of 53 bits. -/
def hiddenBit : Nat := 0x10000000000000

/-- Zero and the numbers with a mantissa of exactly 53 bits, or fewer at the smallest exponent. -/
def Canonical (x : Binary64) : Prop :=
  x.mantissa < 2 * hiddenBit ∧ minExponent ≤ x.exponent ∧ x.exponent ≤ maxExponent ∧
    (x.mantissa < hiddenBit → x.exponent = minExponent)

instance (x : Binary64) : Decidable x.Canonical :=
  inferInstanceAs (Decidable (_ ∧ _ ∧ _ ∧ (_ → _)))

def zero (negative : Bool) : Binary64 := ⟨negative, 0, minExponent⟩

def isZero (x : Binary64) : Bool := x.mantissa == 0

def withSign (x : Binary64) (negative : Bool) : Binary64 := { x with negative }

/-- The quotient `num / den`, rounded to an integer, a half going to the even neighbour. -/
def roundDiv (num den : Nat) : Nat :=
  let q := num / den
  let r := num % den
  if 2 * r < den then q else if den < 2 * r then q + 1 else q + q % 2

/-- Numerator and denominator of `num / den` divided by `2 ^ e`. -/
def scaleDown (num den : Nat) (e : Int) : Nat × Nat :=
  if 0 ≤ e then (num, den * Nat.pow 2 e.toNat) else (num * Nat.pow 2 (-e).toNat, den)

/-- The exponent of the double nearest to `num / den`, before rounding is seen to carry. -/
def exponentOf (num den : Nat) : Int :=
  let guess : Int := (num.log2 : Int) - (den.log2 : Int) - 52
  let scaled := scaleDown num den guess
  max minExponent (if scaled.1 < hiddenBit * scaled.2 then guess - 1 else guess)

/-- The double nearest to `num / den`, a tie going to the even mantissa; nothing if it is too large
to be finite. -/
def ofRatio (num den : Nat) : Option Binary64 :=
  if num = 0 ∨ den = 0 then some (zero false)
  else
    let e := exponentOf num den
    let scaled := scaleDown num den e
    let m := roundDiv scaled.1 scaled.2
    let (m, e) := if m = 2 * hiddenBit then (hiddenBit, e + 1) else (m, e)
    if maxExponent < e then none else some ⟨false, m, e⟩

/-- The absolute value as a ratio of natural numbers. -/
def ratio (x : Binary64) : Nat × Nat :=
  if 0 ≤ x.exponent then (x.mantissa * Nat.pow 2 x.exponent.toNat, 1)
  else (x.mantissa, Nat.pow 2 (-x.exponent).toNat)

/-- The double nearest to the product of the absolute values. -/
def mul (x y : Binary64) : Option Binary64 :=
  ofRatio (x.ratio.1 * y.ratio.1) (x.ratio.2 * y.ratio.2)

/-- The double nearest to the quotient of the absolute values. -/
def div (x y : Binary64) : Option Binary64 :=
  ofRatio (x.ratio.1 * y.ratio.2) (x.ratio.2 * y.ratio.1)

end Binary64

end ClusterRpc
