import ClusterRpc.Number.Binary64

/-! # The shortest decimal that reads back as a double -/

namespace ClusterRpc

/-- The number `digits * 10 ^ exponent`. -/
structure Decimal where
  digits : Nat
  exponent : Int
deriving DecidableEq, Repr

namespace Decimal

/-- Moves trailing zeros of at most `steps` places into the exponent. -/
def stripZeros (d : Decimal) : Nat → Decimal
  | 0 => d
  | steps + 1 =>
      if d.digits ≠ 0 ∧ d.digits % 10 = 0 then stripZeros ⟨d.digits / 10, d.exponent + 1⟩ steps
      else d

end Decimal

namespace Binary64

/-- Four times the absolute value and the half-gaps below and above it, over one denominator: the
reals between `value - below` and `value + above` round to this double. -/
structure Neighbourhood where
  value : Nat
  below : Nat
  above : Nat
  den : Nat
  closed : Bool
deriving Repr

def neighbourhood (x : Binary64) : Neighbourhood :=
  let below := if x.mantissa = hiddenBit ∧ x.exponent ≠ minExponent then 1 else 2
  let unit := if 2 ≤ x.exponent then Nat.pow 2 (x.exponent - 2).toNat else 1
  { value := 4 * x.mantissa * unit
    below := below * unit
    above := 2 * unit
    den := if 2 ≤ x.exponent then 1 else Nat.pow 2 (2 - x.exponent).toNat
    closed := x.mantissa % 2 == 0 }

/-- The `p` with `10 ^ (p - 1) ≤ num / den < 10 ^ p`. -/
def magnitude (num den : Nat) : Int :=
  if den ≤ num then ((Nat.toDigits 10 (num / den)).length : Int)
  else 1 - ((Nat.toDigits 10 ((den - 1) / num)).length : Int)

namespace Neighbourhood

/-- The neighbourhood divided by `10 ^ k`. -/
def scaled (n : Neighbourhood) (k : Int) : Neighbourhood :=
  if 0 ≤ k then { n with den := n.den * Nat.pow 10 k.toNat }
  else
    let f := Nat.pow 10 (-k).toNat
    { n with value := n.value * f, below := n.below * f, above := n.above * f }

/-- Whether the integer `a` lies in the neighbourhood. -/
def contains (n : Neighbourhood) (a : Nat) : Bool :=
  if n.closed then n.value ≤ a * n.den + n.below && a * n.den ≤ n.value + n.above
  else n.value < a * n.den + n.below && a * n.den < n.value + n.above

/-- The integer of the neighbourhood nearest to its value, an exact half going to the even one. -/
def nearest? (n : Neighbourhood) : Option Nat :=
  let a := n.value / n.den
  let up := Binary64.roundDiv n.value n.den
  match n.contains a, n.contains (a + 1) with
  | true, true => some up
  | true, false => some a
  | false, true => some (a + 1)
  | false, false => none

end Neighbourhood

/-- The shortest decimal that rounds to the absolute value of `x`, and of those the nearest one.
Seventeen digits always suffice. -/
def shortest (x : Binary64) : Decimal :=
  if x.isZero then ⟨0, 0⟩
  else
    let n := x.neighbourhood
    let p := magnitude n.value n.den
    let found := (List.range' 1 17).findSome? fun (len : Nat) =>
      let k := p - (len : Int)
      (n.scaled k).nearest?.map fun a => (⟨a, k⟩ : Decimal)
    (found.getD ⟨n.value / n.den, 0⟩).stripZeros 17

end Binary64

end ClusterRpc
