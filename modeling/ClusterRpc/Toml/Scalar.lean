import ClusterRpc.Text.Hex
import ClusterRpc.Toml.Value

/-! # TOML numbers, truth values and dates -/

namespace ClusterRpc.Toml

/-- Digits of a base. An underscore may stand between two of them. -/
def digits? (base : Nat) (s : Text) : Option (List Nat) :=
  let groups := Text.splitWhere (· == '_') s
  if groups.any List.isEmpty then none
  else groups.flatten.mapM fun c => (Text.hexDigit? c).filter (· < base)

def ofDigits (base : Nat) (digits : List Nat) : Nat := digits.foldl (fun n d => base * n + d) 0

/-- Splits off a sign. -/
def signed (s : Text) : Bool × Text :=
  match s with
  | '-' :: rest => (true, rest)
  | '+' :: rest => (false, rest)
  | _ => (false, s)

/-- Decimal digits without superfluous zeros in front. -/
def plainDigits? (s : Text) : Option (List Nat) :=
  match digits? 10 s with
  | some (0 :: _ :: _) => none
  | d => d

/-- An integer of 64 bits. Only a decimal one may have a sign. -/
def integer? (s : Text) : Option Int := do
  let n : Int ← match s with
    | '0' :: 'x' :: rest => (digits? 16 rest).map fun d => (ofDigits 16 d : Int)
    | '0' :: 'o' :: rest => (digits? 8 rest).map fun d => (ofDigits 8 d : Int)
    | '0' :: 'b' :: rest => (digits? 2 rest).map fun d => (ofDigits 2 d : Int)
    | _ => (plainDigits? (signed s).2).map fun d =>
        if (signed s).1 then -(ofDigits 10 d : Int) else ofDigits 10 d
  if -0x8000000000000000 ≤ n ∧ n < 0x8000000000000000 then some n else none

/-- The double nearest to `significand * 10 ^ exponent`; `none` if it is too large. -/
def nearest (significand : Nat) (exponent : Int) : Option Binary64 :=
  if exponent < -800 - significand.log2 then some (.zero false)
  else if 400 < exponent ∧ significand ≠ 0 then none
  else if exponent < 0 then Binary64.ofRatio significand (Nat.pow 10 (-exponent).toNat)
  else Binary64.ofRatio (significand * Nat.pow 10 exponent.toNat) 1

/-- A number with a fraction or an exponent. -/
def real? (s : Text) : Option Value := do
  let (negative, body) := signed s
  if body = "inf".toList ∨ body = "nan".toList then
    return .notFinite (String.ofList s)
  let mantissa := body.takeWhile fun c => c != 'e' && c != 'E'
  let exponent ← match body.drop mantissa.length with
    | [] => some 0
    | _ :: e => do
        let d ← digits? 10 (signed e).2
        pure (if (signed e).1 then -(ofDigits 10 d : Int) else ofDigits 10 d)
  let (whole, fraction) ← match Text.cut '.' mantissa with
    | none => if mantissa.length = body.length then none else some (← plainDigits? mantissa, [])
    | some (w, f) => some (← plainDigits? w, ← digits? 10 f)
  match nearest (ofDigits 10 (whole ++ fraction)) (exponent - fraction.length) with
  | some x => return .real (x.withSign negative)
  | none => return .notFinite (String.ofList s)

/-- A number of exactly `width` digits, at least `low` and at most `high`. -/
def field? (width low high : Nat) (s : Text) : Option Nat :=
  if s.length = width ∧ s.all Char.isDigit then
    (digits? 10 s).map (ofDigits 10) |>.filter fun n => low ≤ n && n ≤ high
  else none

def monthLength (year month : Nat) : Nat :=
  if month = 2 then
    if year % 4 = 0 ∧ (year % 100 ≠ 0 ∨ year % 400 = 0) then 29 else 28
  else if month = 4 ∨ month = 6 ∨ month = 9 ∨ month = 11 then 30
  else 31

/-- A day as `YYYY-MM-DD`. -/
def isDay (s : Text) : Bool :=
  match Text.splitWhere (· == '-') s with
  | [y, m, d] =>
      match field? 4 0 9999 y, field? 2 1 12 m with
      | some year, some month => (field? 2 1 (monthLength year month) d).isSome
      | _, _ => false
  | _ => false

/-- A time of day as `HH:MM:SS`, with a fraction of a second or without. -/
def isTime (s : Text) : Bool :=
  match Text.splitWhere (· == ':') s with
  | [h, m, rest] =>
      let second := rest.takeWhile (· != '.')
      let fraction := rest.drop second.length
      (field? 2 0 23 h).isSome && (field? 2 0 59 m).isSome && (field? 2 0 60 second).isSome &&
        (fraction.isEmpty || (1 < fraction.length && fraction.tail.all Char.isDigit))
  | _ => false

/-- A distance from universal time. -/
def isOffset (s : Text) : Bool :=
  match s with
  | ['Z'] | ['z'] => true
  | sign :: rest =>
      (sign == '+' || sign == '-') && match Text.splitWhere (· == ':') rest with
        | [h, m] => (field? 2 0 23 h).isSome && (field? 2 0 59 m).isSome
        | _ => false
  | [] => false

/-- A date, a time of day, or both with a letter or a space between; with both there may be an
offset. -/
def isDate (s : Text) : Bool :=
  let time := (s.drop 11).takeWhile fun c => c.isDigit || c == ':' || c == '.'
  let offset := s.drop (11 + time.length)
  isDay s || isTime s ||
    (isDay (s.take 10) && (s[10]?).any ("Tt ".toList.contains ·) && isTime time &&
      (offset.isEmpty || isOffset offset))

/-- The value that a run of characters outside quotes stands for. -/
def scalar? (s : Text) : Option Value :=
  if s = "true".toList then some (.bool true)
  else if s = "false".toList then some (.bool false)
  else match integer? s with
    | some n => some (.integer n)
    | none => match real? s with
      | some v => some v
      | none => if isDate s then some (.date (String.ofList s)) else none

end ClusterRpc.Toml
