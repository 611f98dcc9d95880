import ClusterRpc.Json.Fault
import ClusterRpc.Json.Value

/-! # Reading JSON numbers

An integer that fits 64 bits is kept as it is. Any other number becomes a double: the leading
digits that fit 64 bits are rounded once, and the result is multiplied or divided by a power of
ten and rounded again. -/

namespace ClusterRpc.Json

/-- The result of reading something at the front of a text: the thing and what follows it. -/
abbrev Read (α : Type) := Except Stop (α × Bytes)

/-- Stops with everything before `rest` read. -/
def stop {α : Type} (cause : Cause) (rest : Bytes) : Read α := .error ⟨cause, rest⟩

/-- Stops at the next octet, which counts as read. -/
def stopAt {α : Type} (cause : Cause) (s : Bytes) : Read α := .error ⟨cause, s.tail⟩

namespace Numeral

def isDigit (b : UInt8) : Bool := 0x30 ≤ b && b ≤ 0x39

def digit (b : UInt8) : Nat := b.toNat - 0x30

/-- The largest integer kept as an integer. -/
def maxInteger : Nat := 0xFFFFFFFFFFFFFFFF

/-- The largest exponent that is still counted. -/
def maxExponent : Nat := 0x7FFFFFFF

/-- Takes in digits while the value fits 64 bits; the digits left over come second. -/
def absorb (n : Nat) : Bytes → Nat × Bytes
  | [] => (n, [])
  | d :: ds => if maxInteger < 10 * n + digit d then (n, d :: ds) else absorb (10 * n + digit d) ds

/-- Ten to the power `n`, as a double. -/
def power (n : Nat) : Binary64 := (Binary64.ofRatio (Nat.pow 10 n) 1).getD (.zero false)

/-- Divides by ten to the power `n`, at most `1e308` at a time. -/
def lower (x : Binary64) (n : Nat) : Binary64 :=
  if n ≤ 308 then (x.div (power n)).getD (.zero false)
  else if x.isZero then x
  else lower ((x.div (power 308)).getD (.zero false)) (n - 308)
termination_by n

/-- The double `significand * 10 ^ exponent`, if it is finite. -/
def toReal (significand : Nat) (exponent : Int) : Option Binary64 :=
  match Binary64.ofRatio significand 1 with
  | none => none
  | some x =>
      if exponent < 0 then some (lower x (-exponent).toNat)
      else if exponent ≤ 308 then x.mul (power exponent.toNat)
      else if x.isZero then some x
      else none

def real (negative : Bool) (significand : Nat) (exponent : Int) (rest : Bytes) : Read Number :=
  match toReal significand exponent with
  | some x => .ok (.real (x.withSign negative), rest)
  | none => stop .numberOutOfRange rest

/-- Reads the digits of an exponent after `n`; no value if it grows beyond what is counted, and
then the digit that did it is the last one read. -/
def exponentDigits (n : Nat) : Bytes → Option Nat × Bytes
  | [] => (some n, [])
  | d :: ds =>
      if isDigit d then
        if maxExponent < 10 * n + digit d then (none, ds) else exponentDigits (10 * n + digit d) ds
      else (some n, d :: ds)

/-- Reads what follows the letter of an exponent. -/
def exponentPart (negative : Bool) (significand : Nat) (exponent : Int) (s : Bytes) :
    Read Number :=
  let down := s.head? == some 0x2D
  let s := if down || s.head? == some 0x2B then s.tail else s
  match s with
  | [] => stop .endInValue []
  | b :: rest =>
      if !isDigit b then stop .invalidNumber rest
      else
        match exponentDigits (digit b) rest with
        | (some n, rest) =>
            real negative significand (if down then exponent - n else exponent + n) rest
        | (none, rest) =>
            if significand ≠ 0 ∧ !down then stop .numberOutOfRange rest
            else .ok (.real (.zero negative), rest.dropWhile isDigit)

/-- Goes on after the digits of a number, which may carry an exponent. -/
def exponentOrEnd (negative : Bool) (significand : Nat) (exponent : Int) (s : Bytes) :
    Read Number :=
  match s with
  | 0x65 :: rest | 0x45 :: rest => exponentPart negative significand exponent rest
  | _ => real negative significand exponent s

/-- Reads what follows the point of a number. -/
def fraction (negative : Bool) (significand : Nat) (exponent : Int) (s : Bytes) : Read Number :=
  let digits := s.takeWhile isDigit
  let rest := s.dropWhile isDigit
  if digits.isEmpty then
    stopAt (if rest.isEmpty then .endInValue else .invalidNumber) rest
  else
    let (significand, left) := absorb significand digits
    exponentOrEnd negative significand (exponent - ((digits.length - left.length : Nat) : Int)) rest

/-- Reads a number whose minus sign, if it has one, is read already. -/
def read (negative : Bool) (s : Bytes) : Read Number :=
  match s with
  | [] => stop .endInValue []
  | b :: rest =>
      if !isDigit b then stop .invalidNumber rest
      else if b = 0x30 ∧ (rest.head?.any isDigit) then stopAt .invalidNumber rest
      else
        let digits := s.takeWhile isDigit
        let rest := s.dropWhile isDigit
        let (n, left) := absorb 0 digits
        match rest with
        | 0x2E :: rest => fraction negative n left.length rest
        | 0x65 :: rest | 0x45 :: rest => exponentPart negative n left.length rest
        | _ =>
            if !left.isEmpty then real negative n left.length rest
            else if !negative then .ok (.integer n, rest)
            else if n = 0 ∨ 0x8000000000000000 < n then real true n 0 rest
            else .ok (.integer (-n), rest)

end Numeral

end ClusterRpc.Json
