/-! # UTF-8: octets as pieces of text -/

namespace ClusterRpc

/-- A string of octets, as it travels over a connection or stands in a file. -/
abbrev Bytes := List UInt8

namespace Utf8

/-- What a decoder finds at one place: a character, or the start of a sequence that encodes none. -/
inductive Piece where
  | char (c : Char)
  | broken
deriving DecidableEq, Repr

/-- The octets a multi-octet sequence continues with. -/
def isContinuation (b : UInt8) : Bool := 0x80 ≤ b && b < 0xC0

/-- The octets allowed after the lead octet `b` of a sequence: overlong forms, surrogates and
values above `10FFFF` are shut out here. -/
def second (b : UInt8) : UInt8 × UInt8 :=
  if b = 0xE0 then (0xA0, 0xBF)
  else if b = 0xED then (0x80, 0x9F)
  else if b = 0xF0 then (0x90, 0xBF)
  else if b = 0xF4 then (0x80, 0x8F)
  else (0x80, 0xBF)

def fits (b c : UInt8) : Bool := (second b).1 ≤ c && c ≤ (second b).2

/-- The low six bits of a continuation octet. -/
def payload (b : UInt8) : Nat := b.toNat % 0x40

/-- The piece that starts with `b`, given what follows it, and how many further octets it takes.
A broken piece takes the longest run that could still have become a character. -/
def piece (b : UInt8) (rest : Bytes) : Piece × Nat :=
  if b < 0x80 then (.char (Char.ofNat b.toNat), 0)
  else if b < 0xC2 then (.broken, 0)
  else if b < 0xE0 then
    match rest with
    | c :: _ =>
        if fits b c then (.char (Char.ofNat (b.toNat % 0x20 * 0x40 + payload c)), 1)
        else (.broken, 0)
    | [] => (.broken, 0)
  else if b < 0xF0 then
    match rest with
    | c :: d :: _ =>
        if fits b c then
          if isContinuation d then
            (.char (Char.ofNat ((b.toNat % 0x10 * 0x40 + payload c) * 0x40 + payload d)), 2)
          else (.broken, 1)
        else (.broken, 0)
    | c :: [] => (.broken, if fits b c then 1 else 0)
    | [] => (.broken, 0)
  else if b < 0xF5 then
    match rest with
    | c :: d :: e :: _ =>
        if fits b c then
          if isContinuation d then
            if isContinuation e then
              (.char (Char.ofNat
                (((b.toNat % 0x08 * 0x40 + payload c) * 0x40 + payload d) * 0x40 + payload e)), 3)
            else (.broken, 2)
          else (.broken, 1)
        else (.broken, 0)
    | c :: d :: [] => (.broken, if fits b c then if isContinuation d then 2 else 1 else 0)
    | c :: [] => (.broken, if fits b c then 1 else 0)
    | [] => (.broken, 0)
  else (.broken, 0)

/-- Collects the pieces of `s` in front of the reversed `acc`; the first `skip` octets belong to a
piece already collected. Each piece comes with the octets that follow its first one. -/
def piecesOnto (acc : List (Piece × Bytes)) : Nat → Bytes → List (Piece × Bytes)
  | _, [] => acc.reverse
  | skip + 1, _ :: rest => piecesOnto acc skip rest
  | 0, b :: rest => piecesOnto (((piece b rest).1, rest) :: acc) (piece b rest).2 rest

/-- The pieces of a string of octets, each with what follows its first octet. -/
def pieces (s : Bytes) : List (Piece × Bytes) := piecesOnto [] 0 s

/-- The text of `s`, each broken piece shown as the replacement character. -/
def lossy (s : Bytes) : List Char :=
  (pieces s).map fun p => match p.1 with
    | .char c => c
    | .broken => '\uFFFD'

/-- The text of `s`, or what follows the first octet of the first broken piece. -/
def decode (s : Bytes) : Except Bytes (List Char) :=
  (pieces s).mapM fun p => match p.1 with
    | .char c => .ok c
    | .broken => .error p.2

/-- The octets of a text. -/
def encode (s : List Char) : Bytes := s.flatMap String.utf8EncodeChar

@[simp] theorem encode_nil : encode [] = [] := rfl

@[simp] theorem encode_append (s t : List Char) : encode (s ++ t) = encode s ++ encode t := by
  simp [encode]

end Utf8

/-- The octets of a string. -/
def octets (s : String) : Bytes := Utf8.encode s.toList

/-- The string that `s` encodes, if it is valid UTF-8. -/
def Bytes.toString? (s : Bytes) : Option String :=
  match Utf8.decode s with
  | .ok text => some (String.ofList text)
  | .error _ => none

end ClusterRpc
