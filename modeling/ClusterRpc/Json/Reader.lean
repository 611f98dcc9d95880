import ClusterRpc.Json.Numeral
import ClusterRpc.Json.Printer

/-! # Reading JSON

Every reader takes the unread octets and gives what it read and what is left, or stops. A fault
counts as read every octet up to and including the offending one. -/

namespace ClusterRpc.Json

def isSpace (b : UInt8) : Bool := b = 0x20 || b = 0x09 || b = 0x0A || b = 0x0D

def skipSpace (s : Bytes) : Bytes := s.dropWhile isSpace

/-- Reads the octets of `word`. -/
def keyword (word : Bytes) (s : Bytes) : Read Unit :=
  match word, s with
  | [], s => .ok ((), s)
  | _ :: _, [] => stop .endInValue []
  | w :: word, b :: s => if b = w then keyword word s else stop .expectedIdent s

/-! ## Strings -/

def hexDigit? (b : UInt8) : Option Nat :=
  if 0x30 ≤ b && b ≤ 0x39 then some (b.toNat - 0x30)
  else if 0x41 ≤ b && b ≤ 0x46 then some (b.toNat - 0x41 + 10)
  else if 0x61 ≤ b && b ≤ 0x66 then some (b.toNat - 0x61 + 10)
  else none

/-- Reads four hexadecimal digits, all at once. -/
def fourHex (s : Bytes) : Read Nat :=
  match s with
  | a :: b :: c :: d :: rest =>
      match hexDigit? a, hexDigit? b, hexDigit? c, hexDigit? d with
      | some a, some b, some c, some d => .ok (((a * 16 + b) * 16 + c) * 16 + d, rest)
      | _, _, _, _ => stop .invalidEscape rest
  | _ => stop .endInString []

def isHighSurrogate (n : Nat) : Bool := 0xD800 ≤ n && n ≤ 0xDBFF

def isLowSurrogate (n : Nat) : Bool := 0xDC00 ≤ n && n ≤ 0xDFFF

/-- Reads one octet that has to follow the first half of a surrogate pair. -/
def pairOctet (expected : UInt8) (s : Bytes) : Read Unit :=
  match s with
  | [] => stop .endInString []
  | b :: rest => if b = expected then .ok ((), rest) else stop .endInHexEscape rest

/-- Reads the rest of an escape by code units, after its `u`. -/
def unicodeEscape (s : Bytes) : Except Stop (Char × Bytes) := do
  let (high, s) ← fourHex s
  if isLowSurrogate high then stop .loneSurrogate s
  else if !isHighSurrogate high then .ok (Char.ofNat high, s)
  else
    let ((), s) ← pairOctet 0x5C s
    let ((), s) ← pairOctet 0x75 s
    let (low, s) ← fourHex s
    if isLowSurrogate low then
      .ok (Char.ofNat (0x10000 + (high - 0xD800) * 0x400 + (low - 0xDC00)), s)
    else stop .loneSurrogate s

/-- Reads the rest of an escape, after its backslash. -/
def escape (s : Bytes) : Read Char :=
  match s with
  | [] => stop .endInString []
  | 0x22 :: rest => .ok ('"', rest)
  | 0x5C :: rest => .ok ('\\', rest)
  | 0x2F :: rest => .ok ('/', rest)
  | 0x62 :: rest => .ok ('\x08', rest)
  | 0x66 :: rest => .ok ('\x0c', rest)
  | 0x6E :: rest => .ok ('\n', rest)
  | 0x72 :: rest => .ok ('\r', rest)
  | 0x74 :: rest => .ok ('\t', rest)
  | 0x75 :: rest => unicodeEscape rest
  | _ :: rest => stop .invalidEscape rest

/-- Puts a finished string together from its octets, given in reverse, each with what follows it in
the text. They are checked only now; the first one that cannot be decoded is at fault. -/
def finishString (octets : List (UInt8 × Bytes)) (rest : Bytes) : Read String :=
  let octets := octets.reverse
  let content := octets.map Prod.fst
  match Utf8.decode content with
  | .ok text => .ok (String.ofList text, rest)
  | .error after =>
      match octets[content.length - after.length - 1]? with
      | some (_, unread) => stop .invalidCodePoint unread
      | none => stop .invalidCodePoint rest

/-- Reads a string up to its closing quote. Each step takes at least one octet, so a string of
`fuel` octets is read to its end. -/
def stringFrom (octets : List (UInt8 × Bytes)) : Nat → Bytes → Read String
  | 0, _ | _, [] => stop .endInString []
  | fuel + 1, b :: rest =>
      if b = 0x22 then finishString octets rest
      else if b = 0x5C then
        match escape rest with
        | .ok (c, rest) =>
            stringFrom ((String.utf8EncodeChar c).map (·, rest) |>.reverse |>.append octets)
              fuel rest
        | .error fault => .error fault
      else if b < 0x20 then stop .controlCharacter rest
      else stringFrom ((b, rest) :: octets) fuel rest

/-- Reads a string, after its opening quote. -/
def readString (s : Bytes) : Read String := stringFrom [] s.length s

/-! ## Containers -/

/-- Reads the items of a list after `acc`, up to the closing bracket; `item` reads one. -/
def moreItems (item : Bytes → Read Json) (acc : List Json) : Nat → Bytes → Read (List Json)
  | 0, _ => stop .endInList []
  | fuel + 1, s =>
      match skipSpace s with
      | [] => stop .endInList []
      | 0x5D :: rest => .ok (acc.reverse, rest)
      | 0x2C :: rest =>
          match skipSpace rest with
          | [] => stop .endInValue []
          | 0x5D :: rest => stop .trailingComma rest
          | s =>
              match item s with
              | .ok (v, rest) => moreItems item (v :: acc) fuel rest
              | .error fault => .error fault
      | _ :: rest => stop .expectedListEnd rest

/-- Reads a list, after its opening bracket. -/
def readItems (item : Bytes → Read Json) (s : Bytes) : Read (List Json) :=
  match skipSpace s with
  | [] => stop .endInList []
  | 0x5D :: rest => .ok ([], rest)
  | s =>
      match item s with
      | .ok (v, rest) => moreItems item [v] (rest.length + 1) rest
      | .error fault => .error fault

/-- Reads a colon and the value after it. -/
def afterKey (item : Bytes → Read Json) (s : Bytes) : Read Json :=
  match skipSpace s with
  | [] => stop .endInObject []
  | 0x3A :: rest => item rest
  | _ :: rest => stop .expectedColon rest

/-- Reads an entry of an object, after the opening quote of its key. -/
def readEntry (item : Bytes → Read Json) (s : Bytes) : Except Stop ((String × Json) × Bytes) := do
  let (key, s) ← readString s
  let (v, s) ← afterKey item s
  .ok ((key, v), s)

/-- Reads the entries of an object into `acc`, up to the closing brace. A later entry replaces an
earlier one with its key. -/
def moreEntries (item : Bytes → Read Json) (acc : Object) : Nat → Bytes → Read Object
  | 0, _ => stop .endInObject []
  | fuel + 1, s =>
      match skipSpace s with
      | [] => stop .endInObject []
      | 0x7D :: rest => .ok (acc, rest)
      | 0x2C :: rest =>
          match skipSpace rest with
          | [] => stop .endInValue []
          | 0x7D :: rest => stop .trailingComma rest
          | 0x22 :: rest =>
              match readEntry item rest with
              | .ok ((key, v), rest) => moreEntries item (acc.insert key v) fuel rest
              | .error fault => .error fault
          | _ :: rest => stop .keyMustBeString rest
      | _ :: rest => stop .expectedObjectEnd rest

/-- Reads an object, after its opening brace. -/
def readEntries (item : Bytes → Read Json) (s : Bytes) : Read Object :=
  match skipSpace s with
  | [] => stop .endInObject []
  | 0x7D :: rest => .ok ([], rest)
  | 0x22 :: rest =>
      match readEntry item rest with
      | .ok ((key, v), rest) => moreEntries item (Keyed.insert [] key v) (rest.length + 1) rest
      | .error fault => .error fault
  | _ :: rest => stop .keyMustBeString rest

/-! ## Values -/

/-- Reads a scalar that starts with `b`. -/
def readScalar (b : UInt8) (rest : Bytes) : Read Json :=
  if b = 0x6E then (keyword [0x75, 0x6C, 0x6C] rest).map fun r => (.null, r.2)
  else if b = 0x74 then (keyword [0x72, 0x75, 0x65] rest).map fun r => (.bool true, r.2)
  else if b = 0x66 then (keyword [0x61, 0x6C, 0x73, 0x65] rest).map fun r => (.bool false, r.2)
  else if b = 0x2D then (Numeral.read true rest).map fun r => (.number r.1, r.2)
  else if Numeral.isDigit b then
    (Numeral.read false (b :: rest)).map fun r => (.number r.1, r.2)
  else if b = 0x22 then (readString rest).map fun r => (.string r.1, r.2)
  else stop .expectedValue rest

/-- Reads a value; `depth` containers may still be opened. -/
def readValue : (depth : Nat) → Bytes → Read Json
  | depth, s =>
      match skipSpace s with
      | [] => stop .endInValue []
      | b :: rest =>
          if b = 0x5B then
            match depth with
            | 0 => stop .recursionLimit rest
            | depth + 1 => (readItems (readValue depth) rest).map fun r => (.array r.1, r.2)
          else if b = 0x7B then
            match depth with
            | 0 => stop .recursionLimit rest
            | depth + 1 => (readEntries (readValue depth) rest).map fun r => (.object r.1, r.2)
          else readScalar b rest

/-- How many containers may stand inside one another. -/
def depthLimit : Nat := 127

/-- Takes the result of a reader if nothing but white space follows. -/
def toEnd {α : Type} (r : Read α) : Except Stop α :=
  match r with
  | .error fault => .error fault
  | .ok (v, rest) =>
      match skipSpace rest with
      | [] => .ok v
      | _ :: rest => .error ⟨.trailingCharacters, rest⟩

/-- The value that a text holds. -/
def parse (text : Bytes) : Except Fault Json :=
  (toEnd (readValue depthLimit text)).mapError (·.locate text)

/-- Reads an object. Of another value a scalar is read, a list is not, and then its type is at
fault. -/
def readObject (s : Bytes) : Read Object :=
  match skipSpace s with
  | [] => stop .endInValue []
  | 0x7B :: rest => readEntries (readValue (depthLimit - 1)) rest
  | 0x5B :: rest => stop (.wrongType (described (.array [])) "a map") (0x5B :: rest)
  | b :: rest =>
      match readScalar b rest with
      | .ok (v, rest) => stop (.wrongType (described v) "a map") rest
      | .error fault => .error fault

/-- The object that a text holds. -/
def parseObject (text : Bytes) : Except Fault Object :=
  (toEnd (readObject text)).mapError (·.locate text)

end ClusterRpc.Json
