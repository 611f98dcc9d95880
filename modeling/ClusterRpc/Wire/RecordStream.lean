import ClusterRpc.Reply
import ClusterRpc.Session
import ClusterRpc.Wire.Head
import ClusterRpc.Wire.ReceiveBuffer

/-! # The records of a subscription

A subscription answers with an optional header block and then with records without end. A record
with the field `event_class` is an event, any other one a reply. -/

namespace ClusterRpc

/-- One record of a subscription. -/
inductive Record where
  | event (fields : Json.Object)
  | reply (reply : Reply)
deriving DecidableEq, Repr

/-- The field that marks an event. -/
def Record.discriminator : String := "event_class"

def Record.classify (r : Reply) : Record :=
  if (r.get? discriminator).isSome then .event r.fields else .reply r

/-- The ASCII white space: blank, tab, line feed, form feed and carriage return. -/
def isAsciiSpace (b : UInt8) : Bool :=
  b = 0x20 || b = 0x09 || b = 0x0A || b = 0x0C || b = 0x0D

/-- How the octets of a subscription begin, as far as they are known. -/
inductive Opening where
  /-- More octets are needed to tell. -/
  | undecided
  | headless
  | headed (head body : Bytes)
deriving DecidableEq, Repr

/-- The octets a status line starts with. -/
def statusMark : Bytes := [0x48, 0x54, 0x54, 0x50, 0x2F]

/-- A header block starts with a status line, after any white space, which counts as part of it. -/
def Opening.of (s : Bytes) : Opening :=
  let rest := s.dropWhile isAsciiSpace
  if rest.isPrefixOf statusMark && rest.length < statusMark.length then .undecided
  else if !statusMark.isPrefixOf rest then .headless
  else match splitHead s with
    | none => .undecided
    | some (head, body) => .headed head body

/-- The octets of a subscription that are not yet turned into records. -/
structure RecordStream where
  buffer : ReceiveBuffer
  headPending : Bool
deriving DecidableEq, Repr

namespace RecordStream

/-- A stream before its header block. -/
def fresh : RecordStream := ⟨.empty, true⟩

def feed (stream : RecordStream) (s : Bytes) : RecordStream :=
  { stream with buffer := stream.buffer.append s }

def hasRecord (stream : RecordStream) : Bool := !stream.headPending && stream.buffer.hasRecord

/-- The header block that a stream gets past next, if enough of it is there. -/
def block? (stream : RecordStream) : Option Bytes :=
  match stream.headPending, Opening.of stream.buffer.bytes with
  | true, .headed head _ => some head
  | _, _ => none

/-- Gets past the header block, which the session takes in, if enough of it is there. -/
def passHead (stream : RecordStream) (session : Session) : RecordStream × Session :=
  if stream.headPending then
    match Opening.of stream.buffer.bytes with
    | .undecided => (stream, session)
    | .headless => ({ stream with headPending := false }, session)
    | .headed head body => (⟨⟨body⟩, false⟩, session.readHeaders head)
  else (stream, session)

/-- The first record that is not only white space, decoded. -/
def nextRecord (buffer : ReceiveBuffer) : Option (Except RpcError Record) × ReceiveBuffer :=
  match h : buffer.takeRecord? with
  | none => (none, buffer)
  | some (text, rest) =>
      have := ReceiveBuffer.length_lt_of_takeRecord? h
      if text.all isAsciiSpace then nextRecord rest
      else (some ((Reply.decode text).map Record.classify), rest)
termination_by buffer.length

/-- The next complete record, if there is one. A malformed record is consumed too. -/
def next (stream : RecordStream) (session : Session) :
    Option (Except RpcError Record) × RecordStream × Session :=
  let (stream, session) := stream.passHead session
  if stream.headPending then (none, stream, session)
  else
    let (record, buffer) := nextRecord stream.buffer
    (record, { stream with buffer }, session)

theorem length_nextRecord_lt {buffer : ReceiveBuffer} {record : Except RpcError Record}
    (h : (nextRecord buffer).1 = some record) : (nextRecord buffer).2.length < buffer.length := by
  fun_induction nextRecord buffer with
  | case1 => simp at h
  | case2 buffer text rest _ hlt _ ih => exact Nat.lt_trans (ih h) hlt
  | case3 buffer text rest _ hlt => exact hlt

/-- Decodes every complete record of a buffer. -/
def drainBuffer (buffer : ReceiveBuffer) : List (Except RpcError Record) × ReceiveBuffer :=
  match h : (nextRecord buffer).1 with
  | none => ([], (nextRecord buffer).2)
  | some record =>
      have := length_nextRecord_lt h
      let others := drainBuffer (nextRecord buffer).2
      (record :: others.1, others.2)
termination_by buffer.length

/-- Decodes every complete record, going on after malformed ones. -/
def drain (stream : RecordStream) (session : Session) :
    List (Except RpcError Record) × RecordStream × Session :=
  let (stream, session) := stream.passHead session
  if stream.headPending then ([], stream, session)
  else
    let (records, buffer) := drainBuffer stream.buffer
    (records, { stream with buffer }, session)

end RecordStream

end ClusterRpc
