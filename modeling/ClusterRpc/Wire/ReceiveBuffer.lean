import ClusterRpc.ErrorKind
import ClusterRpc.Text.Utf8

/-! # Received octets and the records in them

A record ends at the first blank line, or at a record separator. A separator at the very front
introduces the record instead of ending an empty one. -/

namespace ClusterRpc

/-- The control octet that separates streamed records. -/
def recordSeparator : UInt8 := 0x1E

/-- Where the first record of a buffer lies: its first octet, the place after its last one, and how
many octets go when it is consumed. -/
structure Boundary where
  start : Nat
  stop : Nat
  consumed : Nat
deriving DecidableEq, Repr

namespace Boundary

/-- The first terminator, with `offset` octets before the given ones: where it starts and ends. -/
def scan (offset : Nat) : Bytes → Option (Nat × Nat)
  | [] => none
  | b :: rest =>
      if b = recordSeparator then some (offset, offset + 1)
      else if b = 0x0A ∧ rest.head? = some 0x0A then some (offset, offset + 2)
      else scan (offset + 1) rest

def find? (s : Bytes) : Option Boundary :=
  let start := if s.head? = some recordSeparator then 1 else 0
  (scan start (s.drop start)).map fun found => ⟨start, found.1, found.2⟩

end Boundary

/-- Why a buffer could not grow to a capacity. -/
inductive BufferError where
  /-- More than any buffer may hold. -/
  | tooLarge (requested : Nat)
  /-- More than there is memory for. -/
  | noMemory (requested : Nat)
deriving DecidableEq, Repr

namespace BufferError

def message : BufferError → String
  | tooLarge requested =>
      s!"failed to grow receive buffer to {requested} bytes: memory allocation failed because the computed capacity exceeded the collection's maximum"
  | noMemory requested =>
      s!"failed to grow receive buffer to {requested} bytes: memory allocation failed because the memory allocator returned an error"

def kind (_ : BufferError) : ErrorKind := .readFailed

end BufferError

/-- Octets received and not yet consumed. -/
structure ReceiveBuffer where
  bytes : Bytes
deriving DecidableEq, Repr

namespace ReceiveBuffer

def empty : ReceiveBuffer := ⟨[]⟩

def isEmpty (b : ReceiveBuffer) : Bool := b.bytes.isEmpty

def length (b : ReceiveBuffer) : Nat := b.bytes.length

/-- The most octets a buffer may hold. -/
def maxCapacity : Nat := 0x7FFFFFFFFFFFFFFF

/-- The octets that fit the address space of a process. -/
def addressSpace : Nat := 0x800000000000

/-- Whether room for `capacity` octets can be had. -/
def ensureCapacity (capacity : Nat) : Except BufferError Unit :=
  if maxCapacity < capacity then .error (.tooLarge capacity)
  else if addressSpace < capacity then .error (.noMemory capacity)
  else .ok ()

def append (b : ReceiveBuffer) (s : Bytes) : ReceiveBuffer := ⟨b.bytes ++ s⟩

def discardFront (b : ReceiveBuffer) (count : Nat) : ReceiveBuffer := ⟨b.bytes.drop count⟩

def hasRecord (b : ReceiveBuffer) : Bool := (Boundary.find? b.bytes).isSome

/-- The first complete record, without its boundary. -/
def record? (b : ReceiveBuffer) : Option Bytes :=
  (Boundary.find? b.bytes).map fun found =>
    (b.bytes.drop found.start).take (found.stop - found.start)

/-- Drops the first complete record with its boundary, if there is one. -/
def consumeRecord (b : ReceiveBuffer) : ReceiveBuffer :=
  match Boundary.find? b.bytes with
  | some found => b.discardFront found.consumed
  | none => b

/-- The first complete record, and the buffer without it. -/
def takeRecord? (b : ReceiveBuffer) : Option (Bytes × ReceiveBuffer) :=
  b.record?.map fun record => (record, b.consumeRecord)

end ReceiveBuffer

theorem Boundary.lt_of_scan {offset stop consumed : Nat} {s : Bytes}
    (h : Boundary.scan offset s = some (stop, consumed)) :
    offset ≤ stop ∧ stop < consumed ∧ consumed ≤ offset + s.length := by
  induction s generalizing offset with
  | nil => simp [Boundary.scan] at h
  | cons b rest ih =>
      rw [Boundary.scan] at h
      split at h
      · simp only [Option.some.injEq, Prod.mk.injEq] at h
        simp only [List.length_cons]
        omega
      · split at h
        · rename_i hb
          cases rest with
          | nil => simp at hb
          | cons c rest =>
              simp only [Option.some.injEq, Prod.mk.injEq] at h
              simp only [List.length_cons]
              omega
        · have := ih h
          simp only [List.length_cons]
          omega

/-- A record takes at least one octet out of the buffer. -/
theorem ReceiveBuffer.length_lt_of_takeRecord? {b rest : ReceiveBuffer} {record : Bytes}
    (h : b.takeRecord? = some (record, rest)) : rest.length < b.length := by
  simp only [takeRecord?, record?, consumeRecord, Option.map_map, Option.map_eq_some_iff] at h
  obtain ⟨found, hfound, h⟩ := h
  simp only [Function.comp_apply, hfound, Prod.mk.injEq] at h
  obtain ⟨-, rfl⟩ := h
  simp only [Boundary.find?, Option.map_eq_some_iff] at hfound
  obtain ⟨⟨stop, consumed⟩, hscan, rfl⟩ := hfound
  have hlt := Boundary.lt_of_scan hscan
  simp only [discardFront, length, List.length_drop]
  simp only [List.length_drop] at hlt
  split at hlt
  · rename_i hs
    cases hb : b.bytes with
    | nil => simp [hb] at hs
    | cons c cs => simp only [hb, List.length_cons] at hlt ⊢; omega
  · omega

/-- Takes records until none is complete. -/
def ReceiveBuffer.takeAll (b : ReceiveBuffer) : List Bytes × ReceiveBuffer :=
  match h : b.takeRecord? with
  | none => ([], b)
  | some (record, rest) =>
      have := ReceiveBuffer.length_lt_of_takeRecord? h
      let others := takeAll rest
      (record :: others.1, others.2)
termination_by b.length

end ClusterRpc
