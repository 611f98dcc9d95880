/-! # Failures reported by the operating system -/

namespace ClusterRpc

/-- The class of a system failure. -/
inductive IoKind where
  | notFound
  | permissionDenied
  | connectionRefused
  | connectionReset
  | connectionAborted
  | notConnected
  | addressNotAvailable
  | networkUnreachable
  | hostUnreachable
  | brokenPipe
  | resourceBusy
  | notADirectory
  | isADirectory
  | wouldBlock
  | invalidInput
  | invalidData
  | timedOut
  | writeZero
  | interrupted
  | unexpectedEnd
  | outOfMemory
  | other
deriving DecidableEq, Repr

/-- The text of a failure of which nothing but the class is known. -/
def IoKind.text : IoKind → String
  | notFound => "entity not found"
  | permissionDenied => "permission denied"
  | connectionRefused => "connection refused"
  | connectionReset => "connection reset"
  | connectionAborted => "connection aborted"
  | notConnected => "not connected"
  | addressNotAvailable => "address not available"
  | networkUnreachable => "network unreachable"
  | hostUnreachable => "host unreachable"
  | brokenPipe => "broken pipe"
  | resourceBusy => "resource busy"
  | notADirectory => "not a directory"
  | isADirectory => "is a directory"
  | wouldBlock => "operation would block"
  | invalidInput => "invalid input parameter"
  | invalidData => "invalid data"
  | timedOut => "timed out"
  | writeZero => "write zero"
  | interrupted => "operation interrupted"
  | unexpectedEnd => "unexpected end of file"
  | outOfMemory => "out of memory"
  | other => "other error"

/-- A failure of a system call: its class, which decides how it is handled, and its text. -/
structure IoError where
  kind : IoKind
  text : String
deriving DecidableEq, Repr

namespace IoError

def ofKind (kind : IoKind) : IoError := ⟨kind, kind.text⟩

/-- Class and text of the error numbers that sockets and files report. -/
def errno (n : Nat) : IoKind × String :=
  match n with
  | 1 => (.permissionDenied, "Operation not permitted")
  | 2 => (.notFound, "No such file or directory")
  | 4 => (.interrupted, "Interrupted system call")
  | 11 => (.wouldBlock, "Resource temporarily unavailable")
  | 12 => (.outOfMemory, "Cannot allocate memory")
  | 13 => (.permissionDenied, "Permission denied")
  | 16 => (.resourceBusy, "Device or resource busy")
  | 20 => (.notADirectory, "Not a directory")
  | 21 => (.isADirectory, "Is a directory")
  | 22 => (.invalidInput, "Invalid argument")
  | 32 => (.brokenPipe, "Broken pipe")
  | 99 => (.addressNotAvailable, "Cannot assign requested address")
  | 101 => (.networkUnreachable, "Network is unreachable")
  | 103 => (.connectionAborted, "Software caused connection abort")
  | 104 => (.connectionReset, "Connection reset by peer")
  | 107 => (.notConnected, "Transport endpoint is not connected")
  | 110 => (.timedOut, "Connection timed out")
  | 111 => (.connectionRefused, "Connection refused")
  | 113 => (.hostUnreachable, "No route to host")
  | _ => (.other, s!"Unknown error {n}")

/-- The failure with a given error number. -/
def ofErrno (n : Nat) : IoError :=
  let text := (errno n).2
  ⟨(errno n).1, s!"{text} (os error {n})"⟩

/-- A call that a signal cut short. -/
def isInterrupt (e : IoError) : Bool := e.kind == .interrupted

/-- A call that gave up waiting. -/
def isTimeout (e : IoError) : Bool := e.kind == .wouldBlock || e.kind == .timedOut

end IoError

end ClusterRpc
