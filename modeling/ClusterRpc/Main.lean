import ClusterRpc.Cli.Live
import Std.Async.DNS
import Std.Async.TCP
import Std.Async.Timer

/-! # The program `cmonctl`

Makes the events of a live run happen: connections, files, output and pauses. -/

namespace ClusterRpc.Machine

open Cli Std.Async

/-! ## Failures -/

/-- Error number and text of a failure; the number is zero if there is none. -/
def details : IO.Error → Nat × String
  | .alreadyExists _ n text | .otherError n text | .resourceBusy n text
  | .resourceVanished n text | .unsupportedOperation n text | .hardwareFault n text
  | .unsatisfiedConstraints n text | .illegalOperation n text | .protocolError n text
  | .timeExpired n text | .interrupted _ n text | .noFileOrDirectory _ n text
  | .invalidArgument _ n text | .permissionDenied _ n text | .resourceExhausted _ n text
  | .inappropriateType _ n text | .noSuchThing _ n text =>
      (if n.toNat < 0x80000000 then n.toNat else 0x100000000 - n.toNat, text)
  | .unexpectedEof => (0, "unexpected end of file")
  | .userError text => (0, text)

def errorNumber (e : IO.Error) : Nat := (details e).1

def failure (e : IO.Error) : IoError :=
  match details e with
  | (0, text) => ⟨.other, text⟩
  | (n, _) => .ofErrno n

def timedOut : IoError := .ofKind .timedOut

/-! ## Files -/

/-- The name of a place in the file system. -/
def nameOf (place : Path) : String := "/" ++ "/".intercalate place

/-- Adds a place of the file system to what is known of the disk. -/
def lookAt (disk : Disk) (place : Path) : IO Disk := do
  match ← (IO.FS.readBinFile (nameOf place)).toBaseIO with
  | .ok content => return disk.put place content.toList
  | .error e =>
      match errorNumber e with
      | 2 | 20 => return disk
      | 21 => return disk.makeDirectory place
      | n => return { disk with sealed := some (.directories 0, .ofErrno n) }

/-- Adds what a run looks at, and the places on the way to it. -/
partial def explore (wanted : Disk → List String) (disk : Disk) (seen : List Path) : IO Disk := do
  let places := ((wanted disk).map (Path.resolve disk.here)).flatMap fun place =>
    Disk.ancestors place ++ [place]
  match places.find? (!seen.contains ·) with
  | none => return disk
  | some place => explore wanted (← lookAt disk place) (place :: seen)

/-- Replaces a file as a whole, with every directory on the way. -/
def save (place : Path) (content : Bytes) : IO Unit := do
  let draft := nameOf place ++ ".draft"
  IO.FS.createDirAll (nameOf place.dropLast)
  IO.FS.writeBinFile draft (ByteArray.mk content.toArray)
  IO.FS.rename draft (nameOf place)

/-- Stores a value in the state file, and gives the store after that. A file that cannot be written
keeps what it holds. -/
def remember (store : Store) (key : String) (value : Json) : IO Store := do
  match store.keep key value with
  | (.ok (), .file path disk) =>
      let place := Path.resolve disk.here path
      match disk.file? place with
      | some content => discard (save place content).toBaseIO
      | none => pure ()
      return .file path disk
  | (_, store) => return store

/-! ## Connections -/

/-- An open connection, if there is one, and how long to wait for it. -/
structure Line where
  socket : Option TCP.Socket.Client
  timeoutMs : Nat

/-- Does `x`, but no longer than the timeout, if there is one. -/
def within {α : Type} (timeoutMs : Nat) (x : Async α) (late : α) (failed : IO.Error → α) : IO α := do
  let guarded : Async (Option α) := do
    try return some (← x)
    catch e => return some (failed e)
  let timer : Async (Option α) := do
    sleep (.ofNat timeoutMs)
    return none
  let outcome ← if timeoutMs = 0 then guarded.block else (Async.race guarded timer).block
  return outcome.getD late

def socketAddress (address : Std.Net.IPAddr) (number : UInt16) : Std.Net.SocketAddress :=
  match address with
  | .v4 address => .v4 ⟨address, number⟩
  | .v6 address => .v6 ⟨address, number⟩

/-- What a dial that met an error fails with. -/
def dialFailure (label : String) (e : IoError) : TransportError :=
  if e.isTimeout then .connectTimeout label else .connectRefused label e

/-- Dials each address of a host in turn. -/
def dialEach (label : String) (number : UInt16) (timeoutMs : Nat) :
    List Std.Net.IPAddr → TransportError → IO (Except TransportError TCP.Socket.Client)
  | [], failed => return .error failed
  | address :: rest, _ => do
      let socket ← TCP.Socket.Client.mk
      let connecting : Async (Except TransportError Unit) := do
        socket.connect (socketAddress address number)
        socket.noDelay
        return .ok ()
      match ← within timeoutMs connecting (.error (.connectTimeout label))
          fun e => .error (dialFailure label (failure e)) with
      | .ok () => return .ok socket
      | .error failed => dialEach label number timeoutMs rest failed

/-- Opens a connection. There is no TLS. -/
def dial (host : String) (number : Nat) (settings : TransportSettings) : IO (Dial × Line) := do
  let label := endpointLabel host number
  let refused (e : TransportError) : Dial × Line := (.refused fun _ => e, ⟨none, 0⟩)
  if settings.useTls then return refused (.tlsConfig "TLS is not supported")
  match ← (DNS.getAddrInfo host "" none).block.toBaseIO with
  | .error e =>
      let text := (details e).2
      return refused (.hostNotFound label s!"failed to lookup address information: {text}")
  | .ok addresses =>
      let nowhere := TransportError.hostNotFound label "no addresses resolved"
      match ← dialEach label number.toUInt16 settings.timeoutMs addresses.toList nowhere with
      | .ok socket => return (LiveRun.opened, ⟨some socket, settings.timeoutMs⟩)
      | .error e => return refused e

/-- Sends octets. -/
def send (line : Line) (bytes : Bytes) : IO WriteStep :=
  match line.socket with
  | none => return .fail (.ofKind .notConnected)
  | some socket =>
      within line.timeoutMs
        (do socket.send (ByteArray.mk bytes.toArray); return .accept bytes.length)
        (.fail timedOut) fun e => .fail (failure e)

/-- Waits for octets to arrive. -/
def receive (line : Line) : IO ReadStep := do
  match line.socket with
  | none => return .fail (.ofKind .notConnected)
  | some socket =>
      let arrived (chunk : Option ByteArray) : Async ReadStep := do
        match chunk with
        | some bytes => return .data bytes.toList
        | none => return .eof
      let reading : Selectable ReadStep := .case (socket.recvSelector readChunk.toUInt64) arrived
      let waiting : Async ReadStep := do
        if line.timeoutMs = 0 then Selectable.one #[reading]
        else
          let timer ← Selector.sleep (.ofNat line.timeoutMs)
          Selectable.one #[reading, .case timer fun _ => return .fail timedOut]
      match ← waiting.block.toBaseIO with
      | .ok step => return step
      | .error e => return .fail (failure e)

def hangUp (line : Line) : IO Unit := do
  match line.socket with
  | none => return
  | some socket => discard socket.shutdown.block.toBaseIO

/-! ## The run -/

/-- Everything that is left in a stream. -/
partial def readAll (stream : IO.FS.Stream) (before : ByteArray) : IO ByteArray := do
  let chunk ← stream.read 4096
  if chunk.isEmpty then return before
  readAll stream (before ++ chunk)

/-- Writes to a stream, and says whether it took everything. -/
def tell (stream : IO.FS.Stream) (bytes : Bytes) : IO Bool := do
  let writing : IO Unit := do
    stream.write (ByteArray.mk bytes.toArray)
    stream.flush
  match ← writing.toBaseIO with
  | .ok () => return true
  | .error _ => return false

def tellOut (r : LiveRun) (bytes : Bytes) : IO LiveRun := do
  if bytes.isEmpty then return r
  if ← tell (← IO.getStdout) bytes then return { r with outTold := r.outTold + bytes.length }
  return r.outClosed

def tellErr (r : LiveRun) (bytes : Bytes) : IO LiveRun := do
  if bytes.isEmpty then return r
  if ← tell (← IO.getStderr) bytes then return { r with errTold := r.errTold + bytes.length }
  return r.errClosed

/-- Makes the events of a run happen, one after the other, and gives its exit code. -/
partial def proceed (r : LiveRun) (store : Option Store) (line : Line) : IO Nat := do
  match r.next? with
  | some (.dial host number settings) =>
      let (met, line) ← dial host number settings
      proceed (r.dialled met) store line
  | some (.write bytes) => proceed (r.writeMet (← send line bytes)) store line
  | some (.read _) => proceed (r.readMet (← receive line)) store line
  | some .shutdown =>
      hangUp line
      proceed r.happened store ⟨none, 0⟩
  | some (.set key value) =>
      proceed r.happened (← store.mapM fun store => remember store key value) line
  | some (.deliver record) =>
      let r ← tellOut r.happened (eventLines [record])
      proceed (← tellErr r (replyLines [record])) store line
  | some .pause =>
      (sleep (.ofNat r.backoffMs)).block
      proceed r.happened store line
  | some _ => proceed r.happened store line
  | none =>
      let told ← tellOut r (r.outcome.stdout.drop r.outTold)
      let told ← tellErr told (told.outcome.stderr.drop told.errTold)
      return told.outcome.exitCode

end ClusterRpc.Machine

open ClusterRpc ClusterRpc.Cli ClusterRpc.Machine in
def main (arguments : List String) : IO UInt32 := do
  let arguments := "cmonctl" :: arguments
  let environment ← variableNames.filterMapM fun name => do
    return (← IO.getEnv name).map fun value => (name, value)
  let here := Path.resolve [] (← IO.currentDir).toString
  let input ←
    if readsInput arguments then (readAll (← IO.getStdin) .empty).toBaseIO else pure (.ok .empty)
  let (stdin, stdinFault) : Bytes × Option IoError := match input with
    | .ok text => (text.toList, none)
    | .error e => ([], some (failure e))
  let s : Surroundings :=
    { environment, disk := ⟨here, [], [], none⟩, stdin, stdinFault, dials := [], pauses := []
      cancelled := false, outRoom := none, errRoom := none }
  let settingsFiles (disk : Disk) : List String := { s with disk }.settingsFiles arguments
  let s := { s with disk := ← explore settingsFiles s.disk [] }
  let stateFile (disk : Disk) : List String := ({ s with disk }.stateFile? arguments).toList
  let s := { s with disk := ← explore stateFile s.disk [] }
  let store := (s.stateFile? arguments).map fun path => Store.file path s.disk
  return (← proceed (.start arguments s) store ⟨none, 0⟩).toUInt32
