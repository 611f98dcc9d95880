import ClusterRpc.Json.Reader
import ClusterRpc.StateError
import ClusterRpc.Store.Disk

/-! # The store of client state

A map from keys to JSON values that outlives a run, in memory or as one JSON object in a file. -/

namespace ClusterRpc

/-- Where client state is kept. -/
inductive Store where
  /-- Values in memory; a fault, if given, meets every read or every write. -/
  | memory (values : Json.Object) (readFault writeFault : Option StateError)
  | file (path : String) (disk : Disk)
deriving DecidableEq, Repr

namespace Store

/-- The object in a state file. A missing file and one of white space hold no values. -/
def readFile (path : String) (disk : Disk) : Except StateError Json.Object :=
  match disk.read path with
  | .error cause => if cause.kind = .notFound then .ok [] else .error (.read path cause)
  | .ok content =>
      match Bytes.toString? content with
      | none => .error (.read path ⟨.invalidData, "stream did not contain valid UTF-8"⟩)
      | some text =>
          if (Text.trim text.toList).isEmpty then .ok []
          else (Json.parseObject content).mapError (.parse path)

/-- The contents of a state file that holds `values`. -/
def fileText (values : Json.Object) : Bytes := octets ((Json.object values).pretty ++ "\n")

/-- Every stored value. -/
def values (store : Store) : Except StateError Json.Object :=
  match store with
  | .memory values readFault _ =>
      match readFault with
      | some fault => .error fault
      | none => .ok values
  | .file path disk => readFile path disk

/-- The value of a key, if it has one. -/
def get (store : Store) (key : String) : Except StateError (Option Json) :=
  store.values.map (·.find? key)

/-- Stores a new value for a key: how that ends, and the store after it. -/
def keep (store : Store) (key : String) (value : Json) : Except StateError Unit × Store :=
  match store with
  | .memory values readFault writeFault =>
      match writeFault with
      | some fault => (.error fault, store)
      | none => (.ok (), .memory (values.insert key value) readFault writeFault)
  | .file path disk =>
      match readFile path disk with
      | .error fault => (.error fault, store)
      | .ok values =>
          let (outcome, disk) := disk.replace path (fileText (values.insert key value))
          (outcome.mapError (.write path), .file path disk)

/-- The store with a new value for a key. -/
def set (store : Store) (key : String) (value : Json) : Except StateError Store :=
  (store.keep key value).1.map fun () => (store.keep key value).2

theorem keep_of_set {store store' : Store} {key : String} {value : Json}
    (h : store.set key value = .ok store') : store.keep key value = (.ok (), store') := by
  rw [set] at h
  cases hkept : (store.keep key value).1 with
  | error fault =>
      rw [hkept] at h
      cases h
  | ok =>
      rw [hkept] at h
      cases h
      rw [← hkept]

end Store

end ClusterRpc
