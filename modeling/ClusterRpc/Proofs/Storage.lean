import ClusterRpc.Proofs.Printing
import ClusterRpc.Proofs.Replacement
import ClusterRpc.Store.Basic

/-!
# A state file as a map

Every value that is stored goes through the whole file: it is read, one entry is set, and all of it
is printed and put in the place of the file. As long as the file can be replaced, that cannot be
told from a map in memory, however many calls there are. What is in the file between two calls is
the text of an object that lasts, which is the invariant of a run.
-/

namespace ClusterRpc

namespace Text

theorem mem_dropWhile {p : Char → Bool} {c : Char} {s : Text} (h : c ∈ s) (hc : p c = false) :
    c ∈ s.dropWhile p := by
  rw [← List.takeWhile_append_dropWhile (p := p) (l := s)] at h
  refine (List.mem_append.1 h).resolve_left fun hmem => ?_
  rw [List.all_eq_true.1 List.all_takeWhile c hmem] at hc
  cases hc

/-- A text with a character that is not blank is more than blanks. -/
theorem trim_of_mem {c : Char} {s : Text} (h : c ∈ s) (hc : isBlank c = false) :
    (trim s).isEmpty = false := by
  have hmem : c ∈ trim s :=
    List.mem_reverse.2 (mem_dropWhile (List.mem_reverse.2 (mem_dropWhile h hc)) hc)
  exact List.isEmpty_eq_false_iff.2 (List.ne_nil_of_mem hmem)

end Text

open Json (Lasting Exact depthLimit)

theorem Bytes.toString?_octets (text : String) : (octets text).toString? = some text := by
  rw [toString?, octets, Utf8.decode_encode]
  simp

namespace Store

/-! ## Reading -/

section

variable {path : String} {disk : Disk} {text : String} {values : Json.Object}

theorem readFile_of_missing {cause : IoError} (h : disk.read path = .error cause)
    (hkind : cause.kind = .notFound) : readFile path disk = .ok [] := by
  rw [readFile, h]
  exact if_pos hkind

theorem readFile_of_text (h : disk.read path = .ok (octets text)) :
    readFile path disk = if (Text.trim text.toList).isEmpty then .ok []
      else (Json.parseObject (octets text)).mapError (.parse path) := by
  rw [readFile, h]
  simp only [Bytes.toString?_octets]

/-- A text that is an object is read as that object. -/
theorem readFile_of_object (h : disk.read path = .ok (octets text))
    (hparse : Json.parseObject (octets text) = .ok values) : readFile path disk = .ok values := by
  have hblank : (Text.trim text.toList).isEmpty = false := by
    obtain ⟨c, hc, hbrace⟩ := Utf8.exists_of_mem_encode (Json.brace_mem_of_parseObject hparse)
      (by decide)
    obtain rfl : c = '\x7b' := Char.toNat_inj.1 hbrace
    exact Text.trim_of_mem hc (by decide)
  rw [readFile_of_text h, hblank, hparse]
  rfl

/-- What a store in a file has, going by the file. -/
inductive Holds (path : String) (disk : Disk) : Json.Object → Prop
  | missing {cause : IoError} : disk.read path = .error cause → cause.kind = .notFound →
      Holds path disk []
  | blank {text : String} : disk.read path = .ok (octets text) →
      (Text.trim text.toList).isEmpty = true → Holds path disk []
  | object {text : String} {values : Json.Object} : disk.read path = .ok (octets text) →
      Json.parseObject (octets text) = .ok values → Holds path disk values

theorem Holds.readFile (h : Holds path disk values) : readFile path disk = .ok values := by
  cases h with
  | missing hread hkind => exact readFile_of_missing hread hkind
  | blank hread hblank => rw [readFile_of_text hread, if_pos hblank]
  | object hread hparse => exact readFile_of_object hread hparse

/-- An object that a file holds lasts if its numbers do. -/
theorem Holds.lasting (h : Holds path disk values) (hexact : (Json.object values).Exact) :
    Lasting depthLimit (.object values) := by
  cases h with
  | missing | blank => exact .object .nil fun e he => absurd he List.not_mem_nil
  | object _ hparse => exact hexact.lasting_of_parseObject hparse

end

/-! ## Calls -/

/-- A call of a store. -/
inductive Call where
  | get (key : String)
  | set (key : String) (value : Json)

/-- What a call of a store comes to. -/
inductive Answer where
  | got (result : Except StateError (Option Json))
  | done (result : Except StateError Unit)
deriving DecidableEq

/-- The answer to a call that fails. -/
def Call.failed (fault : StateError) : Call → Answer
  | .get _ => .got (.error fault)
  | .set .. => .done (.error fault)

/-- The values that a call stores are read as themselves, one level inside the file. -/
def Call.Lasting : Call → Prop
  | .get _ => True
  | .set _ value => value.Lasting (depthLimit - 1)

/-- The answer to a call, and the store after it. -/
def answer (store : Store) : Call → Answer × Store
  | .get key => (.got (store.get key), store)
  | .set key value => (.done (store.keep key value).1, (store.keep key value).2)

/-- The answers to calls one after the other, and the store after them. -/
def answerAll (store : Store) : List Call → List Answer × Store
  | [] => ([], store)
  | call :: calls =>
      let rest := (store.answer call).2.answerAll calls
      ((store.answer call).1 :: rest.1, rest.2)

/-- A file has the values of a store in memory, and can be replaced. -/
structure Mirrors (path : String) (disk : Disk) (values : Json.Object) : Prop where
  isOpen : disk.Open path
  reads : readFile path disk = .ok values
  lasting : Lasting depthLimit (.object values)

section

variable {path : String} {disk : Disk} {values : Json.Object}

/-- A value is stored with all others as they were. -/
theorem Mirrors.keep (h : Mirrors path disk values) (key : String) {value : Json}
    (hvalue : value.Lasting (depthLimit - 1)) : ∃ disk',
      (file path disk).keep key value = (.ok (), .file path disk') ∧
        Mirrors path disk' (values.insert key value) := by
  obtain ⟨disk', hreplace, hopen, hread⟩ := h.isOpen.replace (fileText (values.insert key value))
  have hlasting : Lasting depthLimit (.object (values.insert key value)) := by
    cases h.lasting with
    | object hsorted hvalues =>
        refine .object (hsorted.insert key value) fun e he => ?_
        rcases Keyed.mem_insert he with rfl | he
        · exact hvalue
        · exact hvalues e he
  refine ⟨disk', ?_, hopen, readFile_of_object hread ?_, hlasting⟩
  · simp only [Store.keep, h.reads, hreplace]
    rfl
  · rw [octets_append]
    exact hlasting.parseObject_pretty rfl

/-- One call is answered as in memory. -/
theorem Mirrors.answer (h : Mirrors path disk values) {call : Call} (hcall : call.Lasting) :
    ∃ disk' values', (file path disk).answer call =
        (((memory values none none).answer call).1, .file path disk') ∧
      ((memory values none none).answer call).2 = .memory values' none none ∧
      Mirrors path disk' values' := by
  cases call with
  | get key =>
      refine ⟨disk, values, ?_, rfl, h⟩
      simp only [Store.answer, Store.get, Store.values, h.reads]
  | set key value =>
      obtain ⟨disk', hkeep, hmirrors⟩ := h.keep key hcall
      refine ⟨disk', values.insert key value, ?_, rfl, hmirrors⟩
      simp only [Store.answer, hkeep]
      rfl

/-- Calls one after the other are answered as in memory. -/
theorem Mirrors.answerAll (h : Mirrors path disk values) {calls : List Call}
    (hcalls : ∀ call ∈ calls, call.Lasting) :
    ((file path disk).answerAll calls).1 = ((memory values none none).answerAll calls).1 := by
  -- The files differ from call to call, but each mirrors the values that memory has by then.
  induction calls generalizing disk values with
  | nil => rfl
  | cons call calls ih =>
      obtain ⟨hcall, hcalls⟩ := List.forall_mem_cons.1 hcalls
      obtain ⟨disk', values', hfile, hmemory, hmirrors⟩ := h.answer hcall
      simp only [Store.answerAll, hfile, hmemory, ih hmirrors hcalls]

/-- A file that cannot be read fails every call and stays as it is. -/
theorem answerAll_of_fault {fault : StateError} (h : readFile path disk = .error fault)
    (calls : List Call) :
    (file path disk).answerAll calls = (calls.map (Call.failed fault), .file path disk) := by
  have hanswer (call : Call) :
      (file path disk).answer call = (call.failed fault, .file path disk) := by
    cases call with
    | get key =>
        simp only [answer, get, Store.values, h]
        rfl
    | set key value =>
        simp only [answer, keep, h]
        rfl
  induction calls with
  | nil => rfl
  | cons call calls ih => simp only [answerAll, hanswer, ih, List.map_cons]

/-- A call to store a value puts all of the new text in the place of the file, or it fails and every
file is as it was. -/
theorem keep_files (path : String) (disk : Disk) (key : String) (value : Json) : ∃ disk',
    ((file path disk).keep key value).2 = .file path disk' ∧
      ((((file path disk).keep key value).1 = .ok () ∧ ∃ values,
          readFile path disk = .ok values ∧ disk.SameFilesBut (Path.resolve disk.here path)
            (fileText (values.insert key value)) disk') ∨
        ∃ fault, ((file path disk).keep key value).1 = .error fault ∧ disk.SameFiles disk') := by
  cases hread : readFile path disk with
  | error fault =>
      refine ⟨disk, ?_, .inr ⟨fault, ?_, fun _ => rfl⟩⟩ <;> simp only [keep, hread]
  | ok values =>
      refine ⟨(disk.replace path (fileText (values.insert key value))).2, ?_, ?_⟩
      · simp only [keep, hread]
      · rcases disk.replace_files path (fileText (values.insert key value)) with
          ⟨hdone, hfiles⟩ | ⟨cause, hfailed, hfiles⟩
        · refine .inl ⟨?_, values, rfl, hfiles⟩
          simp only [keep, hread, hdone]
          rfl
        · refine .inr ⟨.write path cause, ?_, hfiles⟩
          simp only [keep, hread, hfailed]
          rfl

end

/-- A store in a file answers as a map in memory that starts with what the file holds, which is
nothing if there is no file or nothing but blanks in it. Any other text fails every call and stays.
Whatever becomes of a call to store a value, the file is replaced as a whole or not at all. -/
theorem file_answers (path : String) (disk : Disk) :
    (∀ values calls, disk.Open path → Holds path disk values → (Json.object values).Exact →
      (∀ call ∈ calls, Call.Lasting call) →
        ((file path disk).answerAll calls).1 = ((memory values none none).answerAll calls).1) ∧
    (∀ text fault calls, disk.read path = .ok (octets text) →
      (Text.trim text.toList).isEmpty = false →
      Json.parseObject (octets text) = .error fault →
        (file path disk).answerAll calls =
          (calls.map (Call.failed (.parse path fault)), .file path disk)) ∧
    ∀ key value, ∃ disk', ((file path disk).keep key value).2 = .file path disk' ∧
      ((((file path disk).keep key value).1 = .ok () ∧ ∃ values,
          readFile path disk = .ok values ∧ disk.SameFilesBut (Path.resolve disk.here path)
            (fileText (values.insert key value)) disk') ∨
        ∃ fault, ((file path disk).keep key value).1 = .error fault ∧ disk.SameFiles disk') := by
  refine ⟨fun values calls hopen hholds hexact hcalls => ?_,
    fun text fault calls hread hblank hparse => answerAll_of_fault ?_ calls, keep_files path disk⟩
  · exact Mirrors.answerAll ⟨hopen, hholds.readFile, hholds.lasting hexact⟩ hcalls
  · rw [readFile_of_text hread, hblank, hparse]
    rfl

/-- The text of a state file with an empty record. -/
def bareState : String := "\x7b\"redirects\": []\x7d"

/-- A disk with this one file. -/
def bareDisk : Disk := ⟨[], [(["lib", "cmon.state"], octets bareState)], [["lib"]], none⟩

theorem file_answers_bare :
    bareDisk.Open "/lib/cmon.state" ∧
      Holds "/lib/cmon.state" bareDisk [("redirects", .array [])] ∧
      ((file "/lib/cmon.state" bareDisk).answerAll
        [.set "window" (.ofNat 80), .get "redirects", .get "window", .get "cookies"]).1 =
          [.done (.ok ()), .got (.ok (some (.array []))), .got (.ok (some (.ofNat 80))),
            .got (.ok none)] := by
  have hopen : bareDisk.Open "/lib/cmon.state" := ⟨rfl, by decide, by decide⟩
  have hread : bareDisk.read "/lib/cmon.state" = .ok (octets bareState) := by decide
  have hholds : Holds "/lib/cmon.state" bareDisk [("redirects", .array [])] :=
    .object hread (by decide +kernel)
  have hexact : (Json.object [("redirects", .array [])]).Exact :=
    .object (List.forall_mem_singleton.2 (.array fun _ h => absurd h List.not_mem_nil))
  have hcalls : ∀ call ∈ [Call.set "window" (.ofNat 80), .get "redirects", .get "window",
      .get "cookies"], Call.Lasting call := by
    have hnumber : (Json.Number.integer 80).ReadsBack :=
      Json.Number.readsBack_integer (by decide) (by decide)
    refine List.forall_mem_cons.2 ⟨.number hnumber, ?_⟩
    simp [Call.Lasting]
  refine ⟨hopen, hholds, ?_⟩
  rw [(file_answers "/lib/cmon.state" bareDisk).1 _ _ hopen hholds hexact hcalls]
  decide

end Store

end ClusterRpc
