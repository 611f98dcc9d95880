import ClusterRpc.Proofs.Arrival
import ClusterRpc.Proofs.Extent
import ClusterRpc.Proofs.Heading

/-!
# Records between separators of every kind

A server may end a record with a record separator or with a blank line, put white space around
either, and repeat them. A stream gives one record for each object whatever the runs between them
are made of, and takes nothing else for a record.
-/

namespace ClusterRpc

/-- An empty line in a stream. -/
def blankLine : Bytes := [0x0A, 0x0A]

/-! ## Where terminators are -/

namespace Boundary

section

variable {s text rest : Bytes}

theorem cut_cons {b : UInt8} (hsep : b ≠ recordSeparator) (hfeed : b ≠ 0x0A) (s : Bytes) :
    cut (b :: s) = (cut s).map fun found => (b :: found.1, found.2) := by
  rw [cut, if_neg hsep, if_neg fun h => hfeed h.1]

/-- No record ends in octets without a terminator, nor where they meet what follows, unless that
begins with a line feed. -/
theorem cut_append_of_none (h : cut s = none) {x : Bytes} (hx : x.head? ≠ some 0x0A) :
    cut (s ++ x) = (cut x).map fun found => (s ++ found.1, found.2) := by
  induction s with
  | nil => simp
  | cons b s ih =>
      rw [cut] at h
      split at h
      · cases h
      · rename_i hb
        split at h
        · cases h
        · rename_i hblank
          have hblank' : ¬ (b = 0x0A ∧ (s ++ x).head? = some 0x0A) := by
            cases s with
            | nil => exact fun h => hx h.2
            | cons c s => exact hblank
          rw [List.cons_append, cut, if_neg hb, if_neg hblank', ih (Option.map_eq_none_iff.1 h),
            Option.map_map]
          rfl

theorem cut_eq_none (hsep : recordSeparator ∉ s) (hblank : ¬ blankLine <:+: s) : cut s = none := by
  induction s with
  | nil => rfl
  | cons b s ih =>
      rw [List.mem_cons, not_or] at hsep
      have hb : b ≠ recordSeparator := fun h => hsep.1 h.symm
      have hlines : ¬ (b = 0x0A ∧ s.head? = some 0x0A) := by
        rintro ⟨rfl, hs⟩
        obtain ⟨s, rfl⟩ := List.head?_eq_some_iff.1 hs
        exact hblank (List.prefix_append blankLine s).isInfix
      rw [cut, if_neg hb, if_neg hlines,
        ih hsep.2 fun h => hblank (h.trans (List.suffix_cons b s).isInfix)]
      rfl

theorem cut_ne_none {a t x : Bytes} (ht : IsTerminator t) : cut (a ++ (t ++ x)) ≠ none := by
  induction a with
  | nil => rcases ht with rfl | rfl <;> simp [cut, recordSeparator]
  | cons b a ih =>
      rw [List.cons_append, cut]
      split
      · exact Option.some_ne_none _
      · split
        · exact Option.some_ne_none _
        · rwa [Ne, Option.map_eq_none_iff]

/-- Octets in which a record ends have a terminator. -/
theorem cut_of_ends (h : recordSeparator ∈ s ∨ blankLine <:+: s) :
    ∃ text rest, cut s = some (text, rest) := by
  have hne : cut s ≠ none := by
    rcases h with hmem | ⟨a, x, rfl⟩
    · obtain ⟨a, x, rfl⟩ := List.append_of_mem hmem
      exact cut_ne_none (t := [recordSeparator]) (.inl rfl)
    · rw [List.append_assoc]
      exact cut_ne_none (.inr rfl)
  obtain ⟨⟨text, rest⟩, hcut⟩ := Option.ne_none_iff_exists'.1 hne
  exact ⟨text, rest, hcut⟩

end

end Boundary

/-! ## Runs between records -/

/-- An octet that may stand between two records. -/
def isSeparating (b : UInt8) : Bool := Json.isSpace b || b = recordSeparator

/-- A run of octets after a record, in which the record ends. -/
structure Separates (run : Bytes) : Prop where
  separating : run.all isSeparating = true
  ends : recordSeparator ∈ run ∨ blankLine <:+: run

section

variable {s t : Bytes}

theorem isAsciiSpace_of_isSpace {b : UInt8} (h : Json.isSpace b = true) :
    isAsciiSpace b = true := by
  simp only [Json.isSpace, Bool.or_eq_true, decide_eq_true_eq] at h
  rcases h with ((rfl | rfl) | rfl) | rfl <;> decide

theorem all_isAsciiSpace_of_isSpace (h : s.all Json.isSpace = true) : s.all isAsciiSpace = true :=
  List.all_eq_true.2 fun b hb => isAsciiSpace_of_isSpace (List.all_eq_true.1 h b hb)

theorem isSeparating_of_isSpace {b : UInt8} (h : Json.isSpace b = true) :
    isSeparating b = true := by
  rw [isSeparating, h, Bool.true_or]

theorem all_isSeparating_of_isSpace (h : s.all Json.isSpace = true) :
    s.all isSeparating = true :=
  List.all_eq_true.2 fun b hb => isSeparating_of_isSpace (List.all_eq_true.1 h b hb)

theorem all_isSeparating_of_isLineEnd (h : s.all isLineEnd = true) : s.all isSeparating = true := by
  rw [List.all_eq_true] at h ⊢
  intro b hb
  have hb := h b hb
  simp only [isLineEnd, Bool.or_eq_true, decide_eq_true_eq] at hb
  rcases hb with rfl | rfl <;> decide

theorem all_isSeparating_of_subset (h : s.all isSeparating = true) (ht : t ⊆ s) :
    t.all isSeparating = true :=
  List.all_eq_true.2 fun b hb => List.all_eq_true.1 h b (ht hb)

/-- Without a record separator in it, a run is white space. -/
theorem all_isSpace_of_isSeparating (h : s.all isSeparating = true)
    (hsep : recordSeparator ∉ s) : s.all Json.isSpace = true := by
  rw [List.all_eq_true] at h ⊢
  intro b hb
  have hb' := h b hb
  rw [isSeparating, Bool.or_eq_true, decide_eq_true_eq] at hb'
  rcases hb' with hspace | rfl
  · exact hspace
  · exact absurd hb hsep

/-- A run without a terminator is white space. -/
theorem Boundary.isSpace_of_uncut (h : s.all isSeparating = true)
    (hcut : cut (unmarked s) = none) : (unmarked s).all Json.isSpace = true := by
  apply all_isSpace_of_isSeparating (all_isSeparating_of_subset h (unmarked_suffix s).subset)
  intro hmem
  obtain ⟨text, rest, hcut'⟩ := cut_of_ends (.inl hmem)
  rw [hcut] at hcut'
  cases hcut'

/-- The first record of a run is white space, and a shorter run is left. -/
theorem Boundary.cut_separating {text rest : Bytes} (h : s.all isSeparating = true)
    (hcut : cut (unmarked s) = some (text, rest)) :
    text.all Json.isSpace = true ∧ rest.all isSeparating = true ∧ rest.length < s.length := by
  obtain ⟨-, -, -, hsep⟩ := cut_spec hcut
  have hunmarked := unmarked_suffix s
  refine ⟨all_isSpace_of_isSeparating ?_ hsep, ?_,
    Nat.lt_of_lt_of_le (length_lt_of_cut hcut) hunmarked.length_le⟩
  · exact all_isSeparating_of_subset h
      (List.Subset.trans (prefix_of_cut hcut).subset hunmarked.subset)
  · exact all_isSeparating_of_subset h ((suffix_of_cut hcut).trans hunmarked).subset

end

namespace RecordStream

section

variable {s text rest : Bytes}

theorem nextRecord_of_uncut (h : Boundary.cut (unmarked s) = none) :
    nextRecord ⟨s⟩ = (none, ⟨s⟩) := by
  have htake : ReceiveBuffer.takeRecord? ⟨s⟩ = none := by
    rw [ReceiveBuffer.takeRecord?_eq_cut, h]
    rfl
  rw [nextRecord]
  split <;> simp_all

theorem nextRecord_of_cut (h : Boundary.cut (unmarked s) = some (text, rest)) :
    nextRecord ⟨s⟩ = if text.all isAsciiSpace then nextRecord ⟨rest⟩
      else (some ((Reply.decode text).map Record.classify), ⟨rest⟩) := by
  apply nextRecord_of_some
  rw [ReceiveBuffer.takeRecord?_eq_cut, h]
  rfl

/-- What stands between two records is no record. -/
theorem nextRecord_separating (h : s.all isSeparating = true) : (nextRecord ⟨s⟩).1 = none := by
  induction hn : s.length using Nat.strongRecOn generalizing s with
  | ind n ih =>
      subst hn
      cases hcut : Boundary.cut (unmarked s) with
      | none => rw [nextRecord_of_uncut hcut]
      | some found =>
          obtain ⟨text, rest⟩ := found
          obtain ⟨htext, hrest, hlen⟩ := Boundary.cut_separating h hcut
          rw [nextRecord_of_cut hcut, if_pos (all_isAsciiSpace_of_isSpace htext)]
          exact ih _ hlen hrest rfl

end

end RecordStream

/-! ## Objects on the wire -/

/-- The octets of an object from its opening brace to its closing one. -/
def braced (core : Bytes) : Bytes := 0x7B :: (core ++ [0x7D])

/-- Between white space, the octets say `fields`, and no record ends in them. -/
structure Tells (core : Bytes) (fields : Json.Object) : Prop where
  plain : core.all Json.isPlain = true
  unbroken : ¬ blankLine <:+: core
  parse : ∀ left right : Bytes, left.all Json.isSpace = true → right.all Json.isSpace = true →
    Json.parse (left ++ (braced core ++ right)) = .ok (.object fields)

/-- Within an object no record ends, but one ends in the run after it. -/
theorem Tells.cut {core run text rest : Bytes} {fields : Json.Object} (h : Tells core fields)
    (hrun : Boundary.cut run = some (text, rest)) (x : Bytes) :
    Boundary.cut (braced core ++ (run ++ x)) = some (braced core ++ text, rest ++ x) := by
  have hsep : recordSeparator ∉ core := fun hmem =>
    absurd (List.all_eq_true.1 h.plain _ hmem) (by decide)
  have hcore := Boundary.cut_append_of_none (Boundary.cut_eq_none hsep h.unbroken)
    (x := 0x7D :: (run ++ x)) (by simp)
  rw [braced, List.cons_append, List.append_assoc, List.singleton_append,
    Boundary.cut_cons (by decide) (by decide), hcore, Boundary.cut_cons (by decide) (by decide),
    Boundary.cut_append hrun]
  simp

theorem Tells.decode {core left right : Bytes} {fields : Json.Object} (h : Tells core fields)
    (hleft : left.all Json.isSpace = true) (hright : right.all Json.isSpace = true) :
    Reply.decode (left ++ (braced core ++ right)) = .ok ⟨fields⟩ := by
  rw [Reply.decode, Reply.read, h.parse left right hleft hright]
  rfl

namespace RecordStream

/-- An object is the next record, whatever runs stand before and after it. The rest of the run after
it is left. -/
theorem nextRecord_of_tells {core lead run : Bytes} {fields : Json.Object}
    (h : Tells core fields) (hlead : lead.all isSeparating = true) (hrun : Separates run)
    (x : Bytes) : ∃ left, left.all isSeparating = true ∧
      nextRecord ⟨lead ++ (braced core ++ (run ++ x))⟩ =
        (some (.ok (Record.classify ⟨fields⟩)), ⟨left ++ x⟩) := by
  obtain ⟨text, rest, hcut⟩ := Boundary.cut_of_ends hrun.ends
  obtain ⟨-, -, -, hsep⟩ := Boundary.cut_spec hcut
  have hright : text.all Json.isSpace = true := all_isSpace_of_isSeparating
    (all_isSeparating_of_subset hrun.separating (Boundary.prefix_of_cut hcut).subset) hsep
  have hrest : rest.all isSeparating = true :=
    all_isSeparating_of_subset hrun.separating (Boundary.suffix_of_cut hcut).subset
  induction hn : lead.length using Nat.strongRecOn generalizing lead with
  | ind n ih =>
      subst hn
      have hunmarked : unmarked (lead ++ (braced core ++ (run ++ x))) =
          unmarked lead ++ (braced core ++ (run ++ x)) :=
        unmarked_append (.inr (by simp [braced, recordSeparator]))
      cases hlead' : Boundary.cut (unmarked lead) with
      | some found =>
          obtain ⟨text', rest'⟩ := found
          obtain ⟨hspace, hrest', hlen⟩ := Boundary.cut_separating hlead hlead'
          have hcut' := Boundary.cut_append hlead' (braced core ++ (run ++ x))
          rw [← hunmarked] at hcut'
          rw [nextRecord_of_cut hcut', if_pos (all_isAsciiSpace_of_isSpace hspace)]
          exact ih _ hlen hrest' rfl
      | none =>
          have hspace := Boundary.isSpace_of_uncut hlead hlead'
          have hcut' := Boundary.cut_append_of_none hlead'
            (x := braced core ++ (run ++ x)) (by simp [braced])
          rw [← hunmarked, h.cut hcut] at hcut'
          refine ⟨rest, hrest, ?_⟩
          rw [nextRecord_of_cut hcut', if_neg (by simp [braced, isAsciiSpace]),
            h.decode hspace hright]
          rfl

end RecordStream

/-- An object that is sent: a text of it, and the run after the text. -/
structure Item where
  fields : Json.Object
  text : Bytes
  run : Bytes

namespace Item

/-- The text holds the object and has no blank line in it, and the run ends the record. -/
structure Sound (item : Item) : Prop where
  text : Json.parse item.text = .ok (.object item.fields)
  unbroken : ¬ blankLine <:+: item.text
  run : Separates item.run

def octets (item : Item) : Bytes := item.text ++ item.run

/-- An event if the object says that it is one, or else a reply. -/
def record (item : Item) : Record :=
  if (item.fields.find? "event_class").isSome then .event item.fields else .reply ⟨item.fields⟩

/-- The text of an object is the object between white space. -/
theorem Sound.tells {item : Item} (h : item.Sound) : ∃ left core right,
    item.text = left ++ (braced core ++ right) ∧ left.all Json.isSpace = true ∧
      right.all Json.isSpace = true ∧ Tells core item.fields := by
  obtain ⟨left, core, right, htext, hleft, hplain, hright, hparse⟩ := Json.parse_object h.text
  have hbraced (x : Bytes) : 0x7B :: (core ++ 0x7D :: x) = braced core ++ x := by simp [braced]
  rw [hbraced] at htext
  refine ⟨left, core, right, htext, hleft, hright, hplain, ?_, ?_⟩
  · intro hline
    apply h.unbroken
    rw [htext]
    exact hline.trans ⟨left ++ [0x7B], 0x7D :: right, by simp [braced]⟩
  · intro left right hleft hright
    rw [← hbraced]
    exact hparse left right hleft hright

end Item

/-- The octets of one object after the other. -/
def wire (items : List Item) : Bytes := items.flatMap Item.octets

namespace RecordStream

/-- The records in a buffer are the objects in it, whatever stands between them. -/
theorem drainBuffer_wire {lead : Bytes} {items : List Item} (hlead : lead.all isSeparating = true)
    (hitems : ∀ item ∈ items, item.Sound) :
    (drainBuffer ⟨lead ++ wire items⟩).1 = items.map fun item => .ok item.record := by
  induction items generalizing lead with
  | nil =>
      have hnext := nextRecord_separating hlead
      rw [wire, List.flatMap_nil, List.append_nil, drainBuffer_eq]
      rcases hr : nextRecord ⟨lead⟩ with ⟨next, rest⟩
      rw [hr] at hnext
      obtain rfl : next = none := hnext
      rfl
  | cons item items ih =>
      rw [List.forall_mem_cons] at hitems
      obtain ⟨left, core, right, htext, hleft, hright, htells⟩ := hitems.1.tells
      have hrun := hitems.1.run
      -- White space around the object goes to the runs on either side of it.
      have hsplit : lead ++ wire (item :: items) =
          (lead ++ left) ++ (braced core ++ ((right ++ item.run) ++ wire items)) := by
        simp [wire, Item.octets, htext]
      have hlead' : (lead ++ left).all isSeparating = true := by
        rw [List.all_append, hlead, all_isSeparating_of_isSpace hleft]
        rfl
      have hrun' : Separates (right ++ item.run) := by
        constructor
        · rw [List.all_append, hrun.separating, all_isSeparating_of_isSpace hright]
          rfl
        · apply hrun.ends.imp
          · exact List.mem_append_right right
          · exact fun h => h.trans (List.suffix_append right item.run).isInfix
      obtain ⟨rest, hrest, hnext⟩ := nextRecord_of_tells htells hlead' hrun' (wire items)
      rw [hsplit, drainBuffer_eq, hnext]
      simp only [ih hrest hitems.2, List.map_cons]
      rfl

end RecordStream

/-! ## Before the first object -/

/-- What may stand before the first object, and the header block in it, if there is one. -/
inductive Lead : Bytes → Option Bytes → Prop
  /-- Octets as they stand between objects. -/
  | run {octets : Bytes} (separating : octets.all isSeparating = true) : Lead octets none
  /-- A header block without a blank line in it, and the blank line after it. -/
  | header {block ending : Bytes} (status : statusMark <+: block)
      (unbroken : ∀ other, EndsHead other → ¬ other <:+: block) (ended : EndsHead ending) :
      Lead (block ++ ending) (some block)

namespace Opening

section

variable {s t : Bytes} {b : UInt8}

theorem of_eq_undecided (h : s.dropWhile isAsciiSpace = []) : of s = .undecided := by
  simp [of, h, statusMark]

theorem of_eq_headless (h : s.dropWhile isAsciiSpace = b :: t) (hb : b ≠ 0x48) :
    of s = .headless := by
  rw [of_eq_headless_iff, h, statusMark, List.cons_prefix_cons, List.cons_prefix_cons]
  exact ⟨fun h => hb h.1, fun h => hb h.1.symm⟩

/-- A run is white space up to a record separator in it. -/
theorem dropWhile_separating (h : s.all isSeparating = true) :
    s.dropWhile isAsciiSpace = [] ∨ ∃ t, s.dropWhile isAsciiSpace = recordSeparator :: t := by
  cases hs : s.dropWhile isAsciiSpace with
  | nil => exact .inl rfl
  | cons b t =>
      right
      have hmem : b ∈ s := (List.dropWhile_suffix isAsciiSpace).subset (by rw [hs]; simp)
      have hb : ¬ isAsciiSpace b = true := by
        have hhead := List.head?_dropWhile_not isAsciiSpace s
        rw [hs] at hhead
        simpa using hhead
      have hseparating := List.all_eq_true.1 h b hmem
      rw [isSeparating, Bool.or_eq_true, decide_eq_true_eq] at hseparating
      rcases hseparating with hspace | rfl
      · exact absurd (isAsciiSpace_of_isSpace hspace) hb
      · exact ⟨t, rfl⟩

/-- Octets that begin with an object, after any run, have no header block. -/
theorem of_braced (h : s.all isSeparating = true) (core : Bytes) :
    of (s ++ (braced core ++ t)) = .headless := by
  rcases dropWhile_separating h with hs | ⟨x, hs⟩
  · have hdrop : (s ++ (braced core ++ t)).dropWhile isAsciiSpace = braced core ++ t := by
      rw [List.dropWhile_append, hs]
      simp [braced, isAsciiSpace]
    exact of_eq_headless hdrop (by decide)
  · have hne : s.dropWhile isAsciiSpace ≠ [] := by simp [hs]
    have hdrop := dropWhile_append hne (braced core ++ t)
    rw [hs] at hdrop
    exact of_eq_headless hdrop (by decide)

/-- Runs and objects have no header block. -/
theorem of_wire {items : List Item} (h : s.all isSeparating = true)
    (hitems : ∀ item ∈ items, item.Sound) :
    of (s ++ wire items) = .headless ∨ items = [] ∧ of (s ++ wire items) = .undecided := by
  cases items with
  | nil =>
      rw [wire, List.flatMap_nil, List.append_nil]
      rcases dropWhile_separating h with hs | ⟨x, hs⟩
      · exact .inr ⟨rfl, of_eq_undecided hs⟩
      · exact .inl (of_eq_headless hs (by decide))
  | cons item items =>
      left
      rw [List.forall_mem_cons] at hitems
      obtain ⟨left, core, right, htext, hleft, -, -⟩ := hitems.1.tells
      have hsplit : s ++ wire (item :: items) =
          (s ++ left) ++ (braced core ++ (right ++ (item.run ++ wire items))) := by
        simp [wire, Item.octets, htext]
      rw [hsplit]
      apply of_braced
      rw [List.all_append, h, all_isSeparating_of_isSpace hleft]
      rfl

/-- A header block in front is found, up to ends of lines. -/
theorem of_block {block ending : Bytes} (hstatus : statusMark <+: block)
    (hblock : ∀ other, EndsHead other → ¬ other <:+: block) (hending : EndsHead ending)
    (x : Bytes) : ∃ head trail ends, of (block ++ (ending ++ x)) = .headed head (ends ++ x) ∧
      block = head ++ trail ∧ trail.all isLineEnd = true ∧ ends.all isLineEnd = true := by
  obtain ⟨head, trail, ends, hsplit, hrest⟩ := splitHead_of_block hending hblock x
  refine ⟨head, trail, ends, of_eq_headed_iff.2 ⟨?_, hsplit⟩, hrest⟩
  obtain ⟨rest, rfl⟩ := hstatus
  have hprefix := List.prefix_append statusMark (rest ++ (ending ++ x))
  exact hprefix.trans (by simp [statusMark, isAsciiSpace])

end

end Opening

namespace RecordStream

/-- Whatever runs stand between objects, and whatever stands before the first one, a stream gives
one record for each object and no other, and the session takes in the header block if there is
one. -/
theorem drains_wire (session : Session) {lead : Bytes} {block : Option Bytes} {items : List Item}
    (hlead : Lead lead block) (hitems : ∀ item ∈ items, item.Sound) :
    ∃ stream, Drains (fresh.feed (lead ++ wire items)) session
      (items.map fun item => .ok item.record) stream
      (block.elim session session.readHeaders) := by
  -- Past what stands before the first object there are only runs and objects.
  have hpast {lead : Bytes} (hlead : lead.all isSeparating = true) (session : Session) :
      ∃ stream, drain ⟨⟨lead ++ wire items⟩, false⟩ session =
        (items.map fun item => .ok item.record, stream, session) := by
    rw [drain_of_not_pending, drainBuffer_wire hlead hitems]
    exact ⟨_, rfl⟩
  simp only [drains_iff]
  rw [show fresh.feed (lead ++ wire items) = ⟨⟨lead ++ wire items⟩, true⟩ from rfl,
    drain_of_pending]
  cases hlead with
  | run separating =>
      rcases Opening.of_wire separating hitems with hof | ⟨rfl, hof⟩
      · simp only [hof]
        exact hpast separating session
      · simp only [hof]
        exact ⟨_, rfl⟩
  | header status unbroken ended =>
      obtain ⟨head, trail, ends, hof, hblock, htrail, hends⟩ :=
        Opening.of_block status unbroken ended (wire items)
      rw [← List.append_assoc] at hof
      simp only [hof]
      obtain ⟨stream, hdrain⟩ := hpast (all_isSeparating_of_isLineEnd hends)
        (session.readHeaders head)
      refine ⟨stream, ?_⟩
      rw [hdrain, hblock, Option.elim_some, Session.readHeaders_append session head htrail]

/-- An event, with line feeds before and after it and a blank line that they are part of. -/
def anEvent : Item :=
  ⟨[("event_class", .null)], 0x0A :: octets "\x7b\"event_class\": null\x7d\n",
    [0x0A, 0x0D, 0x1E, 0x20]⟩

/-- An object without entries, with two separators after it. -/
def aReply : Item := ⟨[], octets "\t\x7b\x7d", [0x1E, 0x1E]⟩

/-- A header block with one header in it. -/
def aBlock : Bytes := octets "HTTP/1.1 200 OK\r\nServer: x"

theorem drains_event_and_reply : (∀ item ∈ [anEvent, aReply], item.Sound) ∧
    Lead (aBlock ++ [0x0A, 0x0A]) (some aBlock) ∧
      ∃ stream, Drains (fresh.feed (aBlock ++ [0x0A, 0x0A] ++ wire [anEvent, aReply])) .fresh
        [.ok (.event [("event_class", .null)]), .ok (.reply ⟨[]⟩)] stream
        ⟨[], some "x", false⟩ := by
  have hitems : ∀ item ∈ [anEvent, aReply], item.Sound := by
    rw [List.forall_mem_cons, List.forall_mem_singleton]
    constructor
    · exact ⟨by decide +kernel, by decide +kernel, by decide +kernel, by decide +kernel⟩
    · exact ⟨by decide +kernel, by decide +kernel, by decide +kernel, by decide +kernel⟩
  have hlead : Lead (aBlock ++ [0x0A, 0x0A]) (some aBlock) := by
    refine .header (by decide +kernel) ?_ (.inl rfl)
    rintro other (rfl | rfl)
    · decide +kernel
    · decide +kernel
  have hrecords : [anEvent, aReply].map (fun item => (.ok item.record : Except RpcError Record)) =
      [.ok (.event [("event_class", .null)]), .ok (.reply ⟨[]⟩)] := by decide +kernel
  have hsession : Session.fresh.readHeaders aBlock = ⟨[], some "x", false⟩ := by decide +kernel
  have hdrains := drains_wire .fresh hlead hitems
  rw [hrecords, Option.elim_some, hsession] at hdrains
  exact ⟨hitems, hlead, hdrains⟩

end RecordStream

end ClusterRpc
