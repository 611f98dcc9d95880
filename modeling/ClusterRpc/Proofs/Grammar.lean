import ClusterRpc.Proofs.Encoding
import Mathlib.Data.List.Basic

/-!
# The texts of JSON

The grammar of JSON over characters. A value has a text for each way to write it: with white space
wherever that may stand, with any escape, with numbers of any size and containers of any depth.
-/

namespace ClusterRpc.Json.Grammar

/-! ## Tokens -/

/-- The white space of JSON. -/
def Blank (s : Text) : Prop := ∀ c ∈ s, c ∈ [' ', '\t', '\n', '\r']

instance (s : Text) : Decidable (Blank s) := List.decidableBAll _ s

def Digits (s : Text) : Prop := s ≠ [] ∧ s.all Char.isDigit = true

instance (s : Text) : Decidable (Digits s) := inferInstanceAs (Decidable (_ ∧ _))

/-- The digits in front of a point. Only zero itself begins with a zero. -/
def Whole (s : Text) : Prop := Digits s ∧ (s.head? = some '0' → s = ['0'])

instance (s : Text) : Decidable (Whole s) := inferInstanceAs (Decidable (_ ∧ (_ → _)))

/-- Nothing, or a point and digits after it. -/
inductive Fraction : Text → Prop
  | none : Fraction []
  | some {s : Text} (digits : Digits s) : Fraction ('.' :: s)

/-- Nothing, or a power of ten. -/
inductive Exponent : Text → Prop
  | none : Exponent []
  | some {e : Char} {sign s : Text} (mark : e ∈ ['e', 'E']) (signed : sign ∈ [[], ['+'], ['-']])
      (digits : Digits s) : Exponent (e :: (sign ++ s))

inductive Number : Text → Prop
  | mk {sign whole fraction exponent : Text} (signed : sign ∈ [[], ['-']]) (digits : Whole whole)
      (part : Fraction fraction) (power : Exponent exponent) :
      Number (sign ++ whole ++ fraction ++ exponent)

def isHexDigit (c : Char) : Bool := c.isDigit || c ∈ "abcdefABCDEF".toList

/-- One character of a string as it is or escaped, or the number of a code unit. -/
inductive Letter : Text → Prop
  | printed {c : Char} (high : 0x20 ≤ c.toNat) (quote : c ≠ '"') (escape : c ≠ '\\') : Letter [c]
  | escaped {c : Char} (letter : c ∈ "\"\\/bfnrt".toList) : Letter ['\\', c]
  | numbered {s : Text} (four : s.length = 4) (digits : s.all isHexDigit = true) :
      Letter ('\\' :: 'u' :: s)

/-- A string with its quotes. -/
inductive Quoted : Text → Prop
  | mk {letters : List Text} (letter : ∀ s ∈ letters, Letter s) :
      Quoted ('"' :: (letters.flatten ++ ['"']))

/-! ## Values -/

/-- What a text may be a text of. -/
inductive Category where
  | value
  | object
  /-- A value with white space around it. -/
  | element
  /-- Elements of an array, at least one. -/
  | elements
  /-- A name and an element. -/
  | entry
  /-- Entries of an object, at least one. -/
  | entries

/-- The texts of each category. -/
inductive Derives : Category → Text → Prop
  | null : Derives .value "null".toList
  | true : Derives .value "true".toList
  | false : Derives .value "false".toList
  | number {s : Text} (number : Number s) : Derives .value s
  | string {s : Text} (string : Quoted s) : Derives .value s
  | blankArray {w : Text} (blank : Blank w) : Derives .value ('[' :: (w ++ [']']))
  | array {s : Text} (elements : Derives .elements s) : Derives .value ('[' :: (s ++ [']']))
  | nested {s : Text} (object : Derives .object s) : Derives .value s
  | blankObject {w : Text} (blank : Blank w) : Derives .object ('{' :: (w ++ ['}']))
  | object {s : Text} (entries : Derives .entries s) : Derives .object ('{' :: (s ++ ['}']))
  | element {w s w' : Text} (before : Blank w) (value : Derives .value s) (after : Blank w') :
      Derives .element (w ++ s ++ w')
  | lastElement {s : Text} (element : Derives .element s) : Derives .elements s
  | elements {s t : Text} (first : Derives .element s) (others : Derives .elements t) :
      Derives .elements (s ++ ',' :: t)
  | entry {w key w' s : Text} (before : Blank w) (name : Quoted key) (after : Blank w')
      (element : Derives .element s) : Derives .entry (w ++ key ++ w' ++ ':' :: s)
  | lastEntry {s : Text} (entry : Derives .entry s) : Derives .entries s
  | entries {s t : Text} (first : Derives .entry s) (others : Derives .entries t) :
      Derives .entries (s ++ ',' :: t)

/-- A text of an object, with white space in front of it and behind it. -/
def IsDocument (text : Text) : Prop :=
  ∃ w s w', text = w ++ s ++ w' ∧ Blank w ∧ Derives .object s ∧ Blank w'

/-! ## Control characters -/

/-- White space, or no control character. -/
def IsPlain (c : Char) : Prop := c ∈ [' ', '\t', '\n', '\r'] ∨ 0x20 ≤ c.toNat

instance (c : Char) : Decidable (IsPlain c) := inferInstanceAs (Decidable (_ ∨ _))

/-- There is no control character in a text but white space. -/
def Plain (s : Text) : Prop := ∀ c ∈ s, IsPlain c

instance (s : Text) : Decidable (Plain s) := List.decidableBAll _ s

section

variable {c : Char} {s t : Text}

theorem Plain.append (hs : Plain s) (ht : Plain t) : Plain (s ++ t) :=
  fun c hc => (List.mem_append.1 hc).elim (hs c) (ht c)

theorem Plain.cons (hc : IsPlain c) (hs : Plain s) : Plain (c :: s) :=
  List.forall_mem_cons.2 ⟨hc, hs⟩

theorem Blank.plain (h : Blank s) : Plain s := fun c hc => .inl (h c hc)

theorem isPlain_of_isDigit (h : c.isDigit = true) : IsPlain c :=
  .inr (Nat.le_trans (by decide) (Text.toNat_of_isDigit h).1)

theorem isPlain_of_isHexDigit (h : isHexDigit c = true) : IsPlain c := by
  rw [isHexDigit, Bool.or_eq_true, decide_eq_true_eq] at h
  rcases h with h | h
  · exact isPlain_of_isDigit h
  · have hletters : Plain "abcdefABCDEF".toList := by decide
    exact hletters c h

theorem Digits.plain (h : Digits s) : Plain s :=
  fun c hc => isPlain_of_isDigit (List.all_eq_true.1 h.2 c hc)

theorem Fraction.plain (h : Fraction s) : Plain s := by
  cases h with
  | none => exact nofun
  | some digits => exact digits.plain.cons (by decide)

theorem Exponent.plain (h : Exponent s) : Plain s := by
  cases h with
  | none => exact nofun
  | @some e sign s mark signed digits =>
      have hmark : Plain ['e', 'E'] := by decide
      have hsign : ∀ sign ∈ [[], ['+'], ['-']], Plain sign := by decide
      exact ((hsign sign signed).append digits.plain).cons (hmark e mark)

theorem Number.plain (h : Number s) : Plain s := by
  cases h with
  | @mk sign _ _ _ signed digits part power =>
      have hsign : ∀ sign ∈ [[], ['-']], Plain sign := by decide
      exact (((hsign sign signed).append digits.1.plain).append part.plain).append power.plain

theorem Letter.plain (h : Letter s) : Plain s := by
  cases h with
  | printed high => exact Plain.cons (.inr high) nofun
  | @escaped c letter =>
      have hletters : Plain "\"\\/bfnrt".toList := by decide
      exact Plain.cons (by decide) (Plain.cons (hletters c letter) nofun)
  | numbered _ digits =>
      have hdigits : Plain _ := fun c hc => isPlain_of_isHexDigit (List.all_eq_true.1 digits c hc)
      exact (hdigits.cons (by decide)).cons (by decide)

theorem Quoted.plain (h : Quoted s) : Plain s := by
  cases h with
  | mk letter =>
      refine Plain.cons (by decide) (Plain.append (fun c hc => ?_) (by decide))
      obtain ⟨l, hl, hc⟩ := List.mem_flatten.1 hc
      exact (letter l hl).plain c hc

theorem Derives.plain {category : Category} (h : Derives category s) : Plain s := by
  induction h with
  | null | true | false => decide
  | number number => exact number.plain
  | string string => exact string.plain
  | blankArray blank => exact (blank.plain.append (by decide)).cons (by decide)
  | array _ ih => exact (ih.append (by decide)).cons (by decide)
  | nested _ ih => exact ih
  | blankObject blank => exact (blank.plain.append (by decide)).cons (by decide)
  | object _ ih => exact (ih.append (by decide)).cons (by decide)
  | element before _ after ih => exact (before.plain.append ih).append after.plain
  | lastElement _ ih => exact ih
  | elements _ _ ih ih' => exact ih.append (ih'.cons (by decide))
  | entry before name after _ ih =>
      exact ((before.plain.append name.plain).append after.plain).append (ih.cons (by decide))
  | lastEntry _ ih => exact ih
  | entries _ _ ih ih' => exact ih.append (ih'.cons (by decide))

theorem IsDocument.plain (h : IsDocument s) : Plain s := by
  obtain ⟨w, s, w', rfl, before, object, after⟩ := h
  exact (before.plain.append object.plain).append after.plain

theorem IsDocument.ne_nil (h : IsDocument s) : s ≠ [] := by
  obtain ⟨w, s, w', rfl, -, object, -⟩ := h
  have hne : s ≠ [] := by cases object <;> exact List.cons_ne_nil _ _
  simp [hne]

/-- No record separator stands in the octets of a document. -/
theorem IsDocument.recordSeparator_notMem (h : IsDocument s) :
    recordSeparator ∉ Utf8.encode s := by
  intro hmem
  obtain ⟨c, hc, hnat⟩ := Utf8.exists_of_mem_encode hmem (by decide)
  obtain rfl : c = Char.ofNat 0x1E := Char.toNat_inj.1 hnat
  exact absurd (h.plain _ hc) (by decide)

theorem IsDocument.encode_ne_nil (h : IsDocument s) : Utf8.encode s ≠ [] := by
  obtain ⟨c, s, rfl⟩ := List.exists_cons_of_ne_nil h.ne_nil
  rw [Utf8.encode_cons]
  exact List.append_ne_nil_of_left_ne_nil String.utf8EncodeChar_ne_nil _

end

end ClusterRpc.Json.Grammar
