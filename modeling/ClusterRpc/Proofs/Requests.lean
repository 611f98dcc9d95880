import ClusterRpc.Proofs.Encoding
import ClusterRpc.Proofs.Cookies
import ClusterRpc.Wire.Request

/-!
# Requests read back

What a client writes as the frame of a request is read as that request.
-/

namespace ClusterRpc

/-! ## Lines -/

/-- The line end of a header block. -/
def lineEnd : Text := ['\r', '\n']

/-- A text that takes up one line. -/
structure IsLine (s : Text) : Prop where
  nonempty : s ≠ []
  inLine : s.InLine

namespace Text

variable {s : Text}

theorem InLine.append {t : Text} (hs : InLine s) (ht : InLine t) : InLine (s ++ t) :=
  fun c hc => (List.mem_append.1 hc).elim (hs c) (ht c)

theorem InLine.cons {c : Char} (hc : c ≠ '\r' ∧ c ≠ '\n') (hs : InLine s) : InLine (c :: s) :=
  List.forall_mem_cons.2 ⟨hc, hs⟩

theorem InLine.intercalate {sep : Text} (hsep : InLine sep) {texts : List Text}
    (h : ∀ t ∈ texts, InLine t) : InLine (sep.intercalate texts) := by
  induction texts with
  | nil => exact nofun
  | cons t texts ih =>
      rw [List.forall_mem_cons] at h
      cases texts with
      | nil => simpa using h.1
      | cons u texts =>
          rw [List.intercalate_cons_cons]
          exact (h.1.append hsep).append (ih h.2)

theorem splitWhere_of_forall {p : Char → Bool} (h : ∀ c ∈ s, p c = false) :
    splitWhere p s = [s] := by
  induction s with
  | nil => rfl
  | cons c s ih =>
      rw [List.forall_mem_cons] at h
      rw [splitWhere_cons, h.1, ih h.2]
      rfl

theorem splitWhere_append {p : Char → Bool} {c : Char} (h : ∀ c ∈ s, p c = false)
    (hc : p c = true) (t : Text) : splitWhere p (s ++ c :: t) = s :: splitWhere p t := by
  induction s with
  | nil => rw [List.nil_append, splitWhere_cons, if_pos hc]
  | cons d s ih =>
      rw [List.forall_mem_cons] at h
      rw [List.cons_append, splitWhere_cons, h.1, ih h.2]
      rfl

/-- The lines of a text, but for what ends them: a carriage return stays with its line. -/
theorem splitWhere_intercalate {lines : List Text} (h : ∀ line ∈ s :: lines, IsLine line) :
    ∃ last ended, splitWhere (· == '\n') (lineEnd.intercalate (s :: lines)) =
        ended.map (· ++ ['\r']) ++ [last] ∧ ended ++ [last] = s :: lines := by
  induction lines generalizing s with
  | nil =>
      refine ⟨s, [], ?_, rfl⟩
      rw [List.intercalate_singleton]
      exact splitWhere_of_forall fun c hc => by simpa using ((h s List.mem_cons_self).inLine c hc).2
  | cons t lines ih =>
      rw [List.forall_mem_cons] at h
      obtain ⟨last, ended, hsplit, hlines⟩ := ih h.2
      refine ⟨last, s :: ended, ?_, by rw [List.cons_append, hlines]⟩
      have hjoin : s ++ lineEnd ++ lineEnd.intercalate (t :: lines) =
          (s ++ ['\r']) ++ '\n' :: lineEnd.intercalate (t :: lines) := by simp [lineEnd]
      rw [List.intercalate_cons_cons, hjoin, splitWhere_append _ rfl, hsplit]
      · rfl
      · intro c hc
        rcases List.mem_append.1 hc with hc | hc
        · simpa using (h.1.inLine c hc).2
        · rw [List.mem_singleton.1 hc]
          rfl

/-- Lines are found again after they were put together. -/
theorem lines_intercalate {lines : List Text} (h : ∀ line ∈ s :: lines, IsLine line) :
    Text.lines (lineEnd.intercalate (s :: lines)) = s :: lines := by
  obtain ⟨last, ended, hsplit, hlines⟩ := splitWhere_intercalate h
  have hlast : last ≠ [] := (h last (by rw [← hlines]; simp)).nonempty
  have hended : (ended.map (· ++ ['\r'])).map
      (fun line => if line.getLast? = some '\r' then line.dropLast else line) = ended := by
    rw [List.map_map]
    refine (List.map_congr_left fun line _ => ?_).trans (List.map_id _)
    simp
  rw [Text.lines, hsplit, List.reverse_append, List.reverse_singleton, List.singleton_append]
  dsimp only
  rw [← List.map_reverse, List.map_reverse, List.map_reverse, List.reverse_reverse, hended,
    if_neg (by simpa using hlast), hlines]

end Text

/-! ## The end of a header block -/

section

variable {s x : Bytes}

theorem findBlankLine_skip (h : ∀ b ∈ s, isLineEnd b = false) (n : Nat) (x : Bytes) :
    findBlankLine n (s ++ x) = findBlankLine (n + s.length) x := by
  induction s generalizing n with
  | nil => rfl
  | cons b s ih =>
      rw [List.forall_mem_cons] at h
      have hb : b ≠ 0x0A ∧ b ≠ 0x0D := by simpa [isLineEnd, and_comm] using h.1
      rw [List.cons_append, findBlankLine, ih h.2]
      · congr 1
        rw [List.length_cons]
        omega
      · rintro body rfl
        exact absurd rfl hb.1
      · rintro body rfl
        exact absurd rfl hb.2

/-- The end of one line is no blank line if another line follows. -/
theorem findBlankLine_lineEnd {b : UInt8} (hb : isLineEnd b = false) (n : Nat) (x : Bytes) :
    findBlankLine n (0x0D :: 0x0A :: b :: x) = findBlankLine (n + 2) (b :: x) := by
  have hb : b ≠ 0x0A ∧ b ≠ 0x0D := by simpa [isLineEnd, and_comm] using hb
  rw [findBlankLine, findBlankLine]
  all_goals simp [hb]

/-- Two line ends, as octets. -/
def headEnd : Bytes := [0x0D, 0x0A, 0x0D, 0x0A]

theorem isLineEnd_of_mem_encode {s : Text} (h : IsLine s) : ∀ b ∈ Utf8.encode s,
    isLineEnd b = false := by
  intro b hb
  rw [isLineEnd, Bool.or_eq_false_iff, decide_eq_false_iff_not, decide_eq_false_iff_not]
  have hchar {d : Char} (hd : b.toNat = d.toNat) (hlt : d.toNat < 0x80) : d ∈ s := by
    obtain ⟨c, hc, hnat⟩ := Utf8.exists_of_mem_encode hb (by omega)
    rwa [← Char.toNat_inj.1 (hnat.trans hd)]
  constructor
  · rintro rfl
    exact (h.inLine _ (hchar (d := '\r') rfl (by decide))).1 rfl
  · rintro rfl
    exact (h.inLine _ (hchar (d := '\n') rfl (by decide))).2 rfl

theorem exists_encode_eq_cons {s : Text} (h : IsLine s) (t : Text) :
    ∃ b y, Utf8.encode (s ++ t) = b :: y ∧ isLineEnd b = false := by
  obtain ⟨c, s', rfl⟩ := List.exists_cons_of_ne_nil h.nonempty
  obtain ⟨b, y, hc⟩ := List.exists_cons_of_ne_nil (String.utf8EncodeChar_ne_nil (c := c))
  refine ⟨b, y ++ Utf8.encode (s' ++ t), ?_, ?_⟩
  · rw [List.cons_append, Utf8.encode_cons, hc, List.cons_append]
  · apply isLineEnd_of_mem_encode h
    rw [Utf8.encode_cons, hc]
    exact List.mem_cons_self

/-- The first blank line after a block of lines is the one at its end, whatever follows. -/
theorem findBlankLine_encode {s : Text} {lines : List Text}
    (h : ∀ line ∈ s :: lines, IsLine line) (n : Nat) (x : Bytes) :
    findBlankLine n (Utf8.encode (lineEnd.intercalate (s :: lines)) ++ (headEnd ++ x)) =
      some (n + (Utf8.encode (lineEnd.intercalate (s :: lines))).length, x) := by
  induction lines generalizing s n with
  | nil =>
      rw [List.intercalate_singleton,
        findBlankLine_skip (isLineEnd_of_mem_encode (h s List.mem_cons_self))]
      rfl
  | cons t lines ih =>
      rw [List.forall_mem_cons] at h
      have hrest := ih h.2 (n + (Utf8.encode s).length + 2)
      -- The next line has an octet in front that ends no line.
      obtain ⟨b, y, hy, hb⟩ :
          ∃ b y, Utf8.encode (lineEnd.intercalate (t :: lines)) = b :: y ∧ isLineEnd b = false := by
        obtain ⟨u, hu⟩ : ∃ u, lineEnd.intercalate (t :: lines) = t ++ u := by
          cases lines with
          | nil => exact ⟨[], by simp⟩
          | cons u lines => exact ⟨_, by rw [List.intercalate_cons_cons, List.append_assoc]⟩
        rw [hu]
        exact exists_encode_eq_cons (h.2 t List.mem_cons_self) u
      rw [hy] at hrest
      have hjoin : Utf8.encode (lineEnd.intercalate (s :: t :: lines)) =
          Utf8.encode s ++ 0x0D :: 0x0A :: b :: y := by
        rw [List.intercalate_cons_cons, Utf8.encode_append, Utf8.encode_append, hy,
          List.append_assoc]
        rfl
      rw [hjoin, List.append_assoc, findBlankLine_skip (isLineEnd_of_mem_encode h.1),
        List.cons_append, List.cons_append, List.cons_append, findBlankLine_lineEnd hb,
        ← List.cons_append, hrest]
      simp only [List.length_append, List.length_cons, Option.some.injEq, Prod.mk.injEq, and_true]
      omega

theorem splitHead_encode {s : Text} {lines : List Text} (h : ∀ line ∈ s :: lines, IsLine line)
    (x : Bytes) :
    splitHead (Utf8.encode (lineEnd.intercalate (s :: lines)) ++ (headEnd ++ x)) =
      some (Utf8.encode (lineEnd.intercalate (s :: lines)), x) := by
  rw [splitHead, findBlankLine_encode h, Option.map_some, Nat.zero_add, List.take_left]

end

/-! ## Header fields -/

/-- A header field: its name and its value. -/
abbrev Field := String × String

namespace Field

/-- The line of a header field. -/
def line (f : Field) : Text := f.1.toList ++ ':' :: ' ' :: f.2.toList

/-- A header field whose line is read as that field. -/
structure Legible (f : Field) : Prop where
  unmarked : ':' ∉ f.1.toList
  name : Text.InLine f.1.toList
  value : Text.InLine f.2.toList

variable {f : Field}

theorem legible {name value : String} (hname : ':' ∉ name.toList ∧ Text.InLine name.toList)
    (hvalue : Text.InLine value.toList) : Legible (name, value) :=
  ⟨hname.1, hname.2, hvalue⟩

theorem Legible.isLine (h : Legible f) : IsLine f.line where
  nonempty := by simp [line]
  inLine := h.name.append ((h.value.cons (by decide)).cons (by decide))

theorem Legible.field?_line (h : Legible f) :
    ResponseHead.field? f.line = some (f.1.toList, ' ' :: f.2.toList) :=
  Text.cut_append h.unmarked _

end Field

/-- The header lines of a block, name and value apart. -/
def fieldsOf (block : Bytes) : List (Text × Text) :=
  ((Text.lines (Utf8.lossy block)).drop 1).filterMap ResponseHead.field?

/-- Whether a header line has a name, whatever the case of its letters. -/
def isNamed (name : String) (other : Text) : Bool :=
  Text.sameLetters (Text.trim other) name.toList

/-- The values of the header lines of a block that have a name. -/
def valuesOf (name : String) (block : Bytes) : List Text :=
  ((fieldsOf block).filter fun field => isNamed name field.1).map fun field => Text.trim field.2

/-- The block of a first line and of the lines of header fields. -/
def blockOf (first : Text) (fields : List Field) : Bytes :=
  Utf8.encode (lineEnd.intercalate (first :: fields.map Field.line))

section

variable {first : Text} {fields : List Field}

theorem isLine_of_legible (hfirst : IsLine first) (h : ∀ f ∈ fields, f.Legible) :
    ∀ line ∈ first :: fields.map Field.line, IsLine line := by
  intro line hline
  rcases List.mem_cons.1 hline with rfl | hline
  · exact hfirst
  · obtain ⟨f, hf, rfl⟩ := List.mem_map.1 hline
    exact (h f hf).isLine

theorem fieldsOf_blockOf (hfirst : IsLine first) (h : ∀ f ∈ fields, f.Legible) :
    fieldsOf (blockOf first fields) = fields.map fun f => (f.1.toList, ' ' :: f.2.toList) := by
  rw [fieldsOf, blockOf, Utf8.lossy_encode, Text.lines_intercalate (isLine_of_legible hfirst h),
    List.drop_one, List.tail_cons, List.filterMap_map, ← List.filterMap_eq_map]
  exact List.filterMap_congr fun f hf => (h f hf).field?_line

/-- A header block ends where it was ended, whatever follows. -/
theorem splitHead_blockOf (hfirst : IsLine first) (h : ∀ f ∈ fields, f.Legible) (body : Bytes) :
    splitHead (blockOf first fields ++ (headEnd ++ body)) = some (blockOf first fields, body) :=
  splitHead_encode (isLine_of_legible hfirst h) body

end

theorem ResponseHead.contentLength_parse (block : Bytes) :
    (parse block).contentLength =
      ((fieldsOf block).find? fun field => isNamed "content-length" field.1).bind fun field =>
        Text.numeral? maxLength (Text.trim field.2) := by
  rw [parse, fieldsOf]
  split
  · rename_i hlines
    rw [hlines]
    rfl
  · rename_i first others hlines
    rw [hlines]
    rfl

/-! ## Numerals -/

namespace Text

variable {c : Char} {n : Nat}

theorem isBlank_of_isDigit (h : c.isDigit = true) : isBlank c = false := by
  have hrange : 48 ≤ c.val.toNat ∧ c.val.toNat ≤ 57 := toNat_of_isDigit h
  simp only [isBlank, UInt32.le_iff_toNat_le, ← UInt32.toNat_inj, UInt32.reduceToNat,
    Bool.or_eq_false_iff, Bool.and_eq_false_iff, decide_eq_false_iff_not]
  omega

theorem isDigit_of_mem_toDigits (h : c ∈ Nat.toDigits 10 n) : c.isDigit = true :=
  Nat.isDigit_of_mem_toDigits (by decide) (by decide) h

theorem inLine_toDigits (n : Nat) : InLine (Nat.toDigits 10 n) := by
  intro c hc
  have hdigit := isDigit_of_mem_toDigits hc
  constructor <;> rintro rfl <;> exact absurd hdigit (by decide)

/-- The blank in front of the value of a header field does not count. -/
theorem trim_blank_cons {s : Text} (h : Bare s) : trim (' ' :: s) = s :=
  h.trim_eq

theorem bare_toDigits (n : Nat) : Bare (Nat.toDigits 10 n) where
  first _ hc := isBlank_of_isDigit (isDigit_of_mem_toDigits (List.mem_of_mem_head? hc))
  last _ hc := isBlank_of_isDigit (isDigit_of_mem_toDigits (List.mem_of_mem_getLast? hc))

/-- A number is read from its digits, up to the largest one that is understood. -/
theorem numeral?_toDigits (limit n : Nat) : numeral? limit (Nat.toDigits 10 n) =
    if n ≤ limit then some n else none := by
  have hdigits : ∀ c ∈ Nat.toDigits 10 n, c.isDigit = true := fun c => isDigit_of_mem_toDigits
  have hvalue : (Nat.toDigits 10 n).foldl (fun n c => 10 * n + (c.toNat - '0'.toNat)) 0 = n := by
    rw [← Nat.ofDigitChars_eq_foldl, Nat.ofDigitChars_ten_toDigits]
  have hne : Nat.toDigits 10 n ≠ [] := Nat.toDigits_ne_nil
  generalize Nat.toDigits 10 n = digits at *
  have hall : (!digits.isEmpty && digits.all Char.isDigit) = true := by simpa [hne] using hdigits
  rw [numeral?]
  · dsimp only
    rw [if_pos hall, hvalue]
  · rintro rest rfl
    exact absurd (hdigits '+' List.mem_cons_self) (by decide)

end Text

/-! ## Requests -/

namespace RequestFrame

def requestLine (uri : String) : String := s!"POST {uri} HTTP/1.0"

/-- The header fields of every request. -/
def fields (host : String) (port length : Nat) : List Field :=
  [("Host", endpointLabel host port), ("User-Agent", userAgent), ("Connection", "close"),
    ("Accept", "application/json"), ("Transfer-Encoding", "identity"),
    ("Content-Type", "application/json"), ("Content-Length", toString length)]

/-- The field that sends the cookies of a session, if it has any. -/
def cookieFields (session : Session) : List Field :=
  if session.cookies.isEmpty then [] else [("Cookie", String.ofList (cookieValue session.cookies))]

/-- The header block of a request, without the blank line at its end. -/
def block (uri host : String) (port length : Nat) (session : Session) : Bytes :=
  blockOf (requestLine uri).toList (fields host port length ++ cookieFields session)

section

variable {uri host : String} {payload : Bytes} {port : Nat} {session : Session}

theorem headerLines_eq (uri host : String) (port length : Nat) :
    (headerLines uri host port length).map String.toList =
      (requestLine uri).toList :: (fields host port length).map Field.line := by
  simp only [headerLines, requestLine, fields, Field.line, userAgent, List.map_cons, List.map_nil,
    String.toList_append]
  rfl

theorem cookieHeader_eq (session : Session) : session.cookieHeader.toList =
    ((cookieFields session).map Field.line).flatMap (· ++ lineEnd) := by
  rw [Session.cookieHeader, cookieFields]
  split
  · rfl
  · have hvalue : ("; ".intercalate (session.cookies.map fun c => c.1 ++ "=" ++ c.2)).toList =
        cookieValue session.cookies := by
      rw [String.toList_intercalate, List.map_map, cookieValue]
      congr 1
      apply List.map_congr_left
      intro c _
      simp [cookieText]
    simp [Field.line, lineEnd, hvalue]

theorem flatMap_lineEnd (first : Text) (others : List Text) :
    (first :: others).flatMap (· ++ lineEnd) =
      lineEnd.intercalate (first :: others) ++ lineEnd := by
  induction others generalizing first with
  | nil => simp
  | cons t others ih =>
      rw [List.flatMap_cons, ih, List.intercalate_cons_cons]
      simp only [List.append_assoc]

theorem head_post (uri : String) (payload : Bytes) (host : String) (port : Nat)
    (session : Session) : (post uri payload host port session).head =
      block uri host port payload.length session ++ headEnd := by
  have hlines :
      (String.join ((headerLines uri host port payload.length).map (· ++ "\r\n"))).toList =
        ((requestLine uri).toList :: (fields host port payload.length).map Field.line).flatMap
          (· ++ lineEnd) := by
    rw [← headerLines_eq, String.toList_join, List.flatMap_map, List.flatMap_map]
    simp [lineEnd]
  have hjoin (s : String) : (s ++ session.cookieHeader ++ "\r\n").toList =
      s.toList ++ ((cookieFields session).map Field.line).flatMap (· ++ lineEnd) ++ lineEnd := by
    rw [String.toList_append, String.toList_append, cookieHeader_eq]
    rfl
  rw [post, block, blockOf, List.map_append]
  dsimp only
  rw [octets, hjoin, hlines, ← List.flatMap_append, List.cons_append, flatMap_lineEnd,
    List.append_assoc, Utf8.encode_append]
  rfl

theorem isLine_requestLine (huri : Text.InLine uri.toList) : IsLine (requestLine uri).toList where
  nonempty := by
    rw [requestLine, String.toList_append, String.toList_append, List.append_assoc]
    exact List.cons_ne_nil _ _
  inLine := by
    rw [requestLine, String.toList_append, String.toList_append]
    exact (Text.InLine.append (by decide) huri).append (by decide)

theorem inLine_endpointLabel (hhost : Text.InLine host.toList) (port : Nat) :
    Text.InLine (endpointLabel host port).toList := by
  have hbracketed : Text.InLine (bracketed host).toList := by
    rw [bracketed]
    split
    · rw [String.toList_append, String.toList_append]
      exact (Text.InLine.append (by decide) hhost).append (by decide)
    · exact hhost
  have hport : Text.InLine (toString port).toList := by
    rw [Nat.toString_eq_ofList_toDigits, String.toList_ofList]
    exact Text.inLine_toDigits port
  rw [endpointLabel, String.toList_append, String.toList_append]
  exact (hbracketed.append (by decide)).append hport

theorem legible_of_mem_fields (hhost : Text.InLine host.toList) {length : Nat} :
    ∀ f ∈ fields host port length, f.Legible := by
  have hlength : Text.InLine (toString length).toList := by
    rw [Nat.toString_eq_ofList_toDigits, String.toList_ofList]
    exact Text.inLine_toDigits length
  simp only [fields, List.forall_mem_cons, List.not_mem_nil, false_imp_iff, implies_true, and_true]
  exact ⟨Field.legible (by decide) (inLine_endpointLabel hhost port),
    Field.legible (by decide) (by decide), Field.legible (by decide) (by decide),
    Field.legible (by decide) (by decide), Field.legible (by decide) (by decide),
    Field.legible (by decide) (by decide), Field.legible (by decide) hlength⟩

theorem inLine_cookieValue (h : session.Clean) : Text.InLine (cookieValue session.cookies) := by
  refine Text.InLine.intercalate (by decide) fun t ht => ?_
  obtain ⟨cookie, hcookie, rfl⟩ := List.mem_map.1 ht
  intro c hc
  have := List.all_eq_true.1 (h cookie hcookie).isCookieChar_text c hc
  simp_all [isCookieChar]

theorem legible_of_mem_cookieFields (h : session.Clean) :
    ∀ f ∈ cookieFields session, f.Legible := by
  rw [cookieFields]
  split
  · exact nofun
  · rw [List.forall_mem_singleton]
    refine Field.legible (by decide) ?_
    rw [String.toList_ofList]
    exact inLine_cookieValue h

theorem legible_of_mem (hhost : Text.InLine host.toList) (h : session.Clean) {length : Nat} :
    ∀ f ∈ fields host port length ++ cookieFields session, f.Legible :=
  fun f hf =>
    (List.mem_append.1 hf).elim (legible_of_mem_fields hhost f) (legible_of_mem_cookieFields h f)

/-- The header fields of a request are found in its header block. -/
theorem fieldsOf_block (huri : Text.InLine uri.toList) (hhost : Text.InLine host.toList)
    (h : session.Clean) (port length : Nat) : fieldsOf (block uri host port length session) =
      (fields host port length ++ cookieFields session).map fun f =>
        (f.1.toList, ' ' :: f.2.toList) :=
  fieldsOf_blockOf (isLine_requestLine huri) (legible_of_mem hhost h)

theorem contentLength_block (huri : Text.InLine uri.toList) (hhost : Text.InLine host.toList)
    (h : session.Clean) (port length : Nat) :
    (ResponseHead.parse (block uri host port length session)).contentLength =
      if length ≤ ResponseHead.maxLength then some length else none := by
  rw [ResponseHead.contentLength_parse, fieldsOf_block huri hhost h]
  have hfind : ((fields host port length ++ cookieFields session).map fun f =>
      (f.1.toList, ' ' :: f.2.toList)).find? (fun field => isNamed "content-length" field.1) =
        some ("Content-Length".toList, ' ' :: (toString length).toList) := by
    have hname : isNamed "content-length" "Content-Length".toList = true := by decide
    have hothers : ∀ name ∈ ["Host", "User-Agent", "Connection", "Accept", "Transfer-Encoding",
        "Content-Type"], isNamed "content-length" name.toList = false := by decide
    simp only [List.forall_mem_cons] at hothers
    simp only [fields, List.cons_append, List.map_cons, List.find?_cons, hothers, hname]
  rw [hfind, Option.bind_some]
  dsimp only
  rw [Nat.toString_eq_ofList_toDigits, String.toList_ofList,
    Text.trim_blank_cons (Text.bare_toDigits length), Text.numeral?_toDigits]

theorem valuesOf_cookie_block (huri : Text.InLine uri.toList) (hhost : Text.InLine host.toList)
    (h : session.Clean) (port length : Nat) :
    valuesOf "cookie" (block uri host port length session) =
      if session.cookies.isEmpty then [] else [cookieValue session.cookies] := by
  rw [valuesOf, fieldsOf_block huri hhost h, List.map_append, List.filter_append]
  have hothers : ((fields host port length).map fun f => (f.1.toList, ' ' :: f.2.toList)).filter
      (fun field => isNamed "cookie" field.1) = [] := by
    have hnames : ∀ name ∈ ["Host", "User-Agent", "Connection", "Accept", "Transfer-Encoding",
        "Content-Type", "Content-Length"], isNamed "cookie" name.toList = false := by decide
    simp only [List.forall_mem_cons] at hnames
    simp [-String.reduceToList, fields, hnames]
  rw [hothers, cookieFields]
  split
  · rfl
  · rename_i hcookies
    obtain ⟨cookie, cookies, hsome⟩ := List.exists_cons_of_ne_nil (by simpa using hcookies)
    have hbare : Text.Bare (cookieValue session.cookies) := by
      rw [hsome]
      exact bare_cookieValue (by rw [← hsome]; exact h)
    simp only [List.map_singleton, String.toList_ofList]
    exact congrArg (fun s => [s]) (Text.trim_blank_cons hbare)

/-- A request is read back: the block ends where it was ended, it declares the length of the
payload, and its cookies are those of the session, on one line or on none. -/
theorem readBack_post (huri : Text.InLine uri.toList) (hhost : Text.InLine host.toList)
    (payload : Bytes) (port : Nat) (headers : List Bytes) :
    let session := headers.foldl Session.readHeaders .fresh
    let frame := post uri payload host port session
    ∃ block, frame.head = block ++ headEnd ∧
      splitHead (frame.head ++ frame.body) = some (block, payload) ∧
      (ResponseHead.parse block).contentLength =
        (if payload.length ≤ ResponseHead.maxLength then some payload.length else none) ∧
      (valuesOf "cookie" block).map cookiesOf =
        if session.cookies.isEmpty then [] else [session.cookies.map some] := by
  intro session frame
  have hclean : session.Clean := Session.clean_foldl headers
  have hhead := head_post uri payload host port session
  refine ⟨block uri host port payload.length session, hhead, ?_, ?_, ?_⟩
  · rw [hhead, List.append_assoc]
    exact splitHead_blockOf (isLine_requestLine huri) (legible_of_mem hhost hclean) payload
  · exact contentLength_block huri hhost hclean port payload.length
  · rw [valuesOf_cookie_block huri hhost hclean]
    split
    · rfl
    · rename_i hcookies
      obtain ⟨cookie, cookies, hsome⟩ := List.exists_cons_of_ne_nil (by simpa using hcookies)
      rw [List.map_singleton, hsome, cookiesOf_cookieValue]
      rw [← hsome]
      exact hclean

/-- Cookies that hostile header lines brought, and a payload that starts with a blank line. -/
theorem readBack_post_of_hostile_cookies :
    let session := [octets "Set-Cookie: b=2; secure\r\nserver: x",
      octets "set-cookie:a=1=1,c=3"].foldl Session.readHeaders .fresh
    let frame := post "/v2/jobs" (headEnd ++ octets "{}") "::1" 9500 session
    ∃ block, frame.head = block ++ headEnd ∧
      splitHead (frame.head ++ frame.body) = some (block, headEnd ++ octets "{}") ∧
      (ResponseHead.parse block).contentLength = some 6 ∧
      (valuesOf "cookie" block).map cookiesOf = [[some ("a", "1=1"), some ("b", "2")]] := by
  intro session frame
  obtain ⟨block, hhead, hsplit, hlength, hcookies⟩ := @readBack_post "/v2/jobs" "::1"
    (by decide) (by decide) (headEnd ++ octets "{}") 9500
    [octets "Set-Cookie: b=2; secure\r\nserver: x", octets "set-cookie:a=1=1,c=3"]
  refine ⟨block, hhead, hsplit, hlength, hcookies.trans ?_⟩
  decide +kernel

end

end RequestFrame

end ClusterRpc
