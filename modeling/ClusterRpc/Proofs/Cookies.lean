import ClusterRpc.Proofs.Heading
import Mathlib.Data.List.TakeDrop
import Mathlib.Data.List.TakeWhile

/-!
# The cookies a session can hold

Cookies come from octets that a server chose. Whatever these are, a cookie that a session takes in
has a name, and nothing in it ends a cookie or a line. So the value of a `Cookie` line is taken
apart into the cookies it was put together from.
-/

namespace ClusterRpc

/-! ## Cutting and trimming -/

namespace Text

variable {c : Char} {s t before after : Text}

theorem cut_spec (h : cut c s = some (before, after)) : s = before ++ c :: after ∧ c ∉ before := by
  rw [cut] at h
  split at h
  · cases h
  · rename_i before' d after' hspan
    cases h
    rw [List.span_eq_takeWhile_dropWhile, Prod.mk.injEq] at hspan
    obtain ⟨rfl, hdrop⟩ := hspan
    have hd : d = c := by
      have hhead := List.head?_dropWhile_not (· != c) s
      rw [hdrop] at hhead
      simpa using hhead
    refine ⟨?_, fun hmem => ?_⟩
    · rw [hd] at hdrop
      rw [← hdrop, List.takeWhile_append_dropWhile]
    · have hne := List.mem_takeWhile_imp hmem
      simp at hne

theorem cut_append (h : c ∉ before) (after : Text) :
    cut c (before ++ c :: after) = some (before, after) := by
  have hall : ∀ d ∈ before, (d != c) = true := by
    rintro d hd
    rw [bne_iff_ne]
    rintro rfl
    exact h hd
  have hspan : (before ++ c :: after).span (· != c) = (before, c :: after) := by
    rw [List.span_eq_takeWhile_dropWhile, List.takeWhile_append_of_pos hall,
      List.dropWhile_append_of_pos hall]
    simp
  rw [cut, hspan]

/-- Neither end of a text is blank. -/
structure Bare (s : Text) : Prop where
  first : ∀ c ∈ s.head?, isBlank c = false
  last : ∀ c ∈ s.getLast?, isBlank c = false

theorem dropWhile_isBlank_of_bare (h : ∀ c ∈ s.head?, isBlank c = false) :
    s.dropWhile isBlank = s := by
  cases s with
  | nil => rfl
  | cons c s => exact List.dropWhile_cons_of_neg (by simpa using h c rfl)

theorem trimEnd_of_bare (h : ∀ c ∈ s.getLast?, isBlank c = false) : trimEnd s = s := by
  rw [trimEnd, dropWhile_isBlank_of_bare (by rwa [List.head?_reverse]), List.reverse_reverse]

theorem Bare.trim_eq (h : Bare s) : trim s = s := by
  rw [trim, trimStart, dropWhile_isBlank_of_bare h.first, trimEnd_of_bare h.last]

theorem trimEnd_prefix_self (s : Text) : trimEnd s <+: s := by
  have h := List.reverse_prefix.2 (List.dropWhile_suffix isBlank (l := s.reverse))
  rwa [List.reverse_reverse] at h

theorem trim_subset (s : Text) : trim s ⊆ s :=
  List.Subset.trans (trimEnd_prefix_self _).subset (List.dropWhile_suffix isBlank).subset

theorem bare_trim (s : Text) : Bare (trim s) where
  first := by
    intro c hc
    have hstart := List.head?_dropWhile_not isBlank s
    -- What is trimmed at the end leaves the first character as it is, if it leaves any.
    obtain ⟨rest, hrest⟩ := trimEnd_prefix_self (trimStart s)
    have hhead : (trimStart s).head? = some c := by
      rw [← hrest, List.head?_append, show (trimEnd (trimStart s)).head? = some c from hc]
      rfl
    rw [trimStart] at hhead
    rw [hhead] at hstart
    simpa using hstart
  last := by
    intro c hc
    rw [trim, trimEnd, List.getLast?_reverse] at hc
    have hend := List.head?_dropWhile_not isBlank (trimStart s).reverse
    rw [show _ = some c from hc] at hend
    simpa using hend

/-- No piece has a separator in it. -/
theorem forall_mem_splitWhere {p : Char → Bool} {piece : Text} (h : piece ∈ splitWhere p s) :
    ∀ c ∈ piece, p c = false := by
  induction s generalizing piece with
  | nil =>
      rw [show splitWhere p [] = [[]] from rfl, List.mem_singleton] at h
      simp [h]
  | cons d s ih =>
      rw [splitWhere_cons] at h
      split at h
      · rcases List.mem_cons.1 h with rfl | h
        · simp
        · exact ih h
      · rename_i hd
        split at h
        · rw [List.mem_singleton] at h
          simpa [h] using hd
        · rename_i first others hs
          rw [hs] at ih
          rcases List.mem_cons.1 h with rfl | h
          · intro c hc
            rcases List.mem_cons.1 hc with rfl | hc
            · simpa using hd
            · exact ih List.mem_cons_self c hc
          · exact ih (List.mem_cons_of_mem _ h)

end Text

/-! ## What a session takes in -/

/-- No character of a text ends a line. -/
def Text.InLine (s : Text) : Prop := ∀ c ∈ s, c ≠ '\r' ∧ c ≠ '\n'

instance (s : Text) : Decidable s.InLine := List.decidableBAll _ s

/-- A character that ends neither a cookie nor a line. -/
def isCookieChar (c : Char) : Bool := c != ',' && c != ';' && c != '\r' && c != '\n'

/-- A cookie that comes back as it is when it is sent: it has a name, and nothing in it belongs to
what stands around it. -/
structure Sendable (cookie : String × String) : Prop where
  named : cookie.1 ≠ ""
  name : cookie.1.toList.all isCookieChar = true
  unequal : '=' ∉ cookie.1.toList
  nameBare : Text.Bare cookie.1.toList
  value : cookie.2.toList.all isCookieChar = true
  valueBare : Text.Bare cookie.2.toList

namespace Session

/-- Every cookie of the session is sendable. -/
def Clean (session : Session) : Prop := ∀ cookie ∈ session.cookies, Sendable cookie

variable {session : Session}

theorem clean_fresh : fresh.Clean := nofun

/-- A value that does not span lines brings a sendable cookie, or none. -/
theorem Clean.storeCookie (h : session.Clean) {value : Text} (hvalue : value.InLine) :
    (session.storeCookie value).Clean := by
  rw [Session.storeCookie]
  split
  · exact h
  · rename_i name value' hcut
    obtain ⟨hpair, hunequal⟩ := Text.cut_spec hcut
    have hpairChars : (name ++ '=' :: value').all isCookieChar = true := by
      rw [← hpair, List.all_eq_true]
      intro c hc
      have hmarks := List.mem_takeWhile_imp hc
      have hlines := hvalue c ((List.takeWhile_prefix _).subset hc)
      simp_all [isCookieChar]
    rw [List.all_append, List.all_cons, Bool.and_eq_true, Bool.and_eq_true] at hpairChars
    have htrim {s : Text} (hs : s.all isCookieChar = true) :
        (Text.trim s).all isCookieChar = true :=
      List.all_eq_true.2 fun c hc => List.all_eq_true.1 hs c (Text.trim_subset s hc)
    dsimp only
    split
    · exact h
    · rename_i hname
      intro cookie hcookie
      rcases Keyed.mem_insert hcookie with rfl | hcookie
      · constructor <;> simp only [String.toList_ofList]
        · intro hempty
          rw [← String.toList_inj] at hempty
          simp_all
        · exact htrim hpairChars.1
        · exact fun hmem => hunequal (Text.trim_subset name hmem)
        · exact Text.bare_trim name
        · exact htrim hpairChars.2.2
        · exact Text.bare_trim value'
      · exact h cookie hcookie

theorem Clean.readLine (h : session.Clean) {line : Text} (hline : line.InLine) :
    (session.readLine line).Clean := by
  rw [Session.readLine]
  split
  · exact h
  · rename_i name value hcut
    obtain ⟨rfl, -⟩ := Text.cut_spec hcut
    dsimp only
    split
    · refine h.storeCookie fun c hc => hline c ?_
      have hmem : c ∈ value := (List.dropWhile_suffix Text.isBlank).subset hc
      exact List.mem_append_right _ (List.mem_cons_of_mem _ hmem)
    · split
      · split <;> exact h
      · exact h

theorem Clean.readHeaders (h : session.Clean) (headers : Bytes) :
    (session.readHeaders headers).Clean := by
  have hlines : ∀ line ∈ Text.splitWhere (fun c => c == '\r' || c == '\n') (Utf8.lossy headers),
      line.InLine := by
    intro line hline c hc
    simpa using Text.forall_mem_splitWhere hline c hc
  rw [Session.readHeaders]
  generalize Text.splitWhere _ _ = lines at hlines
  induction lines generalizing session with
  | nil => exact h
  | cons line lines ih =>
      rw [List.forall_mem_cons] at hlines
      exact ih (h.readLine hlines.1) hlines.2

/-- Every cookie is sendable, whatever header blocks the session has taken in. -/
theorem clean_foldl (blocks : List Bytes) : (blocks.foldl Session.readHeaders .fresh).Clean := by
  suffices h : ∀ session : Session, session.Clean → (blocks.foldl Session.readHeaders session).Clean
    from h .fresh clean_fresh
  induction blocks with
  | nil => exact fun _ h => h
  | cons block blocks ih => exact fun session h => ih _ (h.readHeaders block)

end Session

/-! ## The value of a cookie line -/

namespace Text

/-- The pieces between the places where a semicolon and a blank stand. -/
def splitPairs : Text → List Text
  | [] => [[]]
  | ';' :: ' ' :: rest => [] :: splitPairs rest
  | c :: rest =>
      match splitPairs rest with
      | [] => [[c]]
      | first :: others => (c :: first) :: others

section

variable {c : Char} {s : Text}

theorem splitPairs_cons (hc : c ≠ ';') (s : Text) : splitPairs (c :: s) =
    match splitPairs s with
    | [] => [[c]]
    | first :: others => (c :: first) :: others := by
  rw [splitPairs]
  rintro rest rfl
  exact absurd rfl hc

theorem splitPairs_of_notMem (h : ';' ∉ s) : splitPairs s = [s] := by
  induction s with
  | nil => rfl
  | cons c s ih =>
      rw [List.mem_cons, not_or] at h
      rw [splitPairs_cons (Ne.symm h.1), ih h.2]

theorem splitPairs_append (h : ';' ∉ s) (t : Text) :
    splitPairs (s ++ [';', ' '] ++ t) = s :: splitPairs t := by
  induction s with
  | nil => rfl
  | cons c s ih =>
      rw [List.mem_cons, not_or] at h
      rw [List.append_assoc, List.cons_append, splitPairs_cons (Ne.symm h.1), ← List.append_assoc,
        ih h.2]

/-- Texts without a semicolon are found again after they were put together. -/
theorem splitPairs_intercalate {pairs : List Text} (h : ∀ t ∈ s :: pairs, ';' ∉ t) :
    splitPairs ([';', ' '].intercalate (s :: pairs)) = s :: pairs := by
  induction pairs generalizing s with
  | nil => simpa using splitPairs_of_notMem (h s List.mem_cons_self)
  | cons t pairs ih =>
      rw [List.forall_mem_cons] at h
      rw [List.intercalate_cons_cons, splitPairs_append h.1, ih h.2]

/-- What is put together from texts with bare ends has bare ends. -/
theorem bare_intercalate {pairs : List Text} (h : ∀ t ∈ s :: pairs, t ≠ [] ∧ Bare t) :
    Bare ([';', ' '].intercalate (s :: pairs)) := by
  induction pairs generalizing s with
  | nil => simpa using (h s List.mem_cons_self).2
  | cons t pairs ih =>
      rw [List.forall_mem_cons] at h
      obtain ⟨⟨hne, hbare⟩, hpairs⟩ := h
      have hrest := ih hpairs
      have hne' : [';', ' '].intercalate (t :: pairs) ≠ [] := by
        cases pairs with
        | nil => simpa using (hpairs t List.mem_cons_self).1
        | cons u pairs => simp [List.intercalate_cons_cons]
      rw [List.intercalate_cons_cons]
      constructor
      · rw [List.append_assoc, List.head?_append_of_ne_nil _ hne]
        exact hbare.first
      · rw [List.getLast?_append_of_ne_nil _ hne']
        exact hrest.last

end

end Text

/-- A cookie as it stands in the value of a line. -/
def cookieText (cookie : String × String) : Text := cookie.1.toList ++ '=' :: cookie.2.toList

namespace Sendable

variable {cookie : String × String}

theorem cut_text (h : Sendable cookie) :
    Text.cut '=' (cookieText cookie) = some (cookie.1.toList, cookie.2.toList) :=
  Text.cut_append h.unequal _

theorem isCookieChar_text (h : Sendable cookie) : (cookieText cookie).all isCookieChar = true := by
  rw [cookieText, List.all_append, List.all_cons, h.name, h.value]
  rfl

theorem bare_text (h : Sendable cookie) : Text.Bare (cookieText cookie) := by
  have hname : cookie.1.toList ≠ [] := fun hnil => h.named (String.toList_eq_nil_iff.1 hnil)
  constructor
  · rw [cookieText, List.head?_append_of_ne_nil _ hname]
    exact h.nameBare.first
  · rw [cookieText, List.getLast?_append_of_ne_nil _ (List.cons_ne_nil _ _), List.getLast?_cons]
    cases hv : cookie.2.toList.getLast? with
    | none =>
        rintro c ⟨⟩
        decide
    | some d =>
        rintro c ⟨⟩
        exact h.valueBare.last d hv

end Sendable

/-- The value of the line that sends cookies. -/
def cookieValue (cookies : List (String × String)) : Text :=
  [';', ' '].intercalate (cookies.map cookieText)

/-- The cookies that the value of a line names: between semicolons, each cut at its first equals
sign. -/
def cookiesOf (value : Text) : List (Option (String × String)) :=
  (Text.splitPairs value).map fun pair =>
    (Text.cut '=' pair).map fun found => (String.ofList found.1, String.ofList found.2)

section

variable {cookie : String × String} {cookies : List (String × String)}

/-- The cookies that are sent are the ones that are found. -/
theorem cookiesOf_cookieValue (h : ∀ c ∈ cookie :: cookies, Sendable c) :
    cookiesOf (cookieValue (cookie :: cookies)) = (cookie :: cookies).map some := by
  have hplain : ∀ t ∈ (cookie :: cookies).map cookieText, ';' ∉ t := by
    intro t ht
    obtain ⟨c, hc, rfl⟩ := List.mem_map.1 ht
    exact fun hmem => absurd (List.all_eq_true.1 (h c hc).isCookieChar_text _ hmem) (by decide)
  rw [List.map_cons] at hplain
  rw [cookiesOf, cookieValue, List.map_cons, Text.splitPairs_intercalate hplain, ← List.map_cons,
    List.map_map]
  apply List.map_congr_left
  intro c hc
  rw [Function.comp_apply, (h c hc).cut_text]
  simp

theorem bare_cookieValue (h : ∀ c ∈ cookie :: cookies, Sendable c) :
    Text.Bare (cookieValue (cookie :: cookies)) := by
  apply Text.bare_intercalate
  rw [← List.map_cons]
  intro t ht
  obtain ⟨c, hc, rfl⟩ := List.mem_map.1 ht
  exact ⟨by simp [cookieText], (h c hc).bare_text⟩

end

end ClusterRpc
