import ClusterRpc.ControllerAddress
import ClusterRpc.Proofs.Requests

/-!
# Addresses that name a port

An address of scheme, host and port is read as what is written, whatever the port and for every host
that is a plain name. One port of each web scheme is the exception: it is the one that the scheme
stands for, so it counts as not written, and the port of controllers takes its place.
-/

namespace ClusterRpc

namespace Url

/-! ## Plain names -/

/-- The characters of plain names. -/
def letters : Text := "abcdefghijklmnopqrstuvwxyz".toList

/-- The labels of a host that is a plain name: lower-case letters, and at least one in each. -/
structure IsPlain (labels : List Text) : Prop where
  ne_nil : labels ≠ []
  label_ne_nil : ∀ label ∈ labels, label ≠ []
  isLower : ∀ label ∈ labels, ∀ c ∈ label, c.isLower = true

/-- Labels with a full stop between two of them. -/
def dotted (labels : List Text) : Text := List.intercalate ['.'] labels

/-- What follows the two slashes of an address. -/
def authority (labels : List Text) (port : Nat) : Text := dotted labels ++ ':' :: Text.ofNat port

theorem mem_letters {c : Char} (h : c.isLower = true) : c ∈ letters := by
  have hletters : letters = (List.range 26).map fun n => Char.ofNat (97 + n) := by decide
  obtain ⟨hlow, hhigh⟩ := Bool.and_eq_true_iff.1 h
  have hlow : 97 ≤ c.toNat := UInt32.le_iff_toNat_le.1 (of_decide_eq_true hlow)
  have hhigh : c.toNat ≤ 122 := UInt32.le_iff_toNat_le.1 (of_decide_eq_true hhigh)
  rw [hletters, List.mem_map]
  refine ⟨c.toNat - 97, List.mem_range.2 (by omega), ?_⟩
  rw [Nat.add_sub_cancel' hlow, Char.ofNat_toNat]

theorem mem_digits {c : Char} (h : c.isDigit = true) : c ∈ "0123456789".toList := by
  have hdigits : "0123456789".toList = (List.range 10).map fun n => Char.ofNat (48 + n) := by decide
  obtain ⟨hlow, hhigh⟩ := Text.toNat_of_isDigit h
  rw [hdigits, List.mem_map]
  refine ⟨c.toNat - 48, List.mem_range.2 (by omega), ?_⟩
  rw [Nat.add_sub_cancel' hlow, Char.ofNat_toNat]

section

variable {labels : List Text} {label : Text} {c : Char} {p : Char → Bool}

/-- What holds of the letters holds of every character of a label. -/
theorem IsPlain.all_label (h : IsPlain labels) (hp : letters.all p = true)
    (hlabel : label ∈ labels) : ∀ c ∈ label, p c = true :=
  fun c hc => List.all_eq_true.1 hp c (mem_letters (h.isLower label hlabel c hc))

theorem IsPlain.any_label (h : IsPlain labels) (hp : letters.all (!p ·) = true)
    (hlabel : label ∈ labels) : label.any p = false :=
  List.any_eq_false.2 fun c hc => by simpa using h.all_label hp hlabel c hc

theorem mem_dotted (h : c ∈ dotted labels) : c = '.' ∨ ∃ label ∈ labels, c ∈ label := by
  induction labels with
  | nil => cases h
  | cons label labels ih =>
      cases labels with
      | nil => exact .inr ⟨label, List.mem_cons_self, by simpa [dotted] using h⟩
      | cons label' labels =>
          rw [dotted, List.intercalate_cons_cons, List.append_assoc, List.mem_append,
            List.mem_append, List.mem_singleton] at h
          rcases h with hc | rfl | hc
          · exact .inr ⟨label, List.mem_cons_self, hc⟩
          · exact .inl rfl
          · exact (ih hc).imp_right fun ⟨l, hl, hc⟩ => ⟨l, List.mem_cons_of_mem _ hl, hc⟩

theorem IsPlain.all_dotted (h : IsPlain labels) (hp : ('.' :: letters).all p = true) :
    ∀ c ∈ dotted labels, p c = true := by
  rw [List.all_cons, Bool.and_eq_true] at hp
  intro c hc
  rcases mem_dotted hc with rfl | ⟨label, hlabel, hc⟩
  · exact hp.1
  · exact h.all_label hp.2 hlabel c hc

theorem IsPlain.all_authority (h : IsPlain labels) (port : Nat)
    (hp : (".:0123456789".toList ++ letters).all p = true) :
    ∀ c ∈ authority labels port, p c = true := by
  have hall := List.all_eq_true.1 hp
  intro c hc
  rw [authority, List.mem_append, List.mem_cons] at hc
  rcases hc with hc | rfl | hc
  · refine h.all_dotted (List.all_eq_true.2 fun d hd => hall d ?_) c hc
    rcases List.mem_cons.1 hd with rfl | hd
    · decide
    · exact List.mem_append_right _ hd
  · exact hall _ (by decide)
  · have hdigit := mem_digits (Text.isDigit_of_mem_toDigits hc)
    exact hall c (List.mem_append_left _ (List.mem_cons_of_mem _ (List.mem_cons_of_mem _ hdigit)))

/-- A plain name starts with a letter. -/
theorem IsPlain.dotted_eq_cons (h : IsPlain labels) :
    ∃ c s, dotted labels = c :: s ∧ c ∈ letters := by
  obtain ⟨label, labels, rfl⟩ := List.exists_cons_of_ne_nil h.ne_nil
  obtain ⟨c, s, rfl⟩ := List.exists_cons_of_ne_nil (h.label_ne_nil label List.mem_cons_self)
  have hc : c ∈ letters := mem_letters (h.isLower _ List.mem_cons_self c List.mem_cons_self)
  cases labels with
  | nil => exact ⟨c, s, by simp [dotted], hc⟩
  | cons label' labels => exact ⟨c, _, by rw [dotted, List.intercalate_cons_cons]; rfl, hc⟩

theorem IsPlain.dotted_ne_nil (h : IsPlain labels) : dotted labels ≠ [] := by
  obtain ⟨c, s, hcons, -⟩ := h.dotted_eq_cons
  rw [hcons]
  exact List.cons_ne_nil c s

/-- So no plain name is taken for an address in brackets. -/
theorem IsPlain.dotted_ne_bracket (h : IsPlain labels) (s : Text) : dotted labels ≠ '[' :: s := by
  intro hbracket
  obtain ⟨c, _, hcons, hc⟩ := h.dotted_eq_cons
  obtain ⟨rfl, -⟩ := List.cons.inj (hcons.symm.trans hbracket)
  exact absurd hc (by decide)

/-- The labels are what stands between the full stops. -/
theorem IsPlain.splitWhere_dotted (h : IsPlain labels) :
    Text.splitWhere (· == '.') (dotted labels) = labels := by
  have hlabel {label : Text} (hl : label ∈ labels) : ∀ c ∈ label, (c == '.') = false := by
    intro c hc
    have hne := h.all_label (p := fun c => !(c == '.')) (by decide) hl c hc
    exact Bool.not_eq_true' _ ▸ hne
  have hne := h.ne_nil
  clear h
  induction labels with
  | nil => exact absurd rfl hne
  | cons label labels ih =>
      cases labels with
      | nil =>
          rw [dotted, List.intercalate_singleton]
          exact Text.splitWhere_of_forall (hlabel List.mem_cons_self)
      | cons label' labels =>
          rw [dotted, List.intercalate_cons_cons, List.append_assoc, List.singleton_append,
            Text.splitWhere_append (hlabel List.mem_cons_self) rfl]
          exact congrArg _ (ih (fun hl => hlabel (List.mem_cons_of_mem _ hl)) (by simp))

end

/-! ## Plain names as hosts -/

section

variable {labels : List Text} {s : Text}

theorem unescape_of_plain (h : '%' ∉ s) : unescape s = Utf8.encode s := by
  fun_induction unescape s with
  | case1 a b rest | case2 a b rest => exact absurd List.mem_cons_self h
  | case3 c rest _ ih =>
      rw [ih fun hmem => h (List.mem_cons_of_mem _ hmem), ← Utf8.encode_append]
      rfl
  | case4 => rfl

theorem mapM_eq_some {α β : Type} {f : α → Option β} {g : α → β} {l : List α}
    (h : ∀ a ∈ l, f a = some (g a)) : l.mapM f = some (l.map g) := by
  induction l with
  | nil => rfl
  | cons a l ih =>
      rw [List.forall_mem_cons] at h
      rw [List.mapM_cons, h.1, ih h.2]
      rfl

namespace Domain

section

variable {label : Text}

theorem mapped?_of_plain (hmapped : ∀ c ∈ s, Unicode.mapping? c = some [c])
    (hascii : isAscii s = true) : mapped? s = some s := by
  have hflatten : (s.map fun c => [c]).flatten = s := List.flatMap_singleton' s
  simp [mapped?, mapM_eq_some hmapped, hflatten, hascii]

theorem mapped?_dotted (h : IsPlain labels) : mapped? (dotted labels) = some (dotted labels) := by
  apply mapped?_of_plain
  · intro c hc
    have hc := h.all_dotted (p := fun c => Unicode.mapping? c == some [c]) (by decide) c hc
    exact beq_iff_eq.1 hc
  · exact List.all_eq_true.2 (h.all_dotted (by decide))

theorem isAscii_label (h : IsPlain labels) (hl : label ∈ labels) : isAscii label = true :=
  List.all_eq_true.2 (h.all_label (by decide) hl)

/-- Without a hyphen no label is taken to be in Punycode. -/
theorem plain?_label (h : IsPlain labels) (hl : label ∈ labels) : plain? label = some label := by
  rw [plain?, if_neg]
  intro hmark
  have hmem : '-' ∈ label := (List.isPrefixOf_iff_prefix.1 hmark).subset (by decide)
  exact absurd (h.all_label (p := fun c => c != '-') (by decide) hl _ hmem) (by decide)

theorem isLabel_label (h : IsPlain labels) (hl : label ∈ labels) : isLabel label = true := by
  have hallowed : label.any isForbidden = false := h.any_label (by decide) hl
  rw [isLabel, hallowed, isAscii_label h hl]
  rfl

theorem encode_label (h : IsPlain labels) (hl : label ∈ labels) : encode label = label := by
  rw [encode, if_pos (isAscii_label h hl)]

end

/-- A plain name is its own ASCII form. -/
theorem toAscii?_dotted (h : IsPlain labels) :
    toAscii? (Utf8.encode (dotted labels)) = some (dotted labels) := by
  have hplain : labels.mapM plain? = some labels := by
    rw [mapM_eq_some fun _ => plain?_label h, List.map_id']
  have hlabels : labels.all isLabel = true := List.all_eq_true.2 fun _ => isLabel_label h
  have hturns : (labels.any fun label => label.any fun c => (Unicode.direction c).turns) = false :=
    List.any_eq_false.2 fun _ hl => Bool.eq_false_iff.1 (h.any_label (by decide) hl)
  have hencode : labels.map encode = labels := by
    rw [List.map_congr_left fun _ => encode_label h, List.map_id']
  simp only [toAscii?, Utf8.decode_encode, Except.toOption, mapped?_dotted h, h.splitWhere_dotted,
    hplain, Option.bind_eq_bind, Option.bind_some, hlabels, hturns, hencode, Bool.not_false,
    Bool.true_or, Bool.and_true, if_true]
  rfl

end Domain

namespace Ipv4

theorem number?_of_letter {c : Char} (hc : c ∈ letters) (s : Text) : number? (c :: s) = none := by
  have hzero : c ≠ '0' := by
    rintro rfl
    exact absurd hc (by decide)
  have hdigit : ∀ d, Text.hexDigit? c = some d → ¬ d < 10 := by
    have hall : (letters.all fun c => (Text.hexDigit? c).all (10 ≤ ·)) = true := by decide
    have hc := List.all_eq_true.1 hall c hc
    intro d hd
    rw [hd] at hc
    simpa using hc
  rw [number?]
  · rw [inBase?, List.foldlM_cons]
    cases hd : Text.hexDigit? c with
    | none => rfl
    | some d => simp [hdigit d hd]
  all_goals simp [hzero]

/-- No plain name is taken for a number. -/
theorem endsInNumber_dotted (h : IsPlain labels) : endsInNumber (dotted labels) = false := by
  have hlast : labels.getLast? ≠ some [] := fun hlast =>
    h.label_ne_nil [] (List.mem_of_getLast? hlast) rfl
  rw [endsInNumber, parts, h.splitWhere_dotted, if_neg hlast]
  cases hlabel : labels.getLast? with
  | none => rfl
  | some label =>
      have hmem := List.mem_of_getLast? hlabel
      obtain ⟨c, s, rfl⟩ := List.exists_cons_of_ne_nil (h.label_ne_nil label hmem)
      have hc : c ∈ letters := mem_letters (h.isLower _ hmem c List.mem_cons_self)
      have hdigit : c.isDigit = false := by
        have hall : (letters.all fun c => !c.isDigit) = true := by decide
        simpa using List.all_eq_true.1 hall c hc
      simp [number?_of_letter hc, hdigit]

end Ipv4

namespace Host

theorem ofDomain_dotted (h : IsPlain labels) :
    ofDomain (dotted labels) = .ok (.name (dotted labels)) := by
  have hescape : '%' ∉ dotted labels := fun hmem =>
    absurd (h.all_dotted (p := fun c => c != '%') (by decide) _ hmem) (by decide)
  have hascii := Domain.toAscii?_dotted h
  rw [← unescape_of_plain hescape] at hascii
  rw [ofDomain]
  · rw [hascii]
    split
    · rename_i heq; cases heq
    · rename_i heq; exact absurd (Option.some.inj heq) h.dotted_ne_nil
    · rename_i domain _ heq
      cases heq
      rw [Ipv4.endsInNumber_dotted h]
      rfl
  · exact h.dotted_ne_bracket

theorem ofOpaque_dotted (h : IsPlain labels) :
    ofOpaque (dotted labels) = .ok (.name (dotted labels)) := by
  have hallowed : (dotted labels).any isForbidden = false := by
    rw [List.any_eq_false]
    intro c hc
    simpa using h.all_dotted (p := fun c => !isForbidden c) (by decide) c hc
  have hescape : escapeWhere isControl (dotted labels) = dotted labels := by
    have hvisible : ∀ c ∈ dotted labels, (if isControl c then escaped c else [c]) = [c] := by
      intro c hc
      have hc := h.all_dotted (p := fun c => !isControl c) (by decide) c hc
      rw [if_neg (by simpa using hc)]
    rw [escapeWhere, List.flatMap_congr hvisible, List.flatMap_singleton']
  rw [ofOpaque]
  · rw [hallowed, hescape]
    rfl
  · exact h.dotted_ne_bracket

end Host

end

/-! ## Reading an address back -/

section

variable {f : Family} {scheme s : Text} {labels : List Text} {port : Nat}

theorem clean_of_visible (h : ∀ c ∈ s, ' ' < c) : clean s = s := by
  have hdrop {t : Text} (ht : ∀ c ∈ t, ' ' < c) : t.dropWhile (· ≤ ' ') = t := by
    cases t with
    | nil => rfl
    | cons c t => simp [ht c List.mem_cons_self]
  have hblank : ∀ c ∈ s, (c != '\t' && c != '\n' && c != '\r') = true := by
    intro c hc
    have hlt := h c hc
    have hne : c ≠ '\t' ∧ c ≠ '\n' ∧ c ≠ '\r' := by
      refine ⟨?_, ?_, ?_⟩ <;> rintro rfl <;> exact absurd hlt (by decide)
    simp [hne]
  rw [clean, hdrop h, hdrop fun c hc => h c (List.mem_reverse.1 hc), List.reverse_reverse,
    List.filter_eq_self.2 hblank]

theorem readScheme_append (hne : scheme ≠ []) (h : ∀ c ∈ scheme, c ∈ letters) (rest : Text) :
    readScheme (scheme ++ ':' :: rest) = .ok (scheme, rest) := by
  have hletter {p : Char → Bool} (hp : letters.all p = true) : ∀ c ∈ scheme, p c = true :=
    fun c hc => List.all_eq_true.1 hp c (h c hc)
  have htake : (scheme ++ ':' :: rest).takeWhile isSchemeChar = scheme := by
    rw [List.takeWhile_append_of_pos (hletter (by decide)), List.takeWhile_cons_of_neg (by decide),
      List.append_nil]
  have hlower : scheme.map Char.toLower = scheme := by
    refine (List.map_congr_left fun c hc => ?_).trans (List.map_id scheme)
    exact beq_iff_eq.1 (hletter (p := fun c => c.toLower == c) (by decide) c hc)
  obtain ⟨c, t, rfl⟩ := List.exists_cons_of_ne_nil hne
  have halpha : c.isAlpha = true := hletter (by decide) c List.mem_cons_self
  rw [readScheme, htake, List.drop_left, hlower]
  simp [halpha]

theorem dropUser_of_forall (h : '@' ∉ s) : dropUser f s = .ok (false, s) := by
  have hhost : ((s.takeWhile (!f.endsAuthority ·)).reverse.takeWhile (· != '@')) =
      (s.takeWhile (!f.endsAuthority ·)).reverse := by
    rw [List.takeWhile_eq_self_iff]
    intro c hc
    have hc := (List.takeWhile_sublist _).mem (List.mem_reverse.1 hc)
    rw [bne_iff_ne]
    rintro rfl
    exact h hc
  rw [dropUser, hhost, List.reverse_reverse, if_pos rfl]

theorem hostLength_append (h : ∀ c ∈ s, c ∉ "/\\?#:[".toList) (rest : Text) :
    hostLength f false (s ++ ':' :: rest) = s.length := by
  induction s with
  | nil => simp [hostLength]
  | cons c s ih =>
      rw [List.forall_mem_cons] at h
      have hend : (f.endsAuthority c || (c == ':' && !false)) = false := by
        have hc := h.1
        simp at hc
        simp [Family.endsAuthority, Family.isSlash, hc]
      have hinside : (if c = '[' then true else if c = ']' then false else false) = false := by
        have hc : c ≠ '[' := by
          rintro rfl
          exact h.1 (by decide)
        rw [if_neg hc, ite_self]
      rw [List.cons_append, hostLength, hend, hinside, ih h.2]
      rfl

theorem readPort_ofNat (h : port ≤ 65535) :
    readPort f (Text.ofNat port) = .ok (if f = .web port then none else some port, []) := by
  have hdigits : (Text.ofNat port).takeWhile Char.isDigit = Text.ofNat port :=
    List.takeWhile_eq_self_iff.2 fun _ => Text.isDigit_of_mem_toDigits
  have hne : (Text.ofNat port).isEmpty = false := by
    rw [List.isEmpty_eq_false_iff]
    exact Nat.toDigits_ne_nil
  have hvalue : Text.numeral? 65535 (Text.ofNat port) = some port := by
    rw [Text.ofNat, Text.numeral?_toDigits, if_pos h]
  simp [readPort, hdigits, hne, hvalue]

/-- The location named by a plain host and a port: the path is empty up to the slash that addresses
of the web always have, and the port that the scheme stands for is left out. -/
theorem readAuthority_authority (h : IsPlain labels) (hport : port ≤ 65535) :
    readAuthority f (authority labels port) = .ok (some {
      host := .name (dotted labels)
      port := if f = .web port then none else some port
      path := if f.isWeb then ['/'] else [] }) := by
  have huser : '@' ∉ authority labels port := fun hmem =>
    absurd (h.all_authority port (p := fun c => c != '@') (by decide) _ hmem) (by decide)
  have hends : ∀ c ∈ dotted labels, c ∉ "/\\?#:[".toList := by
    intro c hc
    simpa using h.all_dotted (p := fun c => !"/\\?#:[".toList.contains c) (by decide) c hc
  have htake : (authority labels port).take (hostLength f false (authority labels port)) =
      dotted labels := by
    rw [authority, hostLength_append hends, List.take_left]
  have hdrop : (authority labels port).drop (dotted labels).length = ':' :: Text.ofNat port := by
    rw [authority, List.drop_left]
  have hne := h.dotted_ne_nil
  cases hweb : f.isWeb <;>
    simp [readAuthority, dropUser_of_forall huser, bind, Except.bind, hweb, htake, hdrop, hne,
      Host.ofDomain_dotted h, Host.ofOpaque_dotted h, readPort_ofNat hport, readPath, pure,
      Except.pure]

theorem readLocation_authority (hf : f ≠ .file) (h : IsPlain labels) :
    readLocation f ('/' :: '/' :: authority labels port) =
      readAuthority f (authority labels port) := by
  cases f with
  | file => exact absurd rfl hf
  | other => rfl
  | web d =>
      obtain ⟨c, s, hcons, hc⟩ := h.dotted_eq_cons
      have hslash : (Family.web d).isSlash c = false := by
        have hall : (letters.all fun c => !(c == '/' || c == '\\')) = true := by decide
        simpa [Family.isSlash, Family.isWeb] using List.all_eq_true.1 hall c hc
      have hauthority : (authority labels port).dropWhile (Family.web d).isSlash =
          authority labels port := by
        rw [authority, hcons, List.cons_append, List.dropWhile_cons_of_neg (by simp [hslash])]
      rw [readLocation, List.dropWhile_cons_of_pos rfl, List.dropWhile_cons_of_pos rfl, hauthority]

theorem parse_authority (hne : scheme ≠ []) (hscheme : ∀ c ∈ scheme, c ∈ letters)
    (hfile : Family.ofScheme scheme ≠ .file) (h : IsPlain labels) (hport : port ≤ 65535) :
    parse (scheme ++ ':' :: '/' :: '/' :: authority labels port) = .ok (scheme, some {
      host := .name (dotted labels)
      port := if Family.ofScheme scheme = .web port then none else some port
      path := if (Family.ofScheme scheme).isWeb then ['/'] else [] }) := by
  have hvisible : ∀ c ∈ scheme ++ ':' :: '/' :: '/' :: authority labels port, ' ' < c := by
    intro c hc
    simp only [List.mem_append, List.mem_cons] at hc
    rcases hc with hc | rfl | rfl | rfl | hc
    · have hall : (letters.all fun c => decide (' ' < c)) = true := by decide
      simpa using List.all_eq_true.1 hall c (hscheme c hc)
    · decide
    · decide
    · decide
    · simpa using h.all_authority port (p := fun c => decide (' ' < c)) (by decide) c hc
  rw [parse, clean_of_visible hvisible, readScheme_append hne hscheme]
  simp only [Except.bind, bind, readLocation_authority hfile h, readAuthority_authority h hport]
  rfl

end

end Url

namespace ControllerAddress

open Url

/-! ## Plain addresses of controllers -/

section

variable {scheme : String} {labels : List Text} {port : Nat}

/-- The schemes that controllers speak. -/
def schemes : List String := ["http", "tcp", "https", "tls"]

/-- The ports that a scheme of the web stands for. -/
def impliedPorts : List (String × Nat) := [("http", 80), ("https", 443)]

theorem usesTls?_of_mem_schemes : ∀ scheme ∈ schemes,
    usesTls? scheme = some (decide (scheme ∈ ["https", "tls"])) := by
  decide

theorem isLower_of_mem_schemes : ∀ scheme ∈ schemes,
    scheme.toList ≠ [] ∧ scheme.toList.all Char.isLower = true := by
  decide

theorem ofScheme_ne_file : ∀ scheme ∈ schemes, Family.ofScheme scheme.toList ≠ .file := by
  decide

theorem ofScheme_eq_web_iff (h : scheme ∈ schemes) :
    Family.ofScheme scheme.toList = .web port ↔ (scheme, port) ∈ impliedPorts := by
  simp only [schemes, List.mem_cons, List.not_mem_nil, or_false] at h
  rcases h with rfl | rfl | rfl | rfl <;> simp [Family.ofScheme, impliedPorts, eq_comm]

/-- A plain address is read as it is written, up to the port that the scheme stands for. -/
theorem parse_of_plain (hscheme : scheme ∈ schemes) (h : IsPlain labels) (hport : port ≤ 65535) :
    let text := s!"{scheme}://{String.ofList (dotted labels)}:{port}"
    let useTls := decide (scheme ∈ ["https", "tls"])
    parse text = .ok {
      configured := text
      host := String.ofList (dotted labels)
      port := if (scheme, port) ∈ impliedPorts then defaultPort useTls else port
      useTls
      basePath := "" } := by
  intro text useTls
  have htext : text.toList = scheme.toList ++ ':' :: '/' :: '/' :: authority labels port := by
    have happend : text = scheme ++ "://" ++ String.ofList (dotted labels) ++ ":" ++
        String.ofList (Text.ofNat port) := by
      rw [Text.ofNat, ← Nat.toString_eq_ofList_toDigits]
      rfl
    simp [happend, authority]
  obtain ⟨hne, hlower⟩ := isLower_of_mem_schemes scheme hscheme
  have hletters (c : Char) (hc : c ∈ scheme.toList) : c ∈ letters :=
    mem_letters (List.all_eq_true.1 hlower c hc)
  have hpath : String.ofList (withoutEndSlashes
      (if (Family.ofScheme scheme.toList).isWeb then ['/'] else [])) = "" := by
    split <;> rfl
  rw [parse, htext, parse_authority hne hletters (ofScheme_ne_file scheme hscheme) h hport]
  simp only [Except.mapError, bind, Except.bind, String.ofList_toList,
    usesTls?_of_mem_schemes scheme hscheme, hpath, Host.text, ofScheme_eq_web_iff hscheme]
  split <;> rfl

theorem parse_configured (h : IsPlain labels) (hport : port ≤ 65535) (useTls : Bool) :
    let a := ofHost (String.ofList (dotted labels)) port useTls
    parse a.configured = .ok { a with
      port := if port = if useTls then 443 else 80 then defaultPort useTls else port } := by
  cases useTls with
  | false =>
      have hscheme : "http" ∈ schemes := by decide
      simpa [impliedPorts, ofHost] using parse_of_plain hscheme h hport
  | true =>
      have hscheme : "https" ∈ schemes := by decide
      simpa [impliedPorts, ofHost] using parse_of_plain hscheme h hport

/-- Every port but one is read as written: the port that a scheme of the web stands for counts as
missing. So the address of a host is read back from its own text unless it has that port. -/
theorem parse_written (h : IsPlain labels) (hport : port ≤ 65535) :
    let host := String.ofList (dotted labels)
    (∀ scheme ∈ schemes,
      let text := s!"{scheme}://{host}:{port}"
      let useTls := decide (scheme ∈ ["https", "tls"])
      parse text = .ok {
        configured := text, host
        port := if (scheme, port) ∈ impliedPorts then defaultPort useTls else port
        useTls, basePath := "" }) ∧
    ∀ useTls, parse (ofHost host port useTls).configured = .ok (ofHost host port useTls) ↔
      port ≠ if useTls then 443 else 80 := by
  intro host
  refine ⟨fun scheme hscheme => parse_of_plain hscheme h hport, fun useTls => ?_⟩
  have hkept : (if port = if useTls then 443 else 80 then defaultPort useTls else port) = port ↔
      port ≠ if useTls then 443 else 80 := by
    cases useTls <;> simp [defaultPort] <;> omega
  rw [← hkept, parse_configured h hport, Except.ok.injEq]
  simp [ofHost, host]

/-- The scheme of controllers stands for no port. -/
theorem parse_tls_443 :
    let labels := ["cmon".toList, "example".toList]
    IsPlain labels ∧ String.ofList (dotted labels) = "cmon.example" ∧
    parse "tls://cmon.example:443" = .ok {
      configured := "tls://cmon.example:443", host := "cmon.example", port := 443, useTls := true
      basePath := "" } := by
  intro labels
  have hlower : labels.all (·.all Char.isLower) = true := by decide
  have h : IsPlain labels := ⟨by decide, by decide, fun label hlabel c hc =>
    List.all_eq_true.1 (List.all_eq_true.1 hlower label hlabel) c hc⟩
  have hport : 443 ≤ 65535 := by decide
  exact ⟨h, by decide, (parse_written h hport).1 "tls" (by decide)⟩

/-- A port that is written, and is not the one that is dialled. -/
theorem parse_http_80 :
    let text := "http://node:80"
    parse text = .ok {
      configured := text, host := "node", port := 9500, useTls := false, basePath := "" } ∧
    (ofHost "node" 80 false).configured = text ∧ parse text ≠ .ok (ofHost "node" 80 false) := by
  decide +kernel

end

end ControllerAddress

end ClusterRpc
