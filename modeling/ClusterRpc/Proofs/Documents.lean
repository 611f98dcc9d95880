import ClusterRpc.Proofs.Grammar
import ClusterRpc.Proofs.Separation

/-!
# Documents that a separator ends

Whoever takes records from a buffer gets the same ones however the octets came and whenever a record
was asked for. They are the documents that were sent, each ended by a record separator, as long as
no document has a blank line in it: a blank line ends a record wherever it stands.
-/

namespace ClusterRpc.ReceiveBuffer

/-! ## Appending and taking in any order -/

/-- From a buffer, appending `chunks` and taking records in any order, until there is neither a
chunk nor a complete record left, gives `records` and ends with the last buffer. -/
inductive Yields : ReceiveBuffer → List Bytes → List Bytes → ReceiveBuffer → Prop
  | done {b : ReceiveBuffer} (incomplete : b.takeRecord? = none) : Yields b [] [] b
  | append {b rest : ReceiveBuffer} {chunk : Bytes} {chunks records : List Bytes}
      (more : Yields (b.append chunk) chunks records rest) : Yields b (chunk :: chunks) records rest
  | take {b b' rest : ReceiveBuffer} {record : Bytes} {chunks records : List Bytes}
      (taken : b.takeRecord? = some (record, b')) (more : Yields b' chunks records rest) :
      Yields b chunks (record :: records) rest

section

variable {b b' rest : ReceiveBuffer} {record : Bytes} {chunks records : List Bytes}

theorem takeAll_of_none (h : b.takeRecord? = none) : b.takeAll = ([], b) := by
  rw [takeAll]
  split
  · rfl
  · simp_all

theorem takeAll_of_some (h : b.takeRecord? = some (record, b')) :
    b.takeAll = (record :: b'.takeAll.1, b'.takeAll.2) := by
  rw [takeAll]
  split <;> simp_all

theorem append_append (b : ReceiveBuffer) (s t : Bytes) :
    (b.append s).append t = b.append (s ++ t) := by
  simp [append]

theorem append_nil (b : ReceiveBuffer) : b.append [] = b := by
  simp [append]

theorem Yields.takeAll (h : Yields b chunks records rest) :
    (b.append chunks.flatten).takeAll = (records, rest) := by
  induction h with
  | done incomplete => rw [List.flatten_nil, append_nil, takeAll_of_none incomplete]
  | append _ ih => rwa [List.flatten_cons, ← append_append]
  | take taken _ ih => rw [takeAll_of_some (takeRecord?_append taken _), ih]

theorem yields_takeAll (b : ReceiveBuffer) : Yields b [] b.takeAll.1 b.takeAll.2 := by
  fun_induction takeAll b with
  | case1 b h => exact .done h
  | case2 b record rest h _ others ih => exact .take h ih

/-- The records do not depend on the order of appending and taking, nor on the chunks. -/
theorem yields_iff : Yields b chunks records rest ↔
    (b.append chunks.flatten).takeAll = (records, rest) := by
  refine ⟨Yields.takeAll, fun h => ?_⟩
  induction chunks generalizing b with
  | nil =>
      have hall := yields_takeAll b
      rw [List.flatten_nil, append_nil] at h
      rwa [h] at hall
  | cons chunk chunks ih =>
      rw [List.flatten_cons, ← append_append] at h
      exact .append (ih h)

end

/-! ## Texts between separators -/

/-- Each text, with a record separator after it. -/
def separated (texts : List Bytes) : Bytes := texts.flatMap (· ++ [recordSeparator])

/-- A text that is not empty and has no record separator in it. -/
structure Separable (text : Bytes) : Prop where
  nonempty : text ≠ []
  separator : recordSeparator ∉ text

section

variable {text : Bytes} {texts : List Bytes}

theorem takeRecord?_separated (h : Separable text) (texts : List Bytes) :
    takeRecord? ⟨separated (text :: texts)⟩ =
      (Boundary.cut (text ++ recordSeparator :: separated texts)).map fun found =>
        (found.1, ⟨found.2⟩) := by
  have hsplit : separated (text :: texts) = text ++ recordSeparator :: separated texts := by
    simp [separated]
  have hmark : unmarked text = text := by
    obtain ⟨c, s, rfl⟩ := List.exists_cons_of_ne_nil h.nonempty
    have hc : c ≠ recordSeparator := fun hc => h.separator (by rw [hc]; exact List.mem_cons_self)
    simp [unmarked, mark, hc]
  rw [hsplit, takeRecord?_eq_cut, unmarked_append (.inl h.nonempty), hmark]

/-- A text without a blank line is taken whole. -/
theorem takeRecord?_of_unbroken (h : Separable text) (hlines : ¬ blankLine <:+: text) :
    takeRecord? ⟨separated (text :: texts)⟩ = some (text, ⟨separated texts⟩) := by
  have huncut := Boundary.cut_eq_none h.separator hlines
  rw [takeRecord?_separated h, Boundary.cut_append_of_none huncut (by simp [recordSeparator])]
  simp [Boundary.cut]

/-- Of a text with a blank line less is taken. -/
theorem takeRecord?_of_broken (h : Separable text) (hlines : blankLine <:+: text) :
    ∃ record rest, takeRecord? ⟨separated (text :: texts)⟩ = some (record, rest) ∧
      record.length < text.length := by
  obtain ⟨record, rest, hcut⟩ := Boundary.cut_of_ends (.inr hlines)
  refine ⟨record, ⟨rest ++ recordSeparator :: separated texts⟩, ?_, ?_⟩
  · rw [takeRecord?_separated h, Boundary.cut_append hcut]
    rfl
  · obtain ⟨terminator, rfl, hterminator, -⟩ := Boundary.cut_spec hcut
    rcases hterminator with rfl | rfl <;> simp

/-- Just the texts come back exactly if no blank line stands in one of them. -/
theorem takeAll_separated_iff (h : ∀ text ∈ texts, Separable text) :
    takeAll ⟨separated texts⟩ = (texts, .empty) ↔ ∀ text ∈ texts, ¬ blankLine <:+: text := by
  induction texts with
  | nil => exact iff_of_true (takeAll_of_none rfl) nofun
  | cons text texts ih =>
      rw [List.forall_mem_cons] at h ⊢
      by_cases hlines : blankLine <:+: text
      · obtain ⟨record, rest, htaken, hlt⟩ := @takeRecord?_of_broken text texts h.1 hlines
        rw [takeAll_of_some htaken]
        refine iff_of_false (fun heq => ?_) fun hunbroken => hunbroken.1 hlines
        rw [Prod.mk.injEq, List.cons.injEq] at heq
        obtain ⟨⟨rfl, -⟩, -⟩ := heq
        exact Nat.lt_irrefl _ hlt
      · rw [takeAll_of_some (takeRecord?_of_unbroken h.1 hlines), ← ih h.2, Prod.ext_iff,
          Prod.ext_iff]
        simp [hlines]

end

/-! ## Documents -/

open Json.Grammar

/-- Documents that a separator ends are taken as they were sent, whatever white space is in them but
blank lines, however they arrive; and nothing is left. -/
theorem yields_documents {texts : List Text} {chunks : List Bytes}
    (hdocuments : ∀ text ∈ texts, IsDocument text)
    (hlines : ∀ text ∈ texts, ¬ blankLine <:+: Utf8.encode text)
    (hchunks : chunks.flatten = separated (texts.map Utf8.encode)) (records : List Bytes)
    (rest : ReceiveBuffer) :
    Yields .empty chunks records rest ↔ records = texts.map Utf8.encode ∧ rest = .empty := by
  have hseparable : ∀ text ∈ texts.map Utf8.encode, Separable text := by
    rw [List.forall_mem_map]
    intro text htext
    exact ⟨(hdocuments text htext).encode_ne_nil, (hdocuments text htext).recordSeparator_notMem⟩
  have hunbroken : ∀ text ∈ texts.map Utf8.encode, ¬ blankLine <:+: text :=
    List.forall_mem_map.2 hlines
  rw [yields_iff, hchunks]
  change takeAll ⟨separated _⟩ = _ ↔ _
  rw [(takeAll_separated_iff hseparable).2 hunbroken, Prod.mk.injEq, eq_comm, @eq_comm _ rest]

/-- White space and line feeds wherever they may stand. -/
def aDocument : Text := "\n \x7b \"a\\u00e9\"\t:\n[ -1.5e+2 ,\nnull]\r\n\x7d\n".toList

theorem isDocument_aDocument : IsDocument aDocument := by
  have hnumber : Derives .value "-1.5e+2".toList :=
    .number (@Number.mk ['-'] ['1'] ['.', '5'] ['e', '+', '2'] (by decide) (by decide)
      (.some (by decide)) (@Exponent.some 'e' ['+'] ['2'] (by decide) (by decide) (by decide)))
  have helements : Derives .elements " -1.5e+2 ,\nnull".toList :=
    .elements (@Derives.element [' '] _ [' '] (by decide) hnumber (by decide))
      (.lastElement (@Derives.element ['\n'] _ [] (by decide) .null (by decide)))
  have hname : Quoted "\"a\\u00e9\"".toList :=
    @Quoted.mk [['a'], "\\u00e9".toList] (List.forall_mem_cons.2
      ⟨.printed (by decide) (by decide) (by decide), List.forall_mem_singleton.2
        (@Letter.numbered "00e9".toList (by decide) (by decide))⟩)
  have helement : Derives .element "\n[ -1.5e+2 ,\nnull]\r\n".toList :=
    @Derives.element ['\n'] _ ['\r', '\n'] (by decide) (.array helements) (by decide)
  have hentries : Derives .entries " \"a\\u00e9\"\t:\n[ -1.5e+2 ,\nnull]\r\n".toList :=
    .lastEntry (@Derives.entry [' '] _ ['\t'] _ (by decide) hname (by decide) helement)
  exact ⟨"\n ".toList, _, ['\n'], rfl, by decide, .object hentries, by decide⟩

/-- A document twice, in two chunks. -/
theorem yields_aDocument :
    let sent := separated [Utf8.encode aDocument, Utf8.encode aDocument]
    Yields .empty [sent.take 50, sent.drop 50] [Utf8.encode aDocument, Utf8.encode aDocument]
      .empty := by
  intro sent
  have hdocuments : ∀ text ∈ [aDocument, aDocument], IsDocument text := by
    simpa using isDocument_aDocument
  have hlines : ∀ text ∈ [aDocument, aDocument], ¬ blankLine <:+: Utf8.encode text := by
    decide +kernel
  have hchunks : [sent.take 50, sent.drop 50].flatten = sent := by simp
  exact (yields_documents hdocuments hlines hchunks _ _).2 ⟨rfl, rfl⟩

/-- A document with a blank line between its braces comes back in two pieces. -/
theorem yields_pieces_of_blank_line :
    IsDocument "\x7b\n\n\x7d".toList ∧
      Yields .empty [separated [octets "\x7b\n\n\x7d"]] [octets "\x7b", octets "\x7d"] .empty ∧
        ¬ Yields .empty [separated [octets "\x7b\n\n\x7d"]] [octets "\x7b\n\n\x7d"] .empty := by
  have hpieces : Yields .empty [separated [octets "\x7b\n\n\x7d"]] [octets "\x7b", octets "\x7d"]
      .empty := .append (.take rfl (.take rfl (.done rfl)))
  refine ⟨⟨[], _, [], rfl, by decide, @Derives.blankObject ['\n', '\n'] (by decide), by decide⟩,
    hpieces, fun hwhole => ?_⟩
  have heq := hpieces.takeAll.symm.trans hwhole.takeAll
  rw [Prod.mk.injEq] at heq
  exact absurd heq.1 (by decide)

end ClusterRpc.ReceiveBuffer
