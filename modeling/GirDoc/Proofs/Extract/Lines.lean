import Mathlib.Data.List.Forall2
import GirDoc.C.Scan
import GirDoc.Proofs.Attempt
import GirDoc.Proofs.Extract.Spans

/-!
# The lines of items

The last line of an item is the line where reading goes on after it. Its first line counts the newlines up to
the bytes that are looked at after its opening, which are two for a comment and one for a definition.

* The lines of the items of a text are counted so, they do not decrease, and a comment always finds the line that
  it takes its indentation from (`counts_lines`).
* So the first line is the line of the opening exactly if one of the bytes looked at is a newline
  (`firstLine_eq_openerLine_iff`). It is for a comment whose first line is empty, and it is not for a comment on
  one line or for any definition that begins on its own line.
-/

namespace GirDoc.Extract

open Text.Utf8

/-! ## Spans in order -/

theorem newlines_take_mono (s : List UInt8) {i j : Nat} (h : i ≤ j) :
    newlines (s.take i) ≤ newlines (s.take j) :=
  (List.take_prefix_take_left h).sublist.count_le newline

theorem newlines_take_le (s : List UInt8) (i : Nat) : newlines (s.take i) ≤ newlines s :=
  (List.take_sublist i s).count_le newline

variable {s : List UInt8} {span : Span}

theorem MatchesDefinition.bounds {p r : Nat} (h : MatchesDefinition s p r) : p < r ∧ r ≤ s.length := by
  obtain ⟨w, ⟨before, after, -, -, rfl⟩, hprefix, rfl⟩ := h
  have hlen := hprefix.length_le
  simp only [List.length_drop, List.length_append, List.length_cons] at hlen ⊢
  omega

theorem DefinitionStops.le {r t : Nat} (h : DefinitionStops s r t) (hr : r ≤ s.length) : r ≤ t := by
  rcases h with h | ⟨-, rfl⟩
  · exact h.1.1.le
  · exact hr

theorem IsSpan.le_next (h : IsSpan s span) : span.opener ≤ span.next := by
  cases h with
  | closed comment close => exact (Nat.le_add_right _ 2).trans (close.1.1.trans (Nat.le_add_right _ 2))
  | @unclosed p comment =>
    have hlen := comment.length_le
    simp only [List.length_drop, List.length_cons, List.length_nil] at hlen
    show p ≤ s.length + 1
    omega
  | definition opening stop =>
    have hr := opening.1.bounds
    exact hr.1.le.trans ((stop.le hr.2).trans (Nat.le_succ _))

/-- What is looked at after an opening belongs to the span, if that is of an item or ends within the source. -/
theorem IsSpan.lookahead_le (h : IsSpan s span) (hread : span.isKept s = true ∨ span.next ≤ s.length) :
    span.body + span.lookahead ≤ span.next := by
  cases h with
  | closed comment close => exact Nat.add_le_add_right close.1.1 2
  | @unclosed p comment noClose =>
    rcases hread with hkept | hnext
    · obtain ⟨hsome, -⟩ : KeepsAt s (p + 2) := by simpa [Span.isKept] using hkept
      have hlt : p + 2 + 1 < s.length := by simpa using hsome
      exact Nat.le_succ_of_le hlt
    · exact absurd hnext (Nat.not_succ_le_self _)
  | definition opening stop => exact Nat.succ_le_succ (stop.le opening.1.bounds.2)

theorem Spans.le_next {i : Nat} {spans : List Span} (h : Spans s i spans) :
    ∀ span ∈ spans, i ≤ span.next := by
  induction h with
  | done => simp
  | more first here _ ih =>
    have hnext := first.1.1.trans here.le_next
    intro span hmem
    rcases List.mem_cons.mp hmem with rfl | hmem
    · exact hnext
    · exact hnext.trans (ih span hmem)

theorem Spans.isSpan {i : Nat} {spans : List Span} (h : Spans s i spans) : ∀ span ∈ spans, IsSpan s span := by
  induction h with
  | done => simp
  | more _ here _ ih => exact List.forall_mem_cons.mpr ⟨here, ih⟩

/-- Spans follow each other. -/
theorem Spans.pairwise_next {i : Nat} {spans : List Span} (h : Spans s i spans) :
    spans.Pairwise (·.next ≤ ·.next) := by
  induction h with
  | done => exact .nil
  | more _ _ others ih => exact .cons others.le_next ih

/-! ## The text before its first NUL -/

/-- The text before its first NUL. -/
def beforeNul (text : String) : String := String.ofList (text.toList.takeWhile (· ≠ '\x00'))

theorem zero_notMem_utf8EncodeChar {c : Char} (h : c ≠ '\x00') : 0 ∉ String.utf8EncodeChar c := by
  intro hmem
  have hne : c.val.toNat ≠ UInt8.toNat 0 := fun hc => h (Char.ext (UInt32.toNat_inj.mp hc))
  have hcount := count_utf8EncodeChar (show UInt8.toNat 0 < 0x80 by decide) c
  rw [if_neg hne] at hcount
  exact List.count_eq_zero.mp hcount hmem

theorem encode_beforeNul (text : String) : encode (beforeNul text) = (encode text).takeWhile (· ≠ 0) := by
  rw [beforeNul, encode_ofList, encode_eq_flatMap]
  induction text.toList with
  | nil => rfl
  | cons c cs ih =>
    by_cases hc : c = '\x00'
    · subst hc
      rw [List.takeWhile_cons_of_neg (by simp), List.flatMap_cons]
      rfl
    · have hfirst : ∀ b ∈ String.utf8EncodeChar c, decide (b ≠ 0) = true := by
        intro b hb
        simpa using ne_of_mem_of_not_mem hb (zero_notMem_utf8EncodeChar hc)
      rw [List.takeWhile_cons_of_pos (by simpa using hc), List.flatMap_cons, List.flatMap_cons, ih,
        List.takeWhile_append_of_pos hfirst]

/-! ## Items of a text -/

/-- The lines of an item are counted from its span: up to the bytes looked at after the opening, and up to the
last byte that belongs to it. -/
structure Span.Counts {τ : Type} (s : List UInt8) (span : Span) (item : Item τ) : Prop where
  kind : item.kind = span.kind
  firstLine : item.firstLine = newlines (s.take (span.body + span.lookahead))
  lastLine : item.lastLine = 1 + newlines (s.take span.next)

theorem forall₂_of_mapM_eq_some {α β : Type} {f : α → Option β} {as : List α} {bs : List β}
    (h : as.mapM f = some bs) : List.Forall₂ (fun a b => f a = some b) as bs := by
  induction as generalizing bs with
  | nil =>
    rw [List.mapM_nil] at h
    cases h
    exact .nil
  | cons a as ih =>
    simp only [List.mapM_cons, Option.bind_eq_bind, Option.bind_eq_some_iff, Option.pure_def,
      Option.some.injEq] at h
    obtain ⟨b, hb, rest, hrest, rfl⟩ := h
    exact .cons hb (ih hrest)

theorem counts_of_decode? {item : Item String} (h : (span.item s).decode? = some item) :
    span.Counts s item := by
  obtain ⟨text, -, rfl⟩ := Option.map_eq_some_iff.mp h
  exact ⟨rfl, rfl, rfl⟩

/-- **The items of a text are counted from the spans before its first NUL.** -/
theorem exists_counts {text : String} {found : List (Item String)} (hfound : extract text = some found) :
    ∃ spans, Spans (encode (beforeNul text)) 0 spans ∧
      List.Forall₂ (Span.Counts (encode (beforeNul text)))
        (spans.filter (·.isKept (encode (beforeNul text)))) found := by
  obtain ⟨spans, hspans, -⟩ := exists_spans (encode (beforeNul text)) 1 _ 0 rfl (by simp [newlines])
  refine ⟨spans, hspans, ?_⟩
  rw [extract, items_eq_of_spans (encode_beforeNul text).symm hspans] at hfound
  have hdecoded := List.forall₂_map_left_iff.mp (forall₂_of_mapM_eq_some hfound)
  exact hdecoded.imp fun _ _ => counts_of_decode?

theorem Span.Counts.firstLine_le {τ : Type} {item : Item τ} (h : span.Counts s item) (his : IsSpan s span)
    (hkept : span.isKept s = true) : item.firstLine ≤ item.lastLine := by
  rw [h.firstLine, h.lastLine]
  exact (newlines_take_mono s (his.lookahead_le (Or.inl hkept))).trans (Nat.le_add_left _ 1)

theorem pairwise_lastLine {i : Nat} {spans : List Span} {τ : Type} {found : List (Item τ)}
    (hspans : Spans s i spans)
    (h : List.Forall₂ (Span.Counts s) (spans.filter (·.isKept s)) found) :
    found.Pairwise (·.lastLine ≤ ·.lastLine) := by
  have hlines : (spans.filter (·.isKept s)).map (fun span => 1 + newlines (s.take span.next))
      = found.map Item.lastLine := by
    rw [← List.forall₂_eq_eq_eq, List.forall₂_map_left_iff, List.forall₂_map_right_iff]
    exact h.imp fun _ _ hcounts => hcounts.lastLine.symm
  rw [← List.pairwise_map (f := Item.lastLine) (R := (· ≤ ·)), ← hlines, List.pairwise_map]
  refine (hspans.pairwise_next.filter _).imp fun hnext => ?_
  exact Nat.add_le_add_left (newlines_take_mono s hnext) 1

/-! ## The line of a comment among the lines of its file -/

theorem newlines_le_length_cutAfter (bytes : List UInt8) :
    newlines bytes ≤ (Text.cutAfter (· = newline) bytes).length := by
  fun_induction Text.cutAfter (fun b : UInt8 => decide (b = newline)) bytes with
  | case1 => exact Nat.zero_le _
  | case2 b rest hb ih =>
    obtain rfl : b = newline := of_decide_eq_true hb
    rw [newlines, List.count_cons_self, List.length_cons]
    exact Nat.succ_le_succ ih
  | case3 b rest hb hnil ih =>
    have hne : b ≠ newline := fun h => hb (decide_eq_true h)
    rw [newlines, List.count_cons_of_ne hne]
    rw [hnil] at ih
    exact ih.trans (Nat.zero_le _)
  | case4 b rest hb line lines hlines ih =>
    have hne : b ≠ newline := fun h => hb (decide_eq_true h)
    rw [newlines, List.count_cons_of_ne hne]
    rw [hlines] at ih
    exact ih

/-- Decoding line by line keeps the number of newlines, if each line keeps its own. -/
theorem newlines_encode_join {decode : List UInt8 → String} {lines : List (List UInt8)}
    (h : ∀ line ∈ lines, newlines (encode (decode line)) = newlines line) :
    newlines (encode (String.join (lines.map decode))) = newlines lines.flatten := by
  rw [encode_join]
  induction lines with
  | nil => rfl
  | cons line rest ih =>
    obtain ⟨hline, hrest⟩ := List.forall_mem_cons.mp h
    rw [List.map_cons, List.flatMap_cons, newlines_append, hline, ih hrest, List.flatten_cons,
      newlines_append]

/-- One character a byte: only the newline becomes a newline. -/
theorem newlines_flatMap_bytes (line : List UInt8) :
    newlines ((line.map fun b => Char.ofNat b.toNat).flatMap String.utf8EncodeChar) = newlines line := by
  induction line with
  | nil => rfl
  | cons b rest ih =>
    have hvalue : (Char.ofNat b.toNat).val.toNat = b.toNat :=
      toNat_ofNat_of_valid (Or.inl (b.toNat_lt.trans (by decide)))
    have hfirst : newlines (String.utf8EncodeChar (Char.ofNat b.toNat)) = newlines [b] := by
      rw [newlines, newlines, count_utf8EncodeChar (by decide), hvalue, List.count_singleton]
      simp only [beq_iff_eq, UInt8.toNat_inj]
    rw [List.map_cons, List.flatMap_cons, newlines_append, hfirst, ih, ← newlines_append,
      List.singleton_append]

/-- A line of a source keeps its newline, be it text or not. -/
theorem newlines_decodeLine (line : List UInt8) :
    newlines (encode (SourceLines.decodeLine line)) = newlines line := by
  unfold SourceLines.decodeLine
  split
  · next text htext => rw [← decode?_eq_some_iff.mp htext]
  · rw [encode_ofList, newlines_flatMap_bytes]

theorem exists_mem_of_forall₂ {α β : Type} {R : α → β → Prop} {as : List α} {bs : List β}
    (h : List.Forall₂ R as bs) {b : β} (hb : b ∈ bs) : ∃ a ∈ as, R a b := by
  induction h with
  | nil => cases hb
  | @cons a b' as bs hab _ ih =>
    rcases List.mem_cons.mp hb with rfl | hb
    · exact ⟨a, List.mem_cons_self, hab⟩
    · obtain ⟨a', ha', hR⟩ := ih hb
      exact ⟨a', List.mem_cons_of_mem a ha', hR⟩

theorem firstLine_le_newlines {text : String} {found : List (Item String)} {item : Item String}
    (hfound : extract text = some found) (hitem : item ∈ found) :
    item.firstLine ≤ newlines (encode text) := by
  obtain ⟨spans, -, hcounts⟩ := exists_counts hfound
  obtain ⟨span, -, hcount⟩ := exists_mem_of_forall₂ hcounts hitem
  rw [hcount.firstLine, encode_beforeNul]
  exact (newlines_take_le _ _).trans ((List.takeWhile_sublist _).count_le newline)

/-- The line that is found for a number: the line before the first is the last one. -/
theorem item?_sub_one (lines : List String) (n : Nat) :
    Text.item? lines ((n : Int) - 1) = if n = 0 then lines.getLast? else lines[n - 1]? := by
  cases n with
  | zero =>
    rw [Text.item?, if_neg (by decide), if_pos rfl, List.getLast?_eq_getElem?]
    split
    · congr 1
      omega
    · rw [List.getElem?_eq_none (by omega)]
  | succ n =>
    rw [Text.item?, if_pos (by omega), if_neg (Nat.succ_ne_zero n)]
    congr 1
    omega

/-- A text has no more newlines than lines if its lines keep their newlines when they are decoded. -/
theorem newlines_join_le_length {decode : List UInt8 → String} {bytes : List UInt8}
    (hkeeps : ∀ line ∈ Text.cutAfter (· = newline) bytes, newlines (encode (decode line)) = newlines line) :
    newlines (encode (String.join ((Text.cutAfter (· = newline) bytes).map decode))) ≤
      ((Text.cutAfter (· = newline) bytes).map decode).length := by
  rw [newlines_encode_join hkeeps, Text.flatten_cutAfter, List.length_map]
  exact newlines_le_length_cutAfter bytes

/-- **Every item has a line among the lines of its file.** -/
theorem exists_item? {lines : List String} {found : List (Item String)} {item : Item String}
    (hlines : newlines (encode (String.join lines)) ≤ lines.length)
    (hfound : extract (String.join lines) = some found) (hitem : item ∈ found) :
    ∃ line, Text.item? lines ((item.firstLine : Int) - 1) = some line := by
  have hle := (firstLine_le_newlines hfound hitem).trans hlines
  have hne : lines ≠ [] := by
    rintro rfl
    rw [String.join_nil, extract, encode_empty, items, List.takeWhile_nil, itemsFrom] at hfound
    cases hfound
    cases hitem
  rw [item?_sub_one]
  split
  · exact ⟨_, List.getLast?_eq_some_getLast hne⟩
  · exact ⟨_, List.getElem?_eq_getElem (by omega)⟩

end GirDoc.Extract

namespace GirDoc.C

open Extract Session

/-- The comment that an item is, if it documents something. -/
def documents? (given : Environment) (file line : String) (item : Item String) : Option Comment :=
  given.readComment (SourceLines.indent line ++ item.text) file item.firstLine item.lastLine
    given.project.includePaths

/-- What is told of a comment when it is read. -/
def commentEntries (given : Environment) (file line : String) (item : Item String) : List LogEntry :=
  .readComment (SourceLines.indent line ++ item.text) file item.firstLine item.lastLine
      given.project.includePaths ::
    (documents? given file line item).elim [] fun c => [.addComment c.name c.description c.filename]

/-- A session after a comment was read: it is added if it documents something. -/
def withComment (s : Session) (file line : String) (item : Item String) : Session :=
  { s with
    log := s.log ++ commentEntries s.environment file line item
    comments := (documents? s.environment file line item).elim s.comments (keepComment s.comments) }

theorem start_scanComment (s : Session) (file : String) {lines : List String} {item : Item String}
    {line : String} (h : Text.item? lines ((item.firstLine : Int) - 1) = some line) :
    (scanComment file lines item).start s = (.ok (), withComment s file line item) := by
  rw [scanComment, h, Attempt.start_bind_ok (Attempt.start_need_some _ _ _)]
  have hgiven : given.start s = (.ok s.environment, s) := rfl
  simp only [Attempt.start_bind_ok hgiven, withComment, commentEntries, documents?]
  split
  · next hnone =>
    rw [hnone, Option.elim_none, Option.elim_none]
    rfl
  · next c hsome =>
    rw [hsome, Option.elim_some, Option.elim_some, ← List.singleton_append, ← List.append_assoc]
    rfl

end GirDoc.C

namespace GirDoc.Extract

open Text.Utf8

/-! ## Line accounting -/

/-- **The lines of the items of a text count the newlines up to their bytes.** What counts is the text before its
first NUL, where reading stops. So last lines do not decrease, a first line is neither past the last line of its
item nor past the lines of the text, and a comment finds the line that it takes its indentation from in every file
whose lines keep their newlines when they are decoded, as those of a scan do. -/
theorem counts_lines :
    (∀ (text : String) (found : List (Item String)), extract text = some found →
      (∃ spans, Spans (encode (beforeNul text)) 0 spans ∧
        List.Forall₂ (Span.Counts (encode (beforeNul text)))
          (spans.filter (·.isKept (encode (beforeNul text)))) found) ∧
      found.Pairwise (·.lastLine ≤ ·.lastLine) ∧
      ∀ item ∈ found, item.firstLine ≤ item.lastLine ∧
        item.firstLine ≤ (Text.cutAfter (· = newline) (encode text)).length) ∧
    (∀ (decode : List UInt8 → String) (bytes : List UInt8) (found : List (Item String)),
      let raw := Text.cutAfter (· = newline) bytes
      (∀ line ∈ raw, newlines (encode (decode line)) = newlines line) →
      extract (String.join (raw.map decode)) = some found →
      ∀ item ∈ found, ∀ (file : String) (s : Session),
        ∃ t, (C.scanComment file (raw.map decode) item).start s = (.ok (), t)) ∧
    ∀ line, newlines (encode (SourceLines.decodeLine line)) = newlines line := by
  refine ⟨?_, ?_, newlines_decodeLine⟩
  · intro text found hfound
    obtain ⟨spans, hspans, hcounts⟩ := exists_counts hfound
    refine ⟨⟨spans, hspans, hcounts⟩, pairwise_lastLine hspans hcounts, fun item hitem => ⟨?_, ?_⟩⟩
    · obtain ⟨span, hspan, hcount⟩ := exists_mem_of_forall₂ hcounts hitem
      obtain ⟨hmem, hkept⟩ := List.mem_filter.mp hspan
      exact hcount.firstLine_le (hspans.isSpan span hmem) hkept
    · exact (firstLine_le_newlines hfound hitem).trans (newlines_le_length_cutAfter _)
  · intro decode bytes found raw hkeeps hfound item hitem file s
    obtain ⟨line, hline⟩ := exists_item? (newlines_join_le_length hkeeps) hfound hitem
    exact ⟨_, C.start_scanComment s file hline⟩

/-- A comment over two lines, one of them no UTF-8, and a definition. -/
theorem counts_lines_commentThenDefinition :
    ∃ found, extract "/**\nÿ */\n#define B 1\n" = some found ∧
      found.map (fun item => (item.firstLine, item.lastLine)) = [(1, 2), (2, 4)] ∧
      found.Pairwise (·.lastLine ≤ ·.lastLine) ∧
      ∀ item ∈ found, item.firstLine ≤ item.lastLine ∧ ∀ (file : String) (s : Session),
        ∃ t, (C.scanComment file (SourceLines.decoded
          (encode "/**\n" ++ 0xFF :: encode " */\n#define B 1\n")) item).start s = (.ok (), t) := by
  have hextract : (extract "/**\nÿ */\n#define B 1\n").map
      (·.map fun item => (item.firstLine, item.lastLine)) = some [(1, 2), (2, 4)] := by decide +kernel
  have hjoin : String.join (SourceLines.decoded (encode "/**\n" ++ 0xFF :: encode " */\n#define B 1\n"))
      = "/**\nÿ */\n#define B 1\n" := by decide +kernel
  obtain ⟨found, hfound, hlines⟩ := Option.map_eq_some_iff.mp hextract
  obtain ⟨-, hpairwise, hle⟩ := counts_lines.1 _ found hfound
  have hscan := counts_lines.2.1 SourceLines.decodeLine _ found (fun line _ => counts_lines.2.2 line)
    (hjoin ▸ hfound)
  exact ⟨found, hfound, hlines, hpairwise, fun item hitem => ⟨(hle item hitem).1, hscan item hitem⟩⟩

/-! ## The line of an opening -/

/-- The number of the line that a span opens on; the first line is line one. -/
def Span.openerLine (s : List UInt8) (span : Span) : Nat := 1 + newlines (s.take span.opener)

/-- The newlines among the bytes that are looked at after the opening. -/
def Span.newlinesAhead (s : List UInt8) (span : Span) : Nat :=
  newlines ((s.drop span.body).take span.lookahead)

theorem Span.Counts.firstLine_add_one {τ : Type} {item : Item τ} (h : span.Counts s item)
    (his : IsSpan s span) : item.firstLine + 1 = span.openerLine s + span.newlinesAhead s := by
  rw [h.firstLine, newlines_take_add, his.newlines_body, Span.openerLine, Span.newlinesAhead]
  omega

/-- **The first line of an item is the line of its opening exactly if one of the bytes looked at after the
opening is a newline.** Otherwise it is the line before, or the line after for a comment that begins with two
newlines; and the line of a file that is found for it is off in the same way, the last line standing for the one
before the first. -/
theorem firstLine_eq_openerLine_iff (text : String) {found : List (Item String)}
    (hfound : extract text = some found) :
    let s := encode (beforeNul text)
    ∃ spans, Spans s 0 spans ∧
      List.Forall₂ (fun span item =>
        item.firstLine + 1 = span.openerLine s + span.newlinesAhead s ∧
        (item.firstLine = span.openerLine s ↔ span.newlinesAhead s = 1) ∧
        ∀ lines : List String, Text.item? lines ((item.firstLine : Int) - 1) =
          if span.openerLine s + span.newlinesAhead s = 1 then lines.getLast?
          else lines[span.openerLine s + span.newlinesAhead s - 2]?)
        (spans.filter (·.isKept s)) found := by
  intro s
  obtain ⟨spans, hspans, hcounts⟩ := exists_counts hfound
  refine ⟨spans, hspans, ?_⟩
  have his : ∀ span ∈ spans.filter (·.isKept s), IsSpan s span :=
    fun span hmem => hspans.isSpan span (List.mem_filter.mp hmem).1
  refine ((List.forall₂_and_left _ _).mpr ⟨his, hcounts⟩).imp ?_
  rintro span item ⟨hspan, hcount⟩
  have hline : item.firstLine + 1 = span.openerLine s + span.newlinesAhead s := hcount.firstLine_add_one hspan
  refine ⟨hline, by omega, fun lines => ?_⟩
  rw [item?_sub_one, ← hline]
  simp only [Nat.add_eq_right, Nat.add_sub_add_right item.firstLine 1 1]

/-- The first line is that of the opening for a comment that begins with a newline; what follows a NUL is not
read. -/
theorem firstLine_eq_openerLine_block :
    ∃ found spans, extract "\n/**\n */\x00/* */" = some found ∧ found.map Item.firstLine = [2] ∧
      Spans (encode (beforeNul "\n/**\n */\x00/* */")) 0 spans ∧
      List.Forall₂ (fun span item =>
          item.firstLine = span.openerLine (encode (beforeNul "\n/**\n */\x00/* */")) ↔
            span.newlinesAhead (encode (beforeNul "\n/**\n */\x00/* */")) = 1)
        (spans.filter (·.isKept (encode (beforeNul "\n/**\n */\x00/* */")))) found := by
  have hextract : (extract "\n/**\n */\x00/* */").map (·.map Item.firstLine) = some [2] := by decide +kernel
  obtain ⟨found, hfound, hlines⟩ := Option.map_eq_some_iff.mp hextract
  obtain ⟨spans, hspans, hitems⟩ := firstLine_eq_openerLine_iff _ hfound
  exact ⟨found, spans, hfound, hlines, hspans, hitems.imp fun _ _ h => h.2.1⟩

/-- The first line is not that of the opening for a comment on one line, nor for a definition: both are said to
be on line zero. -/
theorem firstLine_ne_openerLine :
    (∃ found, extract "/* a */\n#define B 1\n" = some found ∧
      ¬ ∃ spans, Spans (encode "/* a */\n#define B 1\n") 0 spans ∧
        List.Forall₂ (fun span item => item.firstLine = span.openerLine (encode "/* a */\n#define B 1\n"))
          (spans.filter (·.isKept (encode "/* a */\n#define B 1\n"))) found) ∧
    ∃ found, extract "#define B 1\n" = some found ∧
      ¬ ∃ spans, Spans (encode "#define B 1\n") 0 spans ∧
        List.Forall₂ (fun span item => item.firstLine = span.openerLine (encode "#define B 1\n"))
          (spans.filter (·.isKept (encode "#define B 1\n"))) found := by
  -- no opening is on line zero
  have hzero {s : List UInt8} {spans : List Span} {found : List (Item String)}
      (hlines : 0 ∈ found.map Item.firstLine)
      (h : List.Forall₂ (fun span item => item.firstLine = span.openerLine s) spans found) : False := by
    obtain ⟨item, hmem, hitem⟩ := List.mem_map.mp hlines
    obtain ⟨span, -, hspan⟩ := exists_mem_of_forall₂ h hmem
    rw [hitem, Span.openerLine] at hspan
    omega
  have hboth : (extract "/* a */\n#define B 1\n").map (·.map Item.firstLine) = some [0, 1] := by
    decide +kernel
  have hdefinition : (extract "#define B 1\n").map (·.map Item.firstLine) = some [0] := by decide +kernel
  obtain ⟨found, hfound, hlines⟩ := Option.map_eq_some_iff.mp hboth
  obtain ⟨found', hfound', hlines'⟩ := Option.map_eq_some_iff.mp hdefinition
  exact ⟨⟨found, hfound, fun ⟨_, _, h⟩ => hzero (hlines ▸ List.mem_cons_self) h⟩,
    found', hfound', fun ⟨_, _, h⟩ => hzero (hlines' ▸ List.mem_cons_self) h⟩

end GirDoc.Extract
