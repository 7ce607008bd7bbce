import GirDoc.Proofs.Extract.Concatenation

/-!
# When the items of a text spell texts

Items are cut out of the bytes of a text. All cuts but one are made at bytes that are characters, so what they leave
is a text (`IsSpan.exists_text`). The one left is at the end of a text that ends in a comment: the comment loses
its last byte, which may be a part of a character (`IsSpan.exists_text_iff_of_unclosed`).

The main statement is `extract_eq_none_iff_endsInComment`.
-/

namespace GirDoc.Extract

open Text.Utf8

/-! ## Items as bytes and as texts -/

/-- An item with its text as bytes. -/
def Item.encode (item : Item String) : Item (List UInt8) :=
  { item with text := Text.Utf8.encode item.text }

theorem decode?_eq_some_iff_encode {item : Item (List UInt8)} {read : Item String} :
    item.decode? = some read ↔ item = read.encode := by
  rw [Item.decode?, Option.map_eq_some_iff]
  constructor
  · rintro ⟨text, htext, rfl⟩
    rw [Item.encode, ← decode?_eq_some_iff.mp htext]
  · rintro rfl
    exact ⟨read.text, decode?_eq_some_iff.mpr rfl, rfl⟩

/-- **The items of a text are those of its bytes, if they spell texts.** -/
theorem extract_eq_some_iff {text : String} {found : List (Item String)} :
    extract text = some found ↔ items (encode text) = found.map Item.encode := by
  rw [extract]
  constructor
  · intro h
    rw [← List.forall₂_eq_eq_eq, List.forall₂_map_right_iff]
    exact (forall₂_of_mapM_eq_some h).imp fun _ _ => decode?_eq_some_iff_encode.mp
  · intro h
    rw [h]
    clear h
    induction found with
    | nil => rfl
    | cons item rest ih =>
      rw [List.map_cons, List.mapM_cons, decode?_eq_some_iff_encode.mpr rfl, ih]
      rfl

/-! ## A text and its end -/

/-- Whether the last character of a text has several bytes. -/
def endsWide (text : String) : Bool := text.toList.getLast?.any (1 < ·.utf8Size)

theorem endsWide_eq_false_iff {text : String} {b : UInt8} (h : (encode text).getLast? = some b) :
    endsWide text = false ↔ b.toNat < 0x80 := by
  cases hlast : text.toList.getLast? with
  | none =>
    rw [encode_eq_flatMap, List.getLast?_eq_none_iff.mp hlast] at h
    cases h
  | some c =>
    rw [lt_getLast?_iff hlast h, endsWide, hlast, Option.any_some, decide_eq_false_iff_not]
    have := c.utf8Size_pos
    omega

/-! ## Comments that are never closed -/

variable {s : List UInt8} {span : Span}

/-- A closing mark stands after the opening of a span. -/
def Span.IsClosed (s : List UInt8) (span : Span) : Prop := ∃ e, span.body ≤ e ∧ [star, slash] <+: s.drop e

/-- A source ends in a comment that is kept and never closed. -/
def EndsInComment (s : List UInt8) : Prop :=
  ∃ spans, Spans s 0 spans ∧ ∃ span ∈ spans, span.kind = .comment ∧ span.isKept s = true ∧ ¬ span.IsClosed s

theorem IsSpan.next_le_length (h : IsSpan s span) (hkind : span.kind = .comment) (hclosed : span.IsClosed s) :
    span.next ≤ s.length := by
  cases h with
  | @closed p e comment close =>
    have hlen := close.1.2.length_le
    simp only [List.length_drop, List.length_cons, List.length_nil] at hlen
    show e + 2 ≤ s.length
    omega
  | unclosed comment noClose =>
    obtain ⟨e, he, hclose⟩ := hclosed
    exact absurd hclose (noClose e he)
  | definition => cases hkind

/-- What stands in a comment is a text exactly if the comment is. -/
theorem exists_encode_comment_iff {body : List UInt8} :
    (∃ part, [slash, star] ++ body ++ [star, slash] = encode part) ↔ ∃ part, body = encode part := by
  constructor
  · rintro ⟨part, hpart⟩
    obtain ⟨before, -, hbefore, -⟩ := exists_encode_of_append_cons (b := star) (by decide) hpart.symm
    have hopen : encode before = [slash] ++ star :: body := hbefore.symm
    obtain ⟨-, inner, -, hinner⟩ := exists_encode_of_append_cons (by decide) hopen
    exact ⟨inner, hinner⟩
  · rintro ⟨part, rfl⟩
    exact ⟨"/*" ++ part ++ "*/", (encode_comment part).symm⟩

/-- **A comment that is never closed spells a text exactly if the last character has one byte**, which is the byte that
it loses. -/
theorem IsSpan.exists_text_iff_of_unclosed {text : String} (h : IsSpan (encode text) span)
    (hkind : span.kind = .comment) (hkept : span.isKept (encode text) = true)
    (hopen : ¬ span.IsClosed (encode text)) :
    (∃ part, span.text (encode text) = encode part) ↔ endsWide text = false := by
  cases h with
  | closed comment close => exact absurd ⟨_, close.1⟩ hopen
  | definition => cases hkind
  | @unclosed p comment noClose =>
    obtain ⟨-, rest, -, hrest⟩ := exists_encode_of_append_cons (by decide)
      (eq_take_append_cons (getElem?_of_prefix_drop comment (show 1 < 2 by decide)))
    have hlong : p + 2 + 1 < (encode text).length := by
      obtain ⟨hsome, -⟩ : KeepsAt (encode text) (p + 2) := by simpa [Span.isKept] using hkept
      simpa using hsome
    have hbody : (encode text).extract (p + 2) ((encode text).length - 1) = (encode rest).dropLast := by
      rw [List.extract_eq_take_drop, List.dropLast_eq_take, ← hrest, List.length_drop]
      congr 1
      omega
    obtain ⟨b, hb⟩ : ∃ b, (encode text).getLast? = some b :=
      ⟨_, List.getLast?_eq_some_getLast (List.ne_nil_of_length_pos (by omega))⟩
    have hlast : (encode rest).getLast? = some b := by
      rw [← hrest, List.getLast?_drop, if_neg (by omega), hb]
    rw [Span.text, hbody, exists_encode_comment_iff, exists_encode_dropLast_iff hlast, endsWide_eq_false_iff hb]

/-! ## Texts whose items are found -/

/-- **The items of a text are not found exactly if, before its first NUL, it ends in a comment that is kept and never
closed, and its last character has several bytes.** Otherwise they are those of its bytes, each of which spells a
text. -/
theorem extract_eq_none_iff_endsInComment (text : String) :
    (extract text = none ↔ EndsInComment (encode (beforeNul text)) ∧ endsWide (beforeNul text) = true) ∧
      ((∃ found, extract text = some found ∧ items (encode text) = found.map Item.encode) ↔
        ¬ (EndsInComment (encode (beforeNul text)) ∧ endsWide (beforeNul text) = true)) := by
  have hs := (encode_beforeNul text).symm
  obtain ⟨spans, hspans, -⟩ := exists_spans (encode (beforeNul text)) 1 _ 0 rfl (by simp [newlines])
  have hfound : (∃ found, extract text = some found) ↔
      ¬ (EndsInComment (encode (beforeNul text)) ∧ endsWide (beforeNul text) = true) := by
    constructor
    · rintro ⟨found, hfound⟩ ⟨⟨spans', hspans', span, hmem, hkind, hkept, hopen⟩, hwide⟩
      obtain rfl := hspans.unique hspans'
      rw [extract_eq_some_iff, items_eq_of_spans hs hspans] at hfound
      have hitem : span.item (encode (beforeNul text)) ∈ found.map Item.encode :=
        hfound ▸ List.mem_map_of_mem (List.mem_filter.mpr ⟨hmem, hkept⟩)
      obtain ⟨item, -, hitem⟩ := List.mem_map.mp hitem
      have hnarrow := ((hspans.isSpan span hmem).exists_text_iff_of_unclosed hkind hkept hopen).mp
        ⟨item.text, (congrArg Item.text hitem).symm⟩
      rw [hnarrow] at hwide
      cases hwide
    · intro hnot
      refine exists_extract_of_forall_text hs hspans fun span hmem hkept => ?_
      have his := hspans.isSpan span hmem
      by_cases hopen : span.kind = .comment ∧ ¬ span.IsClosed (encode (beforeNul text))
      · refine (his.exists_text_iff_of_unclosed hopen.1 hkept hopen.2).mpr ?_
        rw [← Bool.not_eq_true]
        exact fun hwide => hnot ⟨⟨spans, hspans, span, hmem, hopen.1, hkept, hopen.2⟩, hwide⟩
      · refine his.exists_text fun hkind => his.next_le_length hkind ?_
        by_contra hnone
        exact hopen ⟨hkind, hnone⟩
  refine ⟨?_, ?_⟩
  · rw [← not_iff_not, ← hfound]
    exact Option.ne_none_iff_exists'
  · rw [← hfound]
    exact exists_congr fun found => and_iff_left_of_imp extract_eq_some_iff.mp

/-- The last text but one has a comment that is not kept, and the last one loses a character of one byte. -/
example : (extract "/* é").isNone ∧ (extract "/* é*/").isSome ∧ (extract "/***é").isSome ∧
    (extract "/* é ").isSome := by
  decide +kernel

end GirDoc.Extract
