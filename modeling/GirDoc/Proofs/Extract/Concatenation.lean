import GirDoc.Proofs.Extract.Lines

/-!
# Items of a concatenation

A source that ends with a newline, outside every comment and definition, can be read apart from what follows it:
the items of the whole are its own items and then those of the rest, with their lines moved on.

Nothing stands across the newline: what opens before it opens in the first part alone (`opensAt_append_left`),
and what opens after it in the second part alone (`opensAt_append_right`). So the spans of the parts are the spans
of the whole (`spans_append`), and the items follow their spans.
-/

namespace GirDoc.Extract

open Text.Utf8

variable {a b : List UInt8} {span : Span}

/-! ## The second part -/

/-- A span in a source that has something in front of it. -/
def Span.shift (n : Nat) (span : Span) : Span where
  kind := span.kind
  opener := n + span.opener
  body := n + span.body
  stop := n + span.stop
  next := n + span.next

/-- An item in a source that has lines in front of it. -/
def Item.shift {τ : Type} (n : Nat) (item : Item τ) : Item τ :=
  { item with firstLine := item.firstLine + n, lastLine := item.lastLine + n }

theorem drop_append_add (a b : List UInt8) (p : Nat) : (a ++ b).drop (a.length + p) = b.drop p := by
  rw [← List.drop_drop, List.drop_left]

theorem extract_append_add (a b : List UInt8) (i j : Nat) :
    (a ++ b).extract (a.length + i) (a.length + j) = b.extract i j := by
  rw [List.extract_eq_take_drop, List.extract_eq_take_drop, drop_append_add, Nat.add_sub_add_left]

theorem getElem?_append_add (a b : List UInt8) (p : Nat) : (a ++ b)[a.length + p]? = b[p]? := by
  rw [List.getElem?_append_right (Nat.le_add_right _ _), Nat.add_sub_cancel_left]

/-- The least of a set of positions from `n + i` on, from the least of the positions that are `n` less. -/
theorem isLeast_shift {P Q : Nat → Prop} {n i m : Nat} (hPQ : ∀ k, P (n + k) ↔ Q k)
    (h : IsLeast {k | i ≤ k ∧ Q k} m) : IsLeast {p | n + i ≤ p ∧ P p} (n + m) := by
  refine ⟨⟨Nat.add_le_add_left h.1.1 n, (hPQ m).mpr h.1.2⟩, ?_⟩
  rintro p ⟨hp, hP⟩
  obtain ⟨k, rfl⟩ := Nat.exists_eq_add_of_le ((Nat.le_add_right n i).trans hp)
  exact Nat.add_le_add_left (h.2 ⟨Nat.le_of_add_le_add_left hp, (hPQ k).mp hP⟩) n

theorem matchesDefinition_append_right {p r : Nat} :
    MatchesDefinition (a ++ b) (a.length + p) (a.length + r) ↔ MatchesDefinition b p r := by
  simp only [MatchesDefinition, drop_append_add, Nat.add_assoc, Nat.add_right_inj]

/-- What opens in the second part opens there alone. -/
theorem opensAt_append_right {p : Nat} : OpensAt (a ++ b) (a.length + p) ↔ OpensAt b p := by
  have hdefinition : (∃ r, MatchesDefinition (a ++ b) (a.length + p) r) ↔ ∃ r, MatchesDefinition b p r := by
    constructor
    · rintro ⟨r, hr⟩
      obtain ⟨k, rfl⟩ := Nat.exists_eq_add_of_le ((Nat.le_add_right _ p).trans hr.bounds.1.le)
      exact ⟨k, matchesDefinition_append_right.mp hr⟩
    · rintro ⟨r, hr⟩
      exact ⟨a.length + r, matchesDefinition_append_right.mpr hr⟩
  rw [OpensAt, OpensAt, drop_append_add, hdefinition]

theorem endsDefinition_append_right {r t : Nat} :
    EndsDefinition (a ++ b) (a.length + r) (a.length + t) ↔ EndsDefinition b r t := by
  simp only [EndsDefinition, getElem?_append_add, Nat.add_assoc, extract_append_add,
    Nat.add_lt_add_iff_left]

theorem DefinitionStops.append_right {r t : Nat} (h : DefinitionStops b r t) :
    DefinitionStops (a ++ b) (a.length + r) (a.length + t) := by
  have hfrom {k : Nat} (hk : EndsDefinition (a ++ b) (a.length + r) k) :
      ∃ j, k = a.length + j ∧ EndsDefinition b r j := by
    obtain ⟨j, rfl⟩ := Nat.exists_eq_add_of_le ((Nat.le_add_right _ r).trans hk.1.le)
    exact ⟨j, rfl, endsDefinition_append_right.mp hk⟩
  rcases h with h | ⟨hnone, rfl⟩
  · refine Or.inl ⟨endsDefinition_append_right.mpr h.1, fun k hk => ?_⟩
    obtain ⟨j, rfl, hj⟩ := hfrom hk
    exact Nat.add_le_add_left (h.2 hj) _
  · refine Or.inr ⟨fun k hk => ?_, List.length_append.symm⟩
    obtain ⟨j, rfl, hj⟩ := hfrom hk
    exact hnone j hj

theorem IsSpan.append_right (h : IsSpan b span) : IsSpan (a ++ b) (span.shift a.length) := by
  cases h with
  | closed comment close =>
    refine .closed ((drop_append_add a b _).symm ▸ comment) ?_
    exact isLeast_shift (fun k => by rw [drop_append_add]) close
  | @unclosed p comment noClose =>
    have hlen := comment.length_le
    simp only [List.length_drop, List.length_cons, List.length_nil] at hlen
    have his : IsSpan (a ++ b) _ :=
      .unclosed (p := a.length + p) ((drop_append_add a b p).symm ▸ comment) fun e he h => by
        obtain ⟨k, rfl⟩ := Nat.exists_eq_add_of_le ((Nat.le_add_right _ (p + 2)).trans he)
        rw [drop_append_add] at h
        exact noClose k (by omega) h
    have hstop : (a ++ b).length - 1 = a.length + (b.length - 1) := by
      rw [List.length_append]
      omega
    rw [hstop, List.length_append] at his
    exact his
  | @definition p r t opening stop =>
    refine .definition ⟨matchesDefinition_append_right.mpr opening.1, fun k hk => ?_⟩ stop.append_right
    obtain ⟨j, rfl⟩ := Nat.exists_eq_add_of_le ((Nat.le_add_right _ p).trans hk.bounds.1.le)
    exact Nat.add_le_add_left (opening.2 (matchesDefinition_append_right.mp hk)) _

/-- The spans of the second part are spans of the whole. -/
theorem Spans.append_right {i : Nat} {spans : List Span} (h : Spans b i spans) :
    Spans (a ++ b) (a.length + i) (spans.map (Span.shift a.length)) := by
  induction h with
  | done nothing =>
    refine .done fun p hp ho => ?_
    obtain ⟨k, rfl⟩ := Nat.exists_eq_add_of_le ((Nat.le_add_right _ _).trans hp)
    exact nothing k (Nat.le_of_add_le_add_left hp) (opensAt_append_right.mp ho)
  | more first here _ ih => exact .more (isLeast_shift (fun _ => opensAt_append_right) first) here.append_right ih

theorem isKept_append_right (a b : List UInt8) (span : Span) :
    (span.shift a.length).isKept (a ++ b) = span.isKept b := by
  have hkeeps : KeepsAt (a ++ b) (a.length + span.body) ↔ KeepsAt b span.body := by
    simp only [KeepsAt, Nat.add_assoc, getElem?_append_add]
  rcases span with ⟨_ | _, _⟩
  · rfl
  · exact decide_eq_decide.mpr hkeeps

theorem item_append_right (a b : List UInt8) (span : Span) :
    (span.shift a.length).item (a ++ b) = (span.item b).shift (newlines a) := by
  have hlines (n : Nat) : newlines ((a ++ b).take (a.length + n)) = newlines (b.take n) + newlines a := by
    rw [newlines_take_add, List.take_left, List.drop_left, Nat.add_comm]
  have htext : (span.shift a.length).text (a ++ b) = span.text b := by
    simp only [Span.text, Span.shift, extract_append_add]
  rw [Span.item, htext]
  simp only [Span.item, Item.shift, Span.shift, Span.lookahead, Nat.add_assoc, hlines]

/-! ## The first part -/

/-- A word without a newline stands in the whole where it stands in a part that ends with one. -/
theorem prefix_drop_append_iff {w : List UInt8} (hw : newline ∉ w) (hend : a.getLast? = some newline)
    {p : Nat} (hp : p < a.length) : w <+: (a ++ b).drop p ↔ w <+: a.drop p := by
  rw [List.drop_append_of_le_length hp.le]
  refine ⟨fun h => ?_, fun h => h.trans (List.prefix_append _ _)⟩
  refine List.prefix_of_prefix_length_le h (List.prefix_append _ _) (Nat.le_of_not_lt fun hlt => hw ?_)
  -- a longer word would hold the newline
  have hlast : (a.drop p ++ b)[(a.drop p).length - 1]? = some newline := by
    rw [List.getElem?_append_left (by rw [List.length_drop]; omega), ← List.getLast?_eq_getElem?,
      List.getLast?_drop, if_neg (by omega), hend]
  obtain ⟨rest, hrest⟩ := h
  rw [← hrest, List.getElem?_append_left (by omega)] at hlast
  exact List.mem_of_getElem? hlast

theorem matchesDefinition_append_left (hend : a.getLast? = some newline) {p r : Nat} (hp : p < a.length) :
    MatchesDefinition (a ++ b) p r ↔ MatchesDefinition a p r := by
  refine exists_congr fun w => and_congr_right fun hw => and_congr_left' ?_
  exact prefix_drop_append_iff (List.count_eq_zero.mp (newlines_opensDefinition hw)) hend hp

/-- What opens in a part that ends with a newline opens there alone. -/
theorem opensAt_append_left (hend : a.getLast? = some newline) {p : Nat} (hp : p < a.length) :
    OpensAt (a ++ b) p ↔ OpensAt a p :=
  or_congr (prefix_drop_append_iff (by decide) hend hp)
    (exists_congr fun _ => matchesDefinition_append_left hend hp)

theorem OpensAt.lt_length {p : Nat} (h : OpensAt a p) : p < a.length := by
  by_contra hle
  exact not_opensAt_of_drop_eq_nil (List.drop_eq_nil_of_le (Nat.le_of_not_lt hle)) le_rfl h

theorem extract_append_left {i j : Nat} (hij : i ≤ j) (hj : j ≤ a.length) :
    (a ++ b).extract i j = a.extract i j := by
  rw [List.extract_eq_take_drop, List.extract_eq_take_drop, List.drop_append_of_le_length (hij.trans hj),
    List.take_append_of_le_length (by rw [List.length_drop]; omega)]

theorem endsDefinition_append_left {r t : Nat} (ht : t < a.length) :
    EndsDefinition (a ++ b) r t ↔ EndsDefinition a r t := by
  refine and_congr_right fun hr => ?_
  rw [List.getElem?_append_left ht, extract_append_left hr ht.le]

/-- What ends in the first part stands there alone. -/
theorem IsSpan.append_left (hend : a.getLast? = some newline) (h : IsSpan a span)
    (hnext : span.next ≤ a.length) : IsSpan (a ++ b) span := by
  have hp := h.opensAt.lt_length
  cases h with
  | @closed p e comment close =>
    have he : e < a.length := lt_of_lt_of_le (Nat.lt_add_of_pos_right Nat.two_pos) hnext
    refine .closed ((prefix_drop_append_iff (by decide) hend hp).mpr comment) ⟨⟨close.1.1, ?_⟩, ?_⟩
    · exact (prefix_drop_append_iff (by decide) hend he).mpr close.1.2
    · rintro e' ⟨hpe, he'⟩
      by_contra hlt
      have hlt' : e' < a.length := (Nat.lt_of_not_le hlt).trans he
      exact hlt (close.2 ⟨hpe, (prefix_drop_append_iff (by decide) hend hlt').mp he'⟩)
  | unclosed => exact absurd hnext (Nat.not_succ_le_self _)
  | @definition p r t opening stop =>
    have ht : t < a.length := hnext
    refine .definition ?_ (Or.inl ?_)
    · simpa only [matchesDefinition_append_left hend hp] using opening
    · rcases stop with stop | ⟨-, rfl⟩
      · refine ⟨(endsDefinition_append_left ht).mpr stop.1, fun t' ht' => ?_⟩
        by_contra hlt
        exact hlt (stop.2 ((endsDefinition_append_left ((Nat.lt_of_not_le hlt).trans ht)).mp ht'))
      · exact absurd ht (Nat.lt_irrefl _)

/-- **The spans of both parts are the spans of the whole.** -/
theorem Spans.append (hend : a.getLast? = some newline) {i : Nat} {spans others : List Span}
    (h : Spans a i spans) (hi : i ≤ a.length) (hall : ∀ span ∈ spans, span.next ≤ a.length)
    (hothers : Spans (a ++ b) a.length others) : Spans (a ++ b) i (spans ++ others) := by
  induction h with
  | done nothing =>
    refine hothers.pass hi fun p hp hlt => ?_
    rw [opensAt_append_left hend hlt]
    exact nothing p hp
  | more first here _ ih =>
    obtain ⟨hnext, hrest⟩ := List.forall_mem_cons.mp hall
    have hlt := first.1.2.lt_length
    refine .more ⟨⟨first.1.1, (opensAt_append_left hend hlt).mpr first.1.2⟩, ?_⟩
      (here.append_left hend hnext) (ih hnext hrest)
    rintro p ⟨hp, ho⟩
    by_contra hle
    exact hle (first.2 ⟨hp, (opensAt_append_left hend ((Nat.lt_of_not_le hle).trans hlt)).mp ho⟩)

theorem isKept_append_left (h : IsSpan a span) (hnext : span.next ≤ a.length) :
    span.isKept (a ++ b) = span.isKept a := by
  have hahead := (h.lookahead_le (Or.inr hnext)).trans hnext
  rcases span with ⟨_ | _, opener, body, stop, next⟩
  · rfl
  · have hbody : body + 2 ≤ a.length := hahead
    refine decide_eq_decide.mpr ?_
    simp only [KeepsAt, List.getElem?_append_left (show body < a.length by omega),
      List.getElem?_append_left (show body + 1 < a.length by omega)]

theorem IsSpan.body_le_stop (h : IsSpan a span) (hnext : span.next ≤ a.length) :
    span.body ≤ span.stop ∧ span.stop < span.next := by
  cases h with
  | closed comment close => exact ⟨close.1.1, Nat.lt_add_of_pos_right Nat.two_pos⟩
  | unclosed => exact absurd hnext (Nat.not_succ_le_self _)
  | definition opening stop => exact ⟨stop.le opening.1.bounds.2, Nat.lt_succ_self _⟩

theorem item_append_left (h : IsSpan a span) (hnext : span.next ≤ a.length) :
    span.item (a ++ b) = span.item a := by
  have hahead := (h.lookahead_le (Or.inr hnext)).trans hnext
  have htext : span.text (a ++ b) = span.text a := by
    have hstop := h.body_le_stop hnext
    rw [Span.text, Span.text, extract_append_left hstop.1 (hstop.2.le.trans hnext)]
  rw [Span.item, Span.item, htext, List.take_append_of_le_length hahead, List.take_append_of_le_length hnext]

/-- **The items of the whole are those of the first part, then those of the second, moved on.** -/
theorem items_append (hnul : 0 ∉ a) (hend : a.getLast? = some newline) {spans : List Span}
    (hspans : Spans a 0 spans) (hall : ∀ span ∈ spans, span.next ≤ a.length) (b : List UInt8) :
    items (a ++ b) = items a ++ (items b).map (Item.shift (newlines a)) := by
  obtain ⟨others, hothers, -⟩ :=
    exists_spans (b.takeWhile (· ≠ 0)) 1 _ 0 rfl (by simp [newlines])
  have hcut : (a ++ b).takeWhile (· ≠ 0) = a ++ b.takeWhile (· ≠ 0) := by
    rw [List.takeWhile_append_of_pos]
    intro c hc
    simpa using ne_of_mem_of_not_mem hc hnul
  have hwhole := hspans.append hend (Nat.zero_le _) hall hothers.append_right
  have hfirst : (spans.filter (·.isKept (a ++ b.takeWhile (· ≠ 0)))).map (·.item (a ++ b.takeWhile (· ≠ 0)))
      = (spans.filter (·.isKept a)).map (·.item a) := by
    rw [List.filter_congr fun span hspan => isKept_append_left (hspans.isSpan span hspan) (hall span hspan)]
    refine List.map_congr_left fun span hspan => ?_
    have hmem := (List.mem_filter.mp hspan).1
    exact item_append_left (hspans.isSpan span hmem) (hall span hmem)
  rw [items_eq_of_spans hcut hwhole, items_eq_of_spans (takeWhile_ne_zero hnul) hspans,
    items_eq_of_spans rfl hothers, List.filter_append, List.map_append, hfirst, List.filter_map,
    List.map_map, List.map_map]
  congr 1
  simp only [Function.comp_def, isKept_append_right, item_append_right]

/-! ## Texts -/

theorem eq_take_append_cons {l : List UInt8} {i : Nat} {c : UInt8} (h : l[i]? = some c) :
    l = l.take i ++ c :: l.drop (i + 1) := by
  obtain ⟨hi, rfl⟩ := List.getElem?_eq_some_iff.mp h
  rw [List.getElem_cons_drop, List.take_append_drop]

/-- What lies between two bytes that are characters is a text. -/
theorem exists_encode_extract {text : String} {i j : Nat} {c d : UInt8} (hc : c.toNat < 0x80)
    (hi : (encode text)[i]? = some c) (hd : d.toNat < 0x80) (hj : (encode text)[i + 1 + j]? = some d) :
    ∃ part, (encode text).extract (i + 1) (i + 1 + j) = encode part := by
  obtain ⟨-, after, -, hafter⟩ := exists_encode_of_append_cons hc (eq_take_append_cons hi)
  rw [← List.getElem?_drop, hafter] at hj
  obtain ⟨before, -, hbefore, -⟩ := exists_encode_of_append_cons hd (eq_take_append_cons hj)
  refine ⟨before, ?_⟩
  rw [List.extract_eq_take_drop, Nat.add_sub_cancel_left, hafter, hbefore]

theorem getElem?_of_prefix_drop {s w : List UInt8} {p k : Nat} (h : w <+: s.drop p) (hk : k < w.length) :
    s[p + k]? = w[k]? := by
  obtain ⟨rest, hrest⟩ := h
  rw [← List.getElem?_drop, ← hrest, List.getElem?_append_left hk]

theorem lt_of_mem_opensDefinition {w : List UInt8} (h : OpensDefinition w) : ∀ c ∈ w, c.toNat < 0x80 := by
  obtain ⟨before, after, hb, ha, rfl⟩ := h
  have hblank {c : UInt8} (hc : isSpaceOrTab c = true) : c.toNat < 0x80 := by
    simp only [isSpaceOrTab, Bool.or_eq_true, beq_iff_eq] at hc
    rcases hc with rfl | rfl <;> decide
  intro c hc
  simp only [List.cons_append, List.mem_cons, List.mem_append] at hc
  rcases hc with rfl | ⟨hc | hc⟩ | hc
  · decide
  · exact hblank (hb c hc)
  · have hword : defineWord.all (·.toNat < 0x80) = true := rfl
    exact of_decide_eq_true (List.all_eq_true.mp hword c hc)
  · exact hblank (ha c hc)

theorem encode_comment (part : String) :
    encode ("/*" ++ part ++ "*/") = [slash, star] ++ encode part ++ [star, slash] := by
  have hopen : encode "/*" = [slash, star] := by decide +kernel
  have hclose : encode "*/" = [star, slash] := by decide +kernel
  rw [encode_append, encode_append, hopen, hclose]

/-- What stands at a span has a text of its own, unless it is a comment that is never closed. -/
theorem IsSpan.exists_text {text : String} (h : IsSpan (encode text) span)
    (hend : span.kind = .comment → span.next ≤ (encode text).length) :
    ∃ part, span.text (encode text) = encode part := by
  cases h with
  | @closed p e comment close =>
    obtain ⟨k, rfl⟩ := Nat.exists_eq_add_of_le close.1.1
    obtain ⟨part, hpart⟩ := exists_encode_extract (by decide)
      (getElem?_of_prefix_drop comment (show 1 < 2 by decide)) (by decide)
      (getElem?_of_prefix_drop close.1.2 (show 0 < 2 by decide))
    exact ⟨"/*" ++ part ++ "*/", by rw [encode_comment, ← hpart]; rfl⟩
  | unclosed => exact absurd (hend rfl) (Nat.not_succ_le_self _)
  | @definition p r t opening stop =>
    obtain ⟨w, hw, hprefix, hr⟩ := opening.1
    have hpos := opening.1.bounds.1
    -- the last byte of the opening is a character
    obtain ⟨m, hm⟩ : ∃ m, w.length = m + 1 := Nat.exists_eq_add_one.mpr (by omega)
    obtain ⟨c, hc⟩ : ∃ c, w[m]? = some c := ⟨w[m], List.getElem?_eq_getElem (by omega)⟩
    obtain rfl : r = p + m + 1 := by omega
    have hchar := lt_of_mem_opensDefinition hw c (List.mem_of_getElem? hc)
    have hlast := (getElem?_of_prefix_drop hprefix (by omega)).trans hc
    obtain ⟨part, hpart⟩ : ∃ part, (encode text).extract (p + m + 1) t = encode part := by
      rcases stop with stop | ⟨-, rfl⟩
      · obtain ⟨k, rfl⟩ := Nat.exists_eq_add_of_le (stop.1.1.le)
        exact exists_encode_extract hchar hlast (by decide) stop.1.2.1
      · obtain ⟨-, part, -, hpart⟩ := exists_encode_of_append_cons hchar (eq_take_append_cons hlast)
        exact ⟨part, by rw [List.extract_eq_take_drop, ← List.length_drop, List.take_length, hpart]⟩
    have hopen : encode "#define " = 35 :: defineWord ++ [32] := by decide +kernel
    refine ⟨"#define " ++ part, ?_⟩
    rw [encode_append, ← hpart, hopen]
    rfl

theorem exists_mapM_eq_some {α β : Type} {f : α → Option β} {as : List α}
    (h : ∀ a ∈ as, ∃ b, f a = some b) : ∃ bs, as.mapM f = some bs := by
  induction as with
  | nil => exact ⟨[], rfl⟩
  | cons a rest ih =>
    obtain ⟨⟨b, hb⟩, hrest⟩ := List.forall_mem_cons.mp h
    obtain ⟨bs, hbs⟩ := ih hrest
    exact ⟨b :: bs, by rw [List.mapM_cons, hb, hbs]; rfl⟩

/-- The items of a text are found if they spell texts. -/
theorem exists_extract_of_forall_text {text : String} {s : List UInt8} (hs : (encode text).takeWhile (· ≠ 0) = s)
    {spans : List Span} (hspans : Spans s 0 spans)
    (htexts : ∀ span ∈ spans, span.isKept s = true → ∃ part, span.text s = encode part) :
    ∃ found, extract text = some found := by
  rw [extract, items_eq_of_spans hs hspans, List.mapM_map]
  refine exists_mapM_eq_some fun span hspan => ?_
  obtain ⟨hmem, hkept⟩ := List.mem_filter.mp hspan
  obtain ⟨part, hpart⟩ := htexts span hmem hkept
  exact ⟨_, Option.map_eq_some_iff.mpr ⟨part, decode?_eq_some_iff.mpr hpart, rfl⟩⟩

/-- The items of a text that ends outside every comment and definition spell texts. -/
theorem exists_extract {text : String} (hnul : 0 ∉ encode text) {spans : List Span}
    (hspans : Spans (encode text) 0 spans) (hall : ∀ span ∈ spans, span.next ≤ (encode text).length) :
    ∃ found, extract text = some found :=
  exists_extract_of_forall_text (takeWhile_ne_zero hnul) hspans fun span hmem _ =>
    (hspans.isSpan span hmem).exists_text fun _ => hall span hmem

theorem mapM_decode?_shift (n : Nat) (found : List (Item (List UInt8))) :
    (found.map (Item.shift n)).mapM Item.decode? = (found.mapM Item.decode?).map (·.map (Item.shift n)) := by
  induction found with
  | nil => rfl
  | cons item rest ih =>
    have hitem : (item.shift n).decode? = item.decode?.map (Item.shift n) := by
      rw [Item.decode?, Item.decode?, Option.map_map]
      rfl
    rw [List.map_cons, List.mapM_cons, List.mapM_cons, hitem, ih]
    cases item.decode? with
    | none => rfl
    | some first => cases rest.mapM Item.decode? <;> rfl

/-- **A text that ends with a newline, outside every comment and definition, is read apart from what follows.**
The items of the whole are its items and then those of what follows, whose lines are moved on; and they are found
exactly if those of what follows are. -/
theorem extract_append_text (a b : String) (hnul : 0 ∉ encode a) (hend : ∃ front, a = front ++ "\n")
    (hout : ∃ spans, Spans (encode a) 0 spans ∧ ∀ span ∈ spans, span.next ≤ (encode a).length) :
    ∃ found, extract a = some found ∧
      extract (a ++ b) = (extract b).map fun others =>
        found ++ others.map (Item.shift (newlines (encode a))) := by
  obtain ⟨spans, hspans, hall⟩ := hout
  obtain ⟨found, hfound⟩ := exists_extract hnul hspans hall
  have hlast : (encode a).getLast? = some newline := by
    obtain ⟨front, rfl⟩ := hend
    have hnewline : encode "\n" = [newline] := by decide +kernel
    rw [encode_append, hnewline, List.getLast?_concat]
  refine ⟨found, hfound, ?_⟩
  rw [extract] at hfound
  rw [extract, extract, encode_append, items_append hnul hlast hspans hall, List.mapM_append, hfound,
    mapM_decode?_shift]
  cases (items (encode b)).mapM Item.decode? <;> rfl

/-- A definition over two lines, and a comment on the line after it. -/
theorem extract_append_text_definition :
    0 ∉ encode "#define A \\\n b\n" ∧
      (∃ spans, Spans (encode "#define A \\\n b\n") 0 spans ∧
        ∀ span ∈ spans, span.next ≤ (encode "#define A \\\n b\n").length) ∧
      ∃ found, extract "#define A \\\n b\n" = some found ∧
        extract ("#define A \\\n b\n" ++ "/* c */") = (extract "/* c */").map fun others =>
          found ++ others.map (Item.shift (newlines (encode "#define A \\\n b\n"))) := by
  have hnul : 0 ∉ encode "#define A \\\n b\n" := by decide +kernel
  have hbytes : encode "#define A \\\n b\n"
      = 35 :: defineWord ++ [32, 65, 32, 92, 10, 32, 98, 10] := by decide +kernel
  have hout : ∃ spans, Spans (encode "#define A \\\n b\n") 0 spans ∧
      ∀ span ∈ spans, span.next ≤ (encode "#define A \\\n b\n").length := by
    rw [hbytes]
    obtain ⟨r, hr, hrest⟩ := exists_isGreatest_matchesDefinition List.drop_zero
      (rfl : directiveBody? (35 :: defineWord ++ [32, 65, 32, 92, 10, 32, 98, 10])
        = some [65, 32, 92, 10, 32, 98, 10])
    obtain ⟨t, hstop, hbody, -⟩ := definitionStops_of_drop hrest
    -- the opening ends before the body of seven bytes, of which the last one is the newline
    have hr8 : 15 - r = 7 := List.length_drop.symm.trans (congrArg List.length hrest)
    have ht14 : 6 = min (t - r) 7 := by
      rw [List.extract_eq_take_drop, hrest] at hbody
      exact (congrArg List.length hbody).trans List.length_take
    have his := IsSpan.definition hr hstop
    refine ⟨[_], .more (isLeast_opensAt his.opensAt) his (.done fun p hp => ?_), fun span hspan => ?_⟩
    · refine not_opensAt_of_drop_eq_nil (List.drop_eq_nil_of_le ?_) hp
      show 15 ≤ t + 1
      omega
    · obtain rfl := List.mem_singleton.mp hspan
      show t + 1 ≤ 15
      omega
  exact ⟨hnul, hout, extract_append_text _ _ hnul ⟨"#define A \\\n b", by decide +kernel⟩ hout⟩

end GirDoc.Extract
