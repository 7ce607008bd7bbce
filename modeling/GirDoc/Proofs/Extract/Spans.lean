import GirDoc.Proofs.Extract.Decomposition

/-!
# Where the items of a source stand

A span says where a comment or a definition opens, where its body lies and where reading goes on after it.
`Spans s i spans` says, in terms of positions in `s` only, which spans there are from position `i` on,
those of comments that are not kept among them.

* Every source has exactly one list of spans (`exists_spans`, `Spans.unique`).
* The items of a source are those of its spans that are kept (`items_eq_of_spans`). The item of a span has
  its lines from counting newlines: up to the bytes that are looked at after the opening for its first line,
  up to where reading goes on for its last line.

What is read while the lines are counted is carried through the induction as `line = 1 + newlines (s.take i)`.
-/

namespace GirDoc.Extract

/-! ## Spans -/

/-- Where a comment or a definition stands in a source. -/
structure Span where
  kind : Kind
  /-- Where it opens. -/
  opener : Nat
  /-- The first position after its opening. -/
  body : Nat
  /-- The first position after its body. -/
  stop : Nat
  /-- Where reading goes on: past the end of the source if the end was met inside. -/
  next : Nat

/-- Something stands at a span. -/
inductive IsSpan (s : List UInt8) : Span → Prop where
  /-- A comment opens at `p` and its closing mark stands at `e`. -/
  | closed {p e : Nat} (comment : [slash, star] <+: s.drop p)
      (close : IsLeast {e | p + 2 ≤ e ∧ [star, slash] <+: s.drop e} e) :
      IsSpan s ⟨.comment, p, p + 2, e, e + 2⟩
  /-- A comment opens at `p` and is never closed. -/
  | unclosed {p : Nat} (comment : [slash, star] <+: s.drop p)
      (noClose : ∀ e, p + 2 ≤ e → ¬ [star, slash] <+: s.drop e) :
      IsSpan s ⟨.comment, p, p + 2, s.length - 1, s.length + 1⟩
  /-- A definition opens at `p`, its opening ends before `r`, its body before `t`. -/
  | definition {p r t : Nat} (opening : IsGreatest {r | MatchesDefinition s p r} r)
      (stop : DefinitionStops s r t) : IsSpan s ⟨.definition, p, r, t, t + 1⟩

/-- The spans of a source from position `i` on. -/
inductive Spans (s : List UInt8) : Nat → List Span → Prop where
  /-- Nothing opens any more. -/
  | done {i : Nat} (nothing : ∀ p, i ≤ p → ¬ OpensAt s p) : Spans s i []
  /-- A span begins at the first position where something opens. -/
  | more {i : Nat} {span : Span} {spans : List Span}
      (first : IsLeast {p | i ≤ p ∧ OpensAt s p} span.opener) (here : IsSpan s span)
      (others : Spans s span.next spans) : Spans s i (span :: spans)

namespace Span

/-- Whether what stands at a span is an item. -/
def isKept (s : List UInt8) (span : Span) : Bool :=
  match span.kind with
  | .comment => decide (KeepsAt s span.body)
  | .definition => true

/-- The text of the item at a span. -/
def text (s : List UInt8) (span : Span) : List UInt8 :=
  match span.kind with
  | .comment => [slash, star] ++ s.extract span.body span.stop ++ [star, slash]
  | .definition => 35 :: defineWord ++ [32] ++ s.extract span.body span.stop

/-- How many bytes after the opening are looked at before the first line is noted. -/
def lookahead (span : Span) : Nat :=
  match span.kind with
  | .comment => 2
  | .definition => 1

/-- The item at a span. -/
def item (s : List UInt8) (span : Span) : Item (List UInt8) where
  text := span.text s
  firstLine := newlines (s.take (span.body + span.lookahead))
  lastLine := 1 + newlines (s.take span.next)
  kind := span.kind

end Span

/-! ## One list of spans at most -/

theorem IsSpan.unique {s : List UInt8} {x y : Span} (hx : IsSpan s x) (hy : IsSpan s y)
    (h : x.opener = y.opener) : x = y := by
  cases hx with
  | closed comment close =>
    cases hy with
    | closed _ close' =>
      obtain rfl := h
      rw [close.unique close']
    | unclosed _ noClose =>
      obtain rfl := h
      exact absurd close.1.2 (noClose _ close.1.1)
    | definition opening =>
      obtain rfl := h
      exact absurd opening.1 (not_matchesDefinition_of_comment comment)
  | unclosed comment noClose =>
    cases hy with
    | closed _ close =>
      obtain rfl := h
      exact absurd close.1.2 (noClose _ close.1.1)
    | unclosed =>
      obtain rfl := h
      rfl
    | definition opening =>
      obtain rfl := h
      exact absurd opening.1 (not_matchesDefinition_of_comment comment)
  | definition opening stop =>
    cases hy with
    | closed comment =>
      obtain rfl := h
      exact absurd opening.1 (not_matchesDefinition_of_comment comment)
    | unclosed comment =>
      obtain rfl := h
      exact absurd opening.1 (not_matchesDefinition_of_comment comment)
    | definition opening' stop' =>
      obtain rfl := h
      obtain rfl := opening.unique opening'
      rw [stop.unique stop']

/-- **A source has one list of spans at most.** -/
theorem Spans.unique {s : List UInt8} {i : Nat} {xs ys : List Span} (hx : Spans s i xs)
    (hy : Spans s i ys) : xs = ys := by
  induction hx generalizing ys with
  | done nothing =>
    cases hy with
    | done => rfl
    | more first => exact absurd first.1.2 (nothing _ first.1.1)
  | more first here _ ih =>
    cases hy with
    | done nothing => exact absurd first.1.2 (nothing _ first.1.1)
    | more first' here' others' =>
      obtain rfl := here.unique here' (first.unique first')
      rw [ih others']

/-- A span begins where something opens. -/
theorem IsSpan.opensAt {s : List UInt8} {span : Span} (h : IsSpan s span) : OpensAt s span.opener := by
  cases h with
  | closed comment => exact Or.inl comment
  | unclosed comment => exact Or.inl comment
  | definition opening => exact Or.inr ⟨_, opening.1⟩

/-- Positions where nothing opens are passed over. -/
theorem Spans.pass {s : List UInt8} {i j : Nat} {spans : List Span} (hij : i ≤ j)
    (hpass : ∀ p, i ≤ p → p < j → ¬ OpensAt s p) (h : Spans s j spans) : Spans s i spans := by
  have hfrom {p : Nat} (hp : i ≤ p) (ho : OpensAt s p) : j ≤ p :=
    Nat.le_of_not_lt fun hlt => hpass p hp hlt ho
  cases h with
  | done nothing => exact .done fun p hp ho => nothing p (hfrom hp ho) ho
  | more first here others =>
    refine .more ⟨⟨hij.trans first.1.1, first.1.2⟩, ?_⟩ here others
    rintro p ⟨hp, ho⟩
    exact first.2 ⟨hfrom hp ho, ho⟩

/-! ## Counting newlines -/

theorem newlines_append (a b : List UInt8) : newlines (a ++ b) = newlines a + newlines b :=
  List.count_append

theorem newlines_take_add (s : List UInt8) (i k : Nat) :
    newlines (s.take (i + k)) = newlines (s.take i) + newlines ((s.drop i).take k) := by
  rw [List.take_add, newlines_append]

/-- What is cut off from position `q` on ends where the rest begins. -/
theorem newlines_take_cut {s bs : List UInt8} {q n : Nat} {cut : Cut} (hs : s.drop q = bs)
    (hcut : cut.body ++ cut.closing ++ cut.rest = bs) (hrest : cut.rest = s.drop n) :
    newlines (s.take q) + newlines cut.body + newlines cut.closing = newlines (s.take n) := by
  have hq : newlines (s.take q) + newlines (s.drop q) = newlines s := by
    rw [← newlines_append, List.take_append_drop]
  have hn : newlines (s.take n) + newlines (s.drop n) = newlines s := by
    rw [← newlines_append, List.take_append_drop]
  have hbs : newlines (s.drop q) = newlines cut.body + newlines cut.closing + newlines (s.drop n) := by
    rw [hs, ← hcut, newlines_append, newlines_append, hrest]
  omega

theorem newlines_opensDefinition {w : List UInt8} (h : OpensDefinition w) : newlines w = 0 := by
  obtain ⟨before, after, hb, ha, rfl⟩ := h
  have hblank {l : List UInt8} (hl : ∀ b ∈ l, isSpaceOrTab b = true) : newline ∉ l :=
    fun hmem => absurd (hl newline hmem) (by decide)
  refine List.count_eq_zero.mpr fun hmem => ?_
  simp only [List.cons_append, List.mem_cons, List.mem_append] at hmem
  rcases hmem with h | ⟨h | h⟩ | h
  · exact absurd h (by decide)
  · exact hblank hb h
  · exact absurd h (by decide)
  · exact hblank ha h

/-- No newline stands in an opening. -/
theorem IsSpan.newlines_body {s : List UInt8} {span : Span} (h : IsSpan s span) :
    newlines (s.take span.body) = newlines (s.take span.opener) := by
  have hword {p : Nat} {w : List UInt8} (hw : w <+: s.drop p) (hnone : newlines w = 0) :
      newlines (s.take (p + w.length)) = newlines (s.take p) := by
    rw [newlines_take_add, ← List.prefix_iff_eq_take.mp hw, hnone, Nat.add_zero]
  cases h with
  | closed comment => exact hword comment (by decide)
  | unclosed comment => exact hword comment (by decide)
  | definition opening =>
    obtain ⟨w, hw, hprefix, hr⟩ := opening.1
    rw [hr]
    exact hword hprefix (newlines_opensDefinition hw)

/-! ## Every source has spans -/

/-- A comment at the front of what is left is at a span, and its item is that of the span if there is no NUL. -/
theorem exists_commentSpan {s rest : List UInt8} {i line : Nat} (hs : s.drop i = slash :: star :: rest)
    (hline : line = 1 + newlines (s.take i)) :
    ∃ span, IsSpan s span ∧ span.opener = i ∧ span.isKept s = keepsComment rest ∧
      (commentItem line rest).lastLine = (span.item s).lastLine ∧ (0 ∉ s → commentItem line rest = span.item s) ∧
      (commentBody rest).rest = s.drop span.next := by
  have hcomment : [slash, star] <+: s.drop i := hs ▸ ⟨rest, rfl⟩
  have hrest : s.drop (i + 2) = rest := by
    rw [← List.drop_drop, hs]; rfl
  -- the span of a comment with a given end, and what is asked of that end
  have hspan {stop next : Nat} (his : IsSpan s ⟨.comment, i, i + 2, stop, next⟩)
      (hbody : (commentBody rest).body = s.extract (i + 2) stop)
      (htail : (commentBody rest).rest = s.drop next) :
      ∃ span, IsSpan s span ∧ span.opener = i ∧ span.isKept s = keepsComment rest ∧
        (commentItem line rest).lastLine = (span.item s).lastLine ∧
        (0 ∉ s → commentItem line rest = span.item s) ∧ (commentBody rest).rest = s.drop span.next := by
    have hopening : newlines (s.take (i + 2)) = newlines (s.take i) := his.newlines_body
    have hfirst : newlines (s.take (i + 2 + 2)) = line + newlines (rest.take 2) - 1 := by
      rw [newlines_take_add, hrest]
      omega
    have hlast : (commentItem line rest).lastLine = 1 + newlines (s.take next) := by
      have hcut := newlines_take_cut hrest (commentBody_append rest) htail
      rw [← hopening] at hline
      simp only [commentItem]
      omega
    refine ⟨_, his, rfl, ?_, hlast, fun hnul => ?_, htail⟩
    · exact Bool.eq_iff_iff.mpr (decide_eq_true_iff.trans (keepsAt_iff hrest))
    · refine Item.ext ?_ hfirst.symm hlast rfl
      rw [commentItem_text line (zero_notMem_drop hnul hrest), hbody]
      rfl
  rcases commentBody_cases rest with ⟨e, he, hbody, htail⟩ | ⟨hnone, hbody, htail⟩
  · have hclose : IsLeast {e | i + 2 ≤ e ∧ [star, slash] <+: s.drop e} (i + 2 + e) := by
      refine isLeast_add ?_
      simpa only [← hrest, List.drop_drop] using he
    refine hspan (.closed hcomment hclose) ?_ ?_
    · rw [hbody]; simp [hrest]
    · rw [htail, ← hrest, List.drop_drop, Nat.add_assoc (i + 2)]
  · refine hspan (.unclosed hcomment fun e he h => ?_) ?_ ?_
    · obtain ⟨k, rfl⟩ := Nat.exists_eq_add_of_le he
      exact hnone k (by rw [← hrest, List.drop_drop]; exact h)
    · rw [hbody, List.extract_eq_take_drop, hrest, ← hrest, List.length_drop]
      congr 1
      omega
    · rw [htail, List.drop_eq_nil_of_le (Nat.le_succ _)]

/-- Where the opening of a definition at the front of what is left ends. -/
theorem exists_isGreatest_matchesDefinition {s bs rest : List UInt8} {i : Nat} (hs : s.drop i = bs)
    (hd : directiveBody? bs = some rest) :
    ∃ r, IsGreatest {r | MatchesDefinition s i r} r ∧ s.drop r = rest := by
  obtain ⟨w, hw, hbs, hlongest⟩ := directiveBody?_eq_some hd
  refine ⟨i + w.length, ⟨⟨w, hw, ⟨rest, by rw [hs, hbs]⟩, rfl⟩, ?_⟩, ?_⟩
  · rintro r ⟨w', hw', hp, rfl⟩
    exact Nat.add_le_add_left (hlongest w' hw' (hs ▸ hp)) i
  · rw [← List.drop_drop, hs, hbs, List.drop_left]

/-- A definition at the front of what is left is at a span, and its item is that of the span if there is no NUL. -/
theorem exists_definitionSpan {s bs rest : List UInt8} {i line : Nat} (hs : s.drop i = bs)
    (hd : directiveBody? bs = some rest) (hline : line = 1 + newlines (s.take i)) :
    ∃ span, IsSpan s span ∧ span.opener = i ∧ span.isKept s = true ∧
      (definitionItem line rest).lastLine = (span.item s).lastLine ∧
      (0 ∉ s → definitionItem line rest = span.item s) ∧ (definitionBody rest).rest = s.drop span.next := by
  obtain ⟨r, hgreatest, hrest⟩ := exists_isGreatest_matchesDefinition hs hd
  obtain ⟨t, hstop, hbody, htail⟩ := definitionStops_of_drop hrest
  have his : IsSpan s ⟨.definition, i, r, t, t + 1⟩ := .definition hgreatest hstop
  have hopening : newlines (s.take r) = newlines (s.take i) := his.newlines_body
  have hfirst : newlines (s.take (r + 1)) = line + newlines (rest.take 1) - 1 := by
    rw [newlines_take_add, hrest]
    omega
  have hlast : (definitionItem line rest).lastLine = 1 + newlines (s.take (t + 1)) := by
    have hcut := newlines_take_cut hrest (definitionBody_append rest) htail
    rw [← hopening] at hline
    simp only [definitionItem]
    omega
  refine ⟨_, his, rfl, rfl, hlast, fun hnul => Item.ext ?_ hfirst.symm hlast rfl, htail⟩
  rw [definitionItem_text line (zero_notMem_drop hnul hrest), hbody]
  rfl

/-- **What is read from position `i` on are the items of the spans from there on**, if there is no NUL. -/
theorem exists_spans (s : List UInt8) (line : Nat) (bs : List UInt8) :
    ∀ i, s.drop i = bs → line = 1 + newlines (s.take i) → ∃ spans, Spans s i spans ∧
      (0 ∉ s → itemsFrom line bs = (spans.filter (·.isKept s)).map (·.item s)) := by
  fun_induction itemsFrom line bs with
  | case1 =>
    intro i hs _
    exact ⟨[], .done fun p hp => not_opensAt_of_drop_eq_nil hs hp, fun _ => rfl⟩
  | case2 line b tail rest hlt ho item others hkeep ih =>
    intro i hs hline
    obtain ⟨span, hspan, rfl, hkept, hlast, hitem, htail⟩ :=
      exists_commentSpan (hs.trans (eq_of_opening_comment ho)) hline
    obtain ⟨spans, hspans, hitems⟩ := ih span.next htail.symm hlast
    refine ⟨span :: spans, .more (isLeast_opensAt hspan.opensAt) hspan hspans, fun hnul => ?_⟩
    rw [List.filter_cons, hkept, if_pos hkeep, List.map_cons, ← hitem hnul, ← hitems hnul]
  | case3 line b tail rest hlt ho item others hkeep ih =>
    intro i hs hline
    obtain ⟨span, hspan, rfl, hkept, hlast, hitem, htail⟩ :=
      exists_commentSpan (hs.trans (eq_of_opening_comment ho)) hline
    obtain ⟨spans, hspans, hitems⟩ := ih span.next htail.symm hlast
    refine ⟨span :: spans, .more (isLeast_opensAt hspan.opensAt) hspan hspans, fun hnul => ?_⟩
    rw [List.filter_cons, hkept, if_neg hkeep, ← hitems hnul]
  | case4 line b tail rest hlt ho item ih =>
    intro i hs hline
    obtain ⟨span, hspan, rfl, hkept, hlast, hitem, htail⟩ :=
      exists_definitionSpan hs (directiveBody?_of_opening ho) hline
    obtain ⟨spans, hspans, hitems⟩ := ih span.next htail.symm hlast
    refine ⟨span :: spans, .more (isLeast_opensAt hspan.opensAt) hspan hspans, fun hnul => ?_⟩
    rw [List.filter_cons, hkept, if_pos rfl, List.map_cons, ← hitem hnul, ← hitems hnul]
  | case5 line b tail ho ih =>
    intro i hs hline
    have htail : s.drop (i + 1) = tail := by
      rw [← List.drop_drop, hs]; rfl
    have hnext : newlines (s.take (i + 1)) = newlines (s.take i) + newlines [b] := by
      rw [newlines_take_add, hs]; rfl
    obtain ⟨spans, hspans, hitems⟩ := ih (i + 1) htail (by
      rw [hnext, hline, newlines, newlines, List.count_singleton]
      simp only [beq_iff_eq]
      split <;> omega)
    refine ⟨spans, hspans.pass (Nat.le_succ i) fun p hp hlt => ?_, hitems⟩
    obtain rfl : p = i := by omega
    exact not_opensAt_of_opening_none hs ho

/-- **The items of a source are those of the spans before its first NUL.** -/
theorem items_eq_of_spans {source s : List UInt8} (hs : source.takeWhile (· ≠ 0) = s) {spans : List Span}
    (hspans : Spans s 0 spans) : items source = (spans.filter (·.isKept s)).map (·.item s) := by
  obtain ⟨spans', hspans', hitems⟩ := exists_spans s 1 s 0 rfl (by simp [newlines])
  have hnul : 0 ∉ s := hs ▸ zero_notMem_of_suffix (List.suffix_refl (source.takeWhile (· ≠ 0)))
  rw [items, hs, hitems hnul, hspans.unique hspans']

/-- A source without NUL is read to its end. -/
theorem takeWhile_ne_zero {s : List UInt8} (h : 0 ∉ s) : s.takeWhile (· ≠ 0) = s := by
  rw [List.takeWhile_eq_self_iff]
  intro b hb
  simpa using ne_of_mem_of_not_mem hb h

end GirDoc.Extract
