import GirDoc.Proofs.Extract.Spelling

/-!
# Items that are read again

The text of an item is not a piece of its source: a definition gets an opening of its own, a comment gets its closing
mark back. Still a body that was cut off is cut off again at the same place, since nothing before its end has changed
(`commentBody_body_append`, `definitionBody_body`).

So reading an item again gives that item alone. The exception is a comment that is never closed and has two bytes
after its opening: with one of them lost it is no longer kept. The main statement is `extract_text_again`.
-/

namespace GirDoc.Extract

open Text.Utf8

/-! ## Bodies -/

theorem commentBody_body_prefix (bs : List UInt8) : (commentBody bs).body <+: bs :=
  ⟨(commentBody bs).closing ++ (commentBody bs).rest, by rw [← List.append_assoc, commentBody_append]⟩

/-- The body of a comment is cut off again at the closing mark that it gets. -/
theorem commentBody_body_append (bs : List UInt8) :
    commentBody ((commentBody bs).body ++ [star, slash]) = ⟨(commentBody bs).body, [star, slash], []⟩ := by
  fun_induction commentBody bs with
  | case1 => rfl
  | case2 => rfl
  | case3 => rfl
  | case4 b c rest h tail ih =>
    -- the byte after the first one is the same as before, or the star of the closing mark
    obtain ⟨d, more, hmore, hd⟩ : ∃ d more, tail.body ++ [star, slash] = d :: more ∧ (d = c ∨ d = star) := by
      cases hbody : tail.body with
      | nil => exact ⟨star, [slash], rfl, Or.inr rfl⟩
      | cons d more =>
        have hprefix : d :: more <+: c :: rest := hbody ▸ commentBody_body_prefix (c :: rest)
        exact ⟨d, more ++ [star, slash], rfl, Or.inl (List.cons_prefix_cons.mp hprefix).1⟩
    have hnot : ¬ (decide (b = star) && decide (d = slash)) = true := by
      rcases hd with rfl | rfl
      · exact h
      · simp [star, slash]
    rw [List.cons_append, hmore, commentBody, if_neg hnot, ← hmore, ih]

/-- A body that ends with its line ends there again. -/
theorem logicalLine_body (joined : Bool) (bs : List UInt8) :
    logicalLine joined (logicalLine joined bs).body = ⟨(logicalLine joined bs).body, [], []⟩ := by
  fun_induction logicalLine joined bs with
  | case1 => rfl
  | case2 => rfl
  | case3 joined b rest h joined' tail ih =>
    rw [logicalLine, if_neg h]
    simp only [joined', tail] at ih ⊢
    rw [ih]

theorem definitionBody_body (bs : List UInt8) :
    definitionBody (definitionBody bs).body = ⟨(definitionBody bs).body, [], []⟩ := by
  cases bs with
  | nil => rfl
  | cons b rest => rw [definitionBody, definitionBody, logicalLine_body]

/-- A comment that was kept is kept again if its body has two bytes. -/
theorem keepsComment_body_append {bs : List UInt8} (h : keepsComment bs = true) :
    keepsComment ((commentBody bs).body ++ [star, slash]) = decide (2 ≤ (commentBody bs).body.length) := by
  have hprefix := commentBody_body_prefix bs
  match hbody : (commentBody bs).body with
  | [] => rfl
  | [b] => simp [keepsComment]
  | b :: c :: more =>
    rw [hbody] at hprefix
    obtain ⟨rest, rfl⟩ := hprefix
    simpa [keepsComment] using h

/-- The body of a definition does not begin with a blank if what it was cut off from does not. -/
theorem dropWhile_definitionBody {bs : List UInt8} (h : bs.dropWhile isSpaceOrTab = bs) :
    (definitionBody bs).body.dropWhile isSpaceOrTab = (definitionBody bs).body := by
  cases bs with
  | nil => rfl
  | cons b rest =>
    have hb : ¬ isSpaceOrTab b = true := by
      intro hb
      rw [List.dropWhile_cons_of_pos hb] at h
      have hlen := length_dropWhile_le isSpaceOrTab rest
      rw [h, List.length_cons] at hlen
      omega
    rw [definitionBody, List.dropWhile_cons_of_neg hb]

theorem dropWhile_directiveBody? {bs rest : List UInt8} (h : directiveBody? bs = some rest) :
    rest.dropWhile isSpaceOrTab = rest := by
  obtain ⟨w, hw, rfl, -⟩ := directiveBody?_eq_some h
  rw [directiveBody?_append hw, Option.some.injEq] at h
  exact h

/-! ## Sources with one item -/

/-- A source that is one span has its item, if that is kept. -/
theorem items_eq_of_isSpan {s : List UInt8} {span : Span} (hnul : 0 ∉ s) (h : IsSpan s span)
    (hopener : span.opener = 0) (hrest : s.drop span.next = []) :
    items s = if span.isKept s then [span.item s] else [] := by
  have hspans : Spans s 0 [span] :=
    .more (hopener ▸ isLeast_opensAt h.opensAt) h (.done fun _ hp => not_opensAt_of_drop_eq_nil hrest hp)
  rw [items_eq_of_spans (takeWhile_ne_zero hnul) hspans, List.filter_singleton]
  cases span.isKept s <;> rfl

/-- **A comment made from a body that was cut off is found alone**, if it is kept. -/
theorem items_comment {bs body : List UInt8} (hbody : (commentBody bs).body = body) (hnul : 0 ∉ body) :
    ∃ item, item.pair = ([slash, star] ++ body ++ [star, slash], .comment) ∧
      items ([slash, star] ++ body ++ [star, slash]) =
        if keepsComment (body ++ [star, slash]) then [item] else [] := by
  have hcut : commentBody (body ++ [star, slash]) = ⟨body, [star, slash], []⟩ := by
    rw [← hbody, commentBody_body_append]
  have hnul' : 0 ∉ [slash, star] ++ body ++ [star, slash] := by
    simp [hnul, slash, star]
  have hdrop : ([slash, star] ++ body ++ [star, slash]).drop 0 = slash :: star :: (body ++ [star, slash]) := by
    simp
  obtain ⟨span, hspan, hopener, hkept, -, hitem, hrest⟩ := exists_commentSpan hdrop rfl
  rw [hcut] at hrest
  refine ⟨commentItem 1 (body ++ [star, slash]), ?_, ?_⟩
  · rw [Item.pair, commentItem_text 1 (by simp [hnul, slash, star]), hcut]
    rfl
  · rw [items_eq_of_isSpan hnul' hspan hopener hrest.symm, hkept, ← hitem hnul']
    rfl

/-- **A definition made from a body that was cut off is found alone.** -/
theorem items_definition {bs body : List UInt8} (hbody : (definitionBody bs).body = body)
    (hblank : body.dropWhile isSpaceOrTab = body) (hnul : 0 ∉ body) :
    ∃ item, item.pair = (35 :: defineWord ++ [32] ++ body, .definition) ∧
      items (35 :: defineWord ++ [32] ++ body) = [item] := by
  have hcut : definitionBody body = ⟨body, [], []⟩ := by
    rw [← hbody, definitionBody_body]
  have hnul' : 0 ∉ 35 :: defineWord ++ [32] ++ body := by
    simp [hnul, defineWord]
  have hopens : OpensDefinition (35 :: defineWord ++ [32]) := ⟨[], [32], by simp, by simp [isSpaceOrTab], rfl⟩
  have hdirective : directiveBody? (35 :: defineWord ++ [32] ++ body) = some body := by
    rw [directiveBody?_append hopens, hblank]
  obtain ⟨span, hspan, hopener, hkept, -, hitem, hrest⟩ := exists_definitionSpan List.drop_zero hdirective rfl
  rw [hcut] at hrest
  refine ⟨definitionItem 1 body, ?_, ?_⟩
  · rw [Item.pair, definitionItem_text 1 hnul, hcut]
    rfl
  · rw [items_eq_of_isSpan hnul' hspan hopener hrest.symm, hkept, ← hitem hnul']
    rfl

/-! ## Spans and their bodies -/

variable {s : List UInt8} {span : Span}

theorem zero_notMem_extract (hnul : 0 ∉ s) (i j : Nat) : 0 ∉ s.extract i j := by
  rw [List.extract_eq_take_drop]
  exact fun h => hnul (List.mem_of_mem_drop (List.mem_of_mem_take h))

/-- The body of a comment is what its reader cuts off. -/
theorem IsSpan.commentBody_eq (h : IsSpan s span) (hnul : 0 ∉ s) (hkind : span.kind = .comment) :
    (commentBody (s.drop span.body)).body = s.extract span.body span.stop ∧
      span.isKept s = keepsComment (s.drop span.body) := by
  have hopen : [slash, star] <+: s.drop span.opener ∧ span.body = span.opener + 2 := by
    cases h with
    | closed comment => exact ⟨comment, rfl⟩
    | unclosed comment => exact ⟨comment, rfl⟩
    | definition => cases hkind
  obtain ⟨⟨rest, hrest⟩, hbody⟩ := hopen
  obtain ⟨span', his, hopener, hkept, -, hitem, -⟩ := exists_commentSpan hrest.symm rfl
  obtain rfl := his.unique h hopener
  have hdrop : s.drop span'.body = rest := by
    rw [hbody, ← List.drop_drop, ← hrest]
    rfl
  have htext := (commentItem_text _ (zero_notMem_drop hnul hdrop)).symm.trans (congrArg Item.text (hitem hnul))
  simp only [Span.item, Span.text, hkind] at htext
  rw [hdrop]
  exact ⟨List.append_cancel_left (List.append_cancel_right htext), hkept⟩

/-- The body of a definition is what its reader cuts off after the blanks. -/
theorem IsSpan.exists_definitionBody_eq (h : IsSpan s span) (hnul : 0 ∉ s) (hkind : span.kind = .definition) :
    ∃ bs, (definitionBody bs).body = s.extract span.body span.stop ∧ bs.dropWhile isSpaceOrTab = bs := by
  obtain ⟨rest, hrest⟩ : ∃ rest, directiveBody? (s.drop span.opener) = some rest := by
    cases h with
    | closed => cases hkind
    | unclosed => cases hkind
    | definition opening =>
      obtain ⟨w, hw, ⟨rest, hrest⟩, -⟩ := opening.1
      exact ⟨_, hrest ▸ directiveBody?_append hw rest⟩
  obtain ⟨span', his, hopener, -, -, hitem, -⟩ := exists_definitionSpan rfl hrest rfl
  obtain rfl := his.unique h hopener
  obtain ⟨w, -, hdrop, -⟩ := directiveBody?_eq_some hrest
  have hnul' : 0 ∉ rest := fun hmem => zero_notMem_drop hnul hdrop (List.mem_append_right w hmem)
  have htext := (definitionItem_text _ hnul').symm.trans (congrArg Item.text (hitem hnul))
  simp only [Span.item, Span.text, hkind] at htext
  exact ⟨rest, List.append_cancel_left htext, dropWhile_directiveBody? hrest⟩

/-- The body of a comment that is kept has at least two bytes, unless the comment is never closed and has only two. -/
theorem IsSpan.two_le_iff (h : IsSpan s span) (hkind : span.kind = .comment) (hkept : span.isKept s = true) :
    2 ≤ (s.extract span.body span.stop).length ↔ span.IsClosed s ∨ span.body + 2 < s.length := by
  rw [List.extract_eq_take_drop, List.length_take, List.length_drop]
  cases h with
  | @closed p e comment close =>
    have hkeeps : KeepsAt s (p + 2) := by simpa [Span.isKept] using hkept
    -- the closing mark is not among the two bytes that are looked at
    have hfirst : e ≠ p + 2 := by
      rintro rfl
      exact hkeeps.2.2.2 (getElem?_of_prefix_drop close.1.2 (show 1 < 2 by decide))
    have hsecond : e ≠ p + 2 + 1 := by
      rintro rfl
      exact hkeeps.2.2.1 (getElem?_of_prefix_drop close.1.2 (show 0 < 2 by decide))
    have hlen := close.1.2.length_le
    simp only [List.length_drop, List.length_cons, List.length_nil] at hlen
    have hle := close.1.1
    refine ⟨fun _ => Or.inl ⟨e, close.1⟩, fun _ => ?_⟩
    show 2 ≤ min (e - (p + 2)) (s.length - (p + 2))
    omega
  | @unclosed p comment noClose =>
    have hopen : ¬ Span.IsClosed s ⟨.comment, p, p + 2, s.length - 1, s.length + 1⟩ := by
      rintro ⟨e, he, hclose⟩
      exact noClose e he hclose
    rw [or_iff_right hopen]
    show 2 ≤ min (s.length - 1 - (p + 2)) (s.length - (p + 2)) ↔ p + 2 + 2 < s.length
    omega
  | definition => cases hkind

/-! ## Reading again -/

/-- Reading the text of an item gives one item, with the same text and of the same kind. -/
def Item.IsReadAgain (item : Item String) : Prop :=
  ∃ again, extract item.text = some [again] ∧ again.text = item.text ∧ again.kind = item.kind

theorem isReadAgain_iff {item : Item String} :
    item.IsReadAgain ↔ ∃ again, items (encode item.text) = [again] ∧ again.pair = (encode item.text, item.kind) := by
  constructor
  · rintro ⟨again, hagain, htext, hkind⟩
    refine ⟨again.encode, extract_eq_some_iff.mp hagain, ?_⟩
    rw [← htext, ← hkind]
    rfl
  · rintro ⟨⟨text, firstLine, lastLine, kind⟩, hagain, hpair⟩
    rw [Item.pair, Prod.mk.injEq] at hpair
    obtain ⟨rfl, rfl⟩ := hpair
    exact ⟨{ item with firstLine, lastLine }, extract_eq_some_iff.mpr hagain, rfl, rfl⟩

/-- A definition is found again. -/
theorem IsSpan.isReadAgain_of_definition {item : Item String} (h : IsSpan s span) (hnul : 0 ∉ s)
    (hitem : span.item s = item.encode) (hkind : span.kind = .definition) : item.IsReadAgain := by
  obtain ⟨bs, hbody, hblank⟩ := h.exists_definitionBody_eq hnul hkind
  have hbodyBlank := dropWhile_definitionBody hblank
  rw [hbody] at hbodyBlank
  obtain ⟨again, hpair, hitems⟩ := items_definition hbody hbodyBlank (zero_notMem_extract hnul _ _)
  have htext : encode item.text = 35 :: defineWord ++ [32] ++ s.extract span.body span.stop := by
    have htext := congrArg Item.text hitem
    simp only [Span.item, Span.text, hkind] at htext
    exact htext.symm
  have hkind' : item.kind = .definition := (congrArg Item.kind hitem).symm.trans hkind
  rw [isReadAgain_iff, htext, hkind']
  exact ⟨again, hitems, hpair⟩

/-- A comment is found again exactly if it is closed or has more than two bytes. -/
theorem IsSpan.isReadAgain_iff_of_comment {item : Item String} (h : IsSpan s span) (hnul : 0 ∉ s)
    (hitem : span.item s = item.encode) (hkind : span.kind = .comment) (hkept : span.isKept s = true) :
    item.IsReadAgain ↔ span.IsClosed s ∨ span.body + 2 < s.length := by
  obtain ⟨hbody, hkeeps⟩ := h.commentBody_eq hnul hkind
  rw [hkept] at hkeeps
  have hagain := keepsComment_body_append hkeeps.symm
  rw [hbody] at hagain
  obtain ⟨again, hpair, hitems⟩ := items_comment hbody (zero_notMem_extract hnul _ _)
  rw [hagain] at hitems
  have htext : encode item.text = [slash, star] ++ s.extract span.body span.stop ++ [star, slash] := by
    have htext := congrArg Item.text hitem
    simp only [Span.item, Span.text, hkind] at htext
    exact htext.symm
  have hkind' : item.kind = .comment := (congrArg Item.kind hitem).symm.trans hkind
  rw [← h.two_le_iff hkind hkept, isReadAgain_iff, htext, hkind', hitems]
  constructor
  · rintro ⟨again', hone, -⟩
    by_contra hshort
    rw [if_neg (by simpa using hshort)] at hone
    cases hone
  · intro hlong
    exact ⟨again, if_pos (by simpa using hlong), hpair⟩

/-- **Every definition and every comment that is closed is found again when its text is read.** A comment that is never
closed is found again exactly if more than two bytes stand after its opening. -/
theorem extract_text_again (text : String) {found : List (Item String)} (hfound : extract text = some found) :
    ∃ spans, Spans (encode (beforeNul text)) 0 spans ∧
      List.Forall₂ (fun span item =>
        span.item (encode (beforeNul text)) = item.encode ∧
        (span.kind = .definition ∨ span.IsClosed (encode (beforeNul text)) → item.IsReadAgain) ∧
        (span.kind = .comment → ¬ span.IsClosed (encode (beforeNul text)) →
          (item.IsReadAgain ↔ span.body + 2 < (encode (beforeNul text)).length)))
        (spans.filter (·.isKept (encode (beforeNul text)))) found := by
  have hs := (encode_beforeNul text).symm
  have hnul : 0 ∉ encode (beforeNul text) := by
    rw [encode_beforeNul]
    exact fun h => by simpa using List.mem_takeWhile_imp h
  obtain ⟨spans, hspans, -⟩ := exists_spans (encode (beforeNul text)) 1 _ 0 rfl (by simp [newlines])
  refine ⟨spans, hspans, ?_⟩
  rw [extract_eq_some_iff, items_eq_of_spans hs hspans, ← List.forall₂_eq_eq_eq, List.forall₂_map_left_iff,
    List.forall₂_map_right_iff] at hfound
  refine ((List.forall₂_and_left _ _).mpr ⟨fun _ hspan => hspan, hfound⟩).imp ?_
  rintro span item ⟨hspan, hitem⟩
  obtain ⟨hmem, hkept⟩ := List.mem_filter.mp hspan
  have his := hspans.isSpan span hmem
  refine ⟨hitem, ?_, ?_⟩
  · intro hends
    cases hkind : span.kind with
    | definition => exact his.isReadAgain_of_definition hnul hitem hkind
    | comment =>
      rw [his.isReadAgain_iff_of_comment hnul hitem hkind hkept]
      exact Or.inl (hends.resolve_left (by rw [hkind]; decide))
  · intro hkind hopen
    rw [his.isReadAgain_iff_of_comment hnul hitem hkind hkept, or_iff_right hopen]

/-- A definition over two lines and a comment are found again; a comment of two bytes that is never closed is not. -/
theorem extract_text_again_mixed :
    ∃ found, extract "#define\tA \\\n b\n/* c */ /*de" = some found ∧
      found.map Item.text = ["#define A \\\n b", "/* c */", "/*d*/"] ∧
      (∃ spans, Spans (encode (beforeNul "#define\tA \\\n b\n/* c */ /*de")) 0 spans ∧
        List.Forall₂ (fun span item => span.kind = .definition ∨
            span.IsClosed (encode (beforeNul "#define\tA \\\n b\n/* c */ /*de")) → item.IsReadAgain)
          (spans.filter (·.isKept (encode (beforeNul "#define\tA \\\n b\n/* c */ /*de")))) found) ∧
      (extract "/*d*/").map (·.map Item.text) = some [] := by
  have hextract : (extract "#define\tA \\\n b\n/* c */ /*de").map (·.map Item.text) =
      some ["#define A \\\n b", "/* c */", "/*d*/"] := by decide +kernel
  obtain ⟨found, hfound, htexts⟩ := Option.map_eq_some_iff.mp hextract
  obtain ⟨spans, hspans, hagain⟩ := extract_text_again _ hfound
  exact ⟨found, hfound, htexts, ⟨spans, hspans, hagain.imp fun _ _ h => h.2.1⟩, by decide +kernel⟩

end GirDoc.Extract
