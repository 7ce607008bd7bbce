import GirDoc.Proofs.Extract.Cuts
import GirDoc.Proofs.Text.Utf8

/-!
# The items of a source as a decomposition of its bytes

`Decomposes s i out` says, in terms of positions in `s` only, which items a source holds from position `i`
on: the first position where something opens, the first closing mark after it, the longest word that opens
a definition, the first newline that ends one. Main statement: `items` gives exactly the items of that
decomposition, in its order, and there is no other decomposition.

The relation looks at the whole source, the readers at what is left of it. Every lemma here that joins the
two has a hypothesis `s.drop i = bs`.
-/

namespace GirDoc.Extract

/-! ## Positions -/

/-- A word that opens a definition stands at `p` and ends before `r`. -/
def MatchesDefinition (s : List UInt8) (p r : Nat) : Prop :=
  ∃ w, OpensDefinition w ∧ w <+: s.drop p ∧ r = p + w.length

/-- A comment or a definition opens at `p`. -/
def OpensAt (s : List UInt8) (p : Nat) : Prop :=
  [slash, star] <+: s.drop p ∨ ∃ r, MatchesDefinition s p r

/-- A comment whose first byte after its opening is at `q` is kept. -/
def KeepsAt (s : List UInt8) (q : Nat) : Prop :=
  s[q + 1]?.isSome ∧ s[q]? ≠ some slash ∧ s[q + 1]? ≠ some star ∧ s[q + 1]? ≠ some slash

instance (s : List UInt8) (q : Nat) : Decidable (KeepsAt s q) :=
  inferInstanceAs (Decidable (_ ∧ _ ∧ _ ∧ _))

/-- The newline at `t` ends the definition whose body starts at `r`: the run of backslashes and blanks
right before it, the first byte of the body apart, holds an even number of backslashes. -/
def EndsDefinition (s : List UInt8) (r t : Nat) : Prop :=
  r < t ∧ s[t]? = some newline ∧
    Even (((s.extract (r + 1) t).rtakeWhile carriesJoin).count backslash)

/-- The definition whose body starts at `r` goes on to `t`, the end of the source if no newline ends it. -/
def DefinitionStops (s : List UInt8) (r t : Nat) : Prop :=
  IsLeast {t | EndsDefinition s r t} t ∨ (∀ k, ¬ EndsDefinition s r k) ∧ t = s.length

/-- What a comment with the given body, which starts at `q`, adds to the items. -/
def commentPairs (s : List UInt8) (q : Nat) (body : List UInt8) : List (List UInt8 × Kind) :=
  if KeepsAt s q then [([slash, star] ++ body ++ [star, slash], .comment)] else []

/-- The items of a source from position `i` on, as pairs of a text and a kind. -/
inductive Decomposes (s : List UInt8) : Nat → List (List UInt8 × Kind) → Prop where
  /-- Nothing opens any more. -/
  | done {i : Nat} (nothing : ∀ p, i ≤ p → ¬ OpensAt s p) : Decomposes s i []
  /-- A comment opens at `p` and its closing mark stands at `e`. -/
  | closed {i p e : Nat} {out : List (List UInt8 × Kind)}
      (first : IsLeast {p | i ≤ p ∧ OpensAt s p} p) (comment : [slash, star] <+: s.drop p)
      (close : IsLeast {e | p + 2 ≤ e ∧ [star, slash] <+: s.drop e} e)
      (others : Decomposes s (e + 2) out) :
      Decomposes s i (commentPairs s (p + 2) (s.extract (p + 2) e) ++ out)
  /-- A comment opens at `p` and is never closed. -/
  | unclosed {i p : Nat}
      (first : IsLeast {p | i ≤ p ∧ OpensAt s p} p) (comment : [slash, star] <+: s.drop p)
      (noClose : ∀ e, p + 2 ≤ e → ¬ [star, slash] <+: s.drop e) :
      Decomposes s i (commentPairs s (p + 2) (s.extract (p + 2) (s.length - 1)))
  /-- A definition opens at `p`, its opening ends before `r`, its body before `t`. -/
  | definition {i p r t : Nat} {out : List (List UInt8 × Kind)}
      (first : IsLeast {p | i ≤ p ∧ OpensAt s p} p)
      (opening : IsGreatest {r | MatchesDefinition s p r} r) (stop : DefinitionStops s r t)
      (others : Decomposes s (t + 1) out) :
      Decomposes s i ((35 :: defineWord ++ [32] ++ s.extract r t, .definition) :: out)

/-- The least of a set of positions from `q` on, from the least distance to `q`. -/
theorem isLeast_add {P : Nat → Prop} {q k : Nat} (h : IsLeast {k | P (q + k)} k) :
    IsLeast {e | q ≤ e ∧ P e} (q + k) := by
  refine ⟨⟨Nat.le_add_right q k, h.1⟩, ?_⟩
  rintro e ⟨hqe, he⟩
  obtain ⟨j, rfl⟩ := Nat.exists_eq_add_of_le hqe
  exact Nat.add_le_add_left (h.2 he) q

/-! ## At most one decomposition -/

/-- No word opens both a comment and a definition. -/
theorem not_matchesDefinition_of_comment {s : List UInt8} {p r : Nat}
    (hc : [slash, star] <+: s.drop p) : ¬ MatchesDefinition s p r := by
  rintro ⟨w, ⟨before, after, _, _, rfl⟩, ⟨rest, hw⟩, _⟩
  obtain ⟨tail, htail⟩ := hc
  rw [← htail] at hw
  simp [slash] at hw

theorem DefinitionStops.unique {s : List UInt8} {r t t' : Nat} (h : DefinitionStops s r t)
    (h' : DefinitionStops s r t') : t = t' := by
  rcases h with h | ⟨h, rfl⟩ <;> rcases h' with h' | ⟨h', rfl⟩
  · exact h.unique h'
  · exact absurd h.1 (h' t)
  · exact absurd h'.1 (h t')
  · rfl

/-- **A source has one decomposition at most.** -/
theorem Decomposes.unique {s : List UInt8} {i : Nat} {out out' : List (List UInt8 × Kind)}
    (h : Decomposes s i out) (h' : Decomposes s i out') : out = out' := by
  induction h generalizing out' with
  | done nothing =>
    cases h' with
    | done => rfl
    | closed first => exact absurd first.1.2 (nothing _ first.1.1)
    | unclosed first => exact absurd first.1.2 (nothing _ first.1.1)
    | definition first => exact absurd first.1.2 (nothing _ first.1.1)
  | closed first comment close _ ih =>
    cases h' with
    | done nothing => exact absurd first.1.2 (nothing _ first.1.1)
    | closed first' _ close' others' =>
      obtain rfl := first.unique first'
      obtain rfl := close.unique close'
      rw [ih others']
    | unclosed first' _ noClose =>
      obtain rfl := first.unique first'
      exact absurd close.1.2 (noClose _ close.1.1)
    | definition first' opening =>
      obtain rfl := first.unique first'
      exact absurd opening.1 (not_matchesDefinition_of_comment comment)
  | unclosed first comment noClose =>
    cases h' with
    | done nothing => exact absurd first.1.2 (nothing _ first.1.1)
    | closed first' _ close =>
      obtain rfl := first.unique first'
      exact absurd close.1.2 (noClose _ close.1.1)
    | unclosed first' =>
      obtain rfl := first.unique first'
      rfl
    | definition first' opening =>
      obtain rfl := first.unique first'
      exact absurd opening.1 (not_matchesDefinition_of_comment comment)
  | definition first opening stop _ ih =>
    cases h' with
    | done nothing => exact absurd first.1.2 (nothing _ first.1.1)
    | closed first' comment =>
      obtain rfl := first.unique first'
      exact absurd opening.1 (not_matchesDefinition_of_comment comment)
    | unclosed first' comment =>
      obtain rfl := first.unique first'
      exact absurd opening.1 (not_matchesDefinition_of_comment comment)
    | definition first' opening' stop' others' =>
      obtain rfl := first.unique first'
      obtain rfl := opening.unique opening'
      obtain rfl := stop.unique stop'
      rw [ih others']

/-! ## What opens -/

theorem eq_of_opening_comment {bs rest : List UInt8} {h : rest.length < bs.length}
    (ho : opening bs = .comment rest h) : bs = slash :: star :: rest := by
  unfold opening at ho
  split at ho
  · next rest' ha =>
    cases ho
    exact after?_eq_some_iff.mp ha
  · split at ho <;> cases ho

theorem directiveBody?_of_opening {bs rest : List UInt8} {h : rest.length < bs.length}
    (ho : opening bs = .definition rest h) : directiveBody? bs = some rest := by
  unfold opening at ho
  split at ho
  · cases ho
  · split at ho
    · next hd => cases ho; exact hd
    · cases ho

theorem not_opensAt_of_opening_none {s bs : List UInt8} {i : Nat} (hs : s.drop i = bs)
    (ho : opening bs = .none) : ¬ OpensAt s i := by
  unfold opening at ho
  split at ho
  · cases ho
  · next hc =>
    split at ho
    · cases ho
    · next hd =>
      rintro (⟨rest, h⟩ | ⟨r, w, hw, hp, -⟩)
      · have hsome := after?_eq_some_iff.mpr (h.trans hs).symm
        rw [hc] at hsome
        cases hsome
      · exact directiveBody?_eq_none hd hw (hs ▸ hp)

/-- Nothing opens where nothing is left. -/
theorem not_opensAt_of_drop_eq_nil {s : List UInt8} {i p : Nat} (hs : s.drop i = []) (hp : i ≤ p) :
    ¬ OpensAt s p := by
  have hnil : s.drop p = [] := by
    rw [List.drop_eq_nil_iff] at hs ⊢
    omega
  rintro (h | ⟨r, w, ⟨before, after, _, _, rfl⟩, h, -⟩)
  · simp [hnil] at h
  · simp [hnil] at h

/-- Where something opens, the first opening is found. -/
theorem isLeast_opensAt {s : List UInt8} {i : Nat} (h : OpensAt s i) :
    IsLeast {p | i ≤ p ∧ OpensAt s p} i :=
  ⟨⟨Nat.le_refl i, h⟩, fun _ hp => hp.1⟩

/-- A byte where nothing opens is passed over. -/
theorem Decomposes.pass {s : List UInt8} {i : Nat} {out : List (List UInt8 × Kind)}
    (hi : ¬ OpensAt s i) (h : Decomposes s (i + 1) out) : Decomposes s i out := by
  have hset : ∀ p, i ≤ p ∧ OpensAt s p ↔ i + 1 ≤ p ∧ OpensAt s p := by
    intro p
    refine ⟨fun ⟨hp, ho⟩ => ⟨?_, ho⟩, fun ⟨hp, ho⟩ => ⟨by omega, ho⟩⟩
    rcases Nat.eq_or_lt_of_le hp with rfl | hlt
    · exact absurd ho hi
    · exact hlt
  have hfirst {p : Nat} (hp : IsLeast {p | i + 1 ≤ p ∧ OpensAt s p} p) :
      IsLeast {p | i ≤ p ∧ OpensAt s p} p := by
    simpa only [hset] using hp
  cases h with
  | done nothing => exact .done fun p hp ho => nothing p ((hset p).mp ⟨hp, ho⟩).1 ho
  | closed first comment close others => exact .closed (hfirst first) comment close others
  | unclosed first comment noClose => exact .unclosed (hfirst first) comment noClose
  | definition first opening stop others => exact .definition (hfirst first) opening stop others

/-! ## The items are a decomposition -/

theorem keepsAt_iff {s bs : List UInt8} {q : Nat} (hs : s.drop q = bs) :
    KeepsAt s q ↔ keepsComment bs = true := by
  have h0 : s[q]? = bs[0]? := by rw [← hs]; simp
  have h1 : s[q + 1]? = bs[1]? := by rw [← hs]; simp
  unfold KeepsAt
  rw [h0, h1]
  match bs with
  | [] => simp [keepsComment]
  | [_] => simp [keepsComment]
  | b :: c :: rest => simp [keepsComment, and_assoc]

theorem commentItem_text (line : Nat) {bs : List UInt8} (hnul : 0 ∉ bs) :
    (commentItem line bs).text = [slash, star] ++ (commentBody bs).body ++ [star, slash] := by
  rw [commentItem, Accumulator.collect_eq_append _ (zero_notMem_commentBody hnul)]
  rfl

theorem definitionItem_text (line : Nat) {bs : List UInt8} (hnul : 0 ∉ bs) :
    (definitionItem line bs).text = 35 :: defineWord ++ [32] ++ (definitionBody bs).body := by
  rw [definitionItem, Accumulator.collect_eq_append _ (zero_notMem_definitionBody hnul)]
  rfl

theorem zero_notMem_drop {s rest : List UInt8} {i : Nat} (hnul : 0 ∉ s) (h : s.drop i = rest) : 0 ∉ rest :=
  h ▸ fun hmem => hnul (List.mem_of_mem_drop hmem)

/-- A definition stops where its reader stops. -/
theorem definitionStops_of_drop {s bs : List UInt8} {r : Nat} (hs : s.drop r = bs) :
    ∃ t, DefinitionStops s r t ∧ (definitionBody bs).body = s.extract r t ∧
      (definitionBody bs).rest = s.drop (t + 1) := by
  cases bs with
  | nil =>
    have hlen : s.length ≤ r := List.drop_eq_nil_iff.mp hs
    refine ⟨s.length, Or.inr ⟨?_, rfl⟩, ?_, ?_⟩
    · rintro k ⟨hk, hnl, -⟩
      rw [List.getElem?_eq_none (by omega)] at hnl
      cases hnl
    · simp [definitionBody, hs]
    · simp [definitionBody]
  | cons b tail =>
    have htail : s.drop (r + 1) = tail := by
      rw [← List.drop_drop, hs]; rfl
    have hends : ∀ k, EndsDefinition s r (r + 1 + k) ↔ EndsLine [] tail k := by
      intro k
      have hk : s[r + 1 + k]? = tail[k]? := by rw [← htail, List.getElem?_drop]
      have hx : s.extract (r + 1) (r + 1 + k) = tail.take k := by
        simp [htail]
      simp only [EndsDefinition, EndsLine, hk, hx, isJoined, List.nil_append, Nat.even_iff,
        beq_eq_false_iff_ne, ne_eq]
      constructor
      · rintro ⟨-, h1, h2⟩
        exact ⟨h1, by omega⟩
      · rintro ⟨h1, h2⟩
        exact ⟨by omega, h1, by omega⟩
    rcases logicalLine_cases [] tail with ⟨k, hk, hbody, hrest⟩ | ⟨hnone, hbody, hrest⟩
    · refine ⟨r + 1 + k, Or.inl ⟨(hends k).mpr hk.1, ?_⟩, ?_, ?_⟩
      · intro t ht
        obtain ⟨j, rfl⟩ := Nat.exists_eq_add_of_le (show r + 1 ≤ t from ht.1)
        exact Nat.add_le_add_left (hk.2 ((hends j).mp ht)) _
      · show b :: (logicalLine (isJoined []) tail).body = _
        rw [hbody, List.extract_eq_take_drop, hs, show r + 1 + k - r = k + 1 by omega]
        rfl
      · show (logicalLine (isJoined []) tail).rest = _
        rw [hrest, ← htail, List.drop_drop, show r + 1 + (k + 1) = r + 1 + k + 1 by omega]
    · refine ⟨s.length, Or.inr ⟨?_, rfl⟩, ?_, ?_⟩
      · intro t ht
        obtain ⟨j, rfl⟩ := Nat.exists_eq_add_of_le (show r + 1 ≤ t from ht.1)
        exact hnone j ((hends j).mp ht)
      · show b :: (logicalLine (isJoined []) tail).body = _
        rw [hbody, List.extract_eq_take_drop, ← List.length_drop, List.take_length, hs]
      · show (logicalLine (isJoined []) tail).rest = _
        rw [hrest, List.drop_eq_nil_of_le (by omega)]

/-- A comment at the front, and what is found after it. -/
theorem decomposes_comment (line : Nat) {s rest : List UInt8} {i : Nat}
    {out : List (List UInt8 × Kind)} (hnul : 0 ∉ s) (hs : s.drop i = slash :: star :: rest)
    (others : ∀ j, s.drop j = (commentBody rest).rest → Decomposes s j out) :
    Decomposes s i ((if keepsComment rest then
      [((commentItem line rest).text, Kind.comment)] else []) ++ out) := by
  have hcomment : [slash, star] <+: s.drop i := hs ▸ ⟨rest, rfl⟩
  have hfirst := isLeast_opensAt (Or.inl hcomment)
  have hrest : s.drop (i + 2) = rest := by
    rw [← List.drop_drop, hs]; rfl
  have hpairs (body : List UInt8) (hb : (commentBody rest).body = body) :
      (if keepsComment rest then [((commentItem line rest).text, Kind.comment)] else [])
        = commentPairs s (i + 2) body := by
    rw [commentItem_text line (zero_notMem_drop hnul hrest), hb, commentPairs]
    simp only [keepsAt_iff hrest]
  rcases commentBody_cases rest with ⟨e, he, hbody, htail⟩ | ⟨hnone, hbody, htail⟩
  · have hclose : IsLeast {e | i + 2 ≤ e ∧ [star, slash] <+: s.drop e} (i + 2 + e) := by
      refine isLeast_add ?_
      simpa only [← hrest, List.drop_drop] using he
    rw [hpairs (s.extract (i + 2) (i + 2 + e)) (by rw [hbody]; simp [hrest])]
    refine .closed hfirst hcomment hclose (others _ ?_)
    rw [htail, ← hrest, List.drop_drop, Nat.add_assoc (i + 2)]
  · have hout : out = [] := by
      have hdone : Decomposes s s.length [] :=
        .done fun p hp => not_opensAt_of_drop_eq_nil (by simp) hp
      exact (others s.length (by rw [htail]; simp)).unique hdone
    rw [hout, List.append_nil, hpairs (s.extract (i + 2) (s.length - 1)) ?_]
    · refine .unclosed hfirst hcomment fun e he h => ?_
      obtain ⟨k, rfl⟩ := Nat.exists_eq_add_of_le he
      exact hnone k (by rw [← hrest, List.drop_drop]; exact h)
    · rw [hbody, List.extract_eq_take_drop, hrest, ← hrest, List.length_drop]
      congr 1
      omega

/-- A definition at the front, and what is found after it. -/
theorem decomposes_definition {s bs rest : List UInt8} {i line : Nat}
    {out : List (List UInt8 × Kind)} (hnul : 0 ∉ s) (hs : s.drop i = bs) (hd : directiveBody? bs = some rest)
    (others : ∀ j, s.drop j = (definitionBody rest).rest → Decomposes s j out) :
    Decomposes s i (((definitionItem line rest).text, .definition) :: out) := by
  obtain ⟨w, hw, hbs, hlongest⟩ := directiveBody?_eq_some hd
  have hmatch : MatchesDefinition s i (i + w.length) := ⟨w, hw, ⟨rest, by rw [hs, hbs]⟩, rfl⟩
  have hgreatest : IsGreatest {r | MatchesDefinition s i r} (i + w.length) := by
    refine ⟨hmatch, ?_⟩
    rintro r ⟨w', hw', hp, rfl⟩
    exact Nat.add_le_add_left (hlongest w' hw' (hs ▸ hp)) i
  have hrest : s.drop (i + w.length) = rest := by
    rw [← List.drop_drop, hs, hbs, List.drop_left]
  obtain ⟨t, hstop, hbody, htail⟩ := definitionStops_of_drop hrest
  rw [definitionItem_text line (zero_notMem_drop hnul hrest), hbody]
  exact .definition (isLeast_opensAt (Or.inr ⟨_, hmatch⟩)) hgreatest hstop (others _ htail.symm)

/-- The text of an item with its kind. -/
def Item.pair {τ : Type} (item : Item τ) : τ × Kind := (item.text, item.kind)

/-- **What is read from position `i` on decomposes the source from there on.** -/
theorem decomposes_itemsFrom {s : List UInt8} (hnul : 0 ∉ s) (line : Nat) (bs : List UInt8) :
    ∀ i, s.drop i = bs → Decomposes s i ((itemsFrom line bs).map Item.pair) := by
  -- the steps of the reader: nothing left, a comment kept or not, a definition, any other byte
  fun_induction itemsFrom line bs with
  | case1 =>
    intro i hs
    exact .done fun p hp => not_opensAt_of_drop_eq_nil hs hp
  | case2 line b tail rest hlt ho item others hkeep ih =>
    intro i hs
    have hbs := eq_of_opening_comment ho
    have h := decomposes_comment line hnul (hs.trans hbs) ih
    rw [if_pos hkeep] at h
    exact h
  | case3 line b tail rest hlt ho item others hkeep ih =>
    intro i hs
    have hbs := eq_of_opening_comment ho
    have h := decomposes_comment line hnul (hs.trans hbs) ih
    rw [if_neg hkeep] at h
    exact h
  | case4 line b tail rest hlt ho item ih =>
    intro i hs
    exact decomposes_definition hnul hs (directiveBody?_of_opening ho) ih
  | case5 line b tail ho ih =>
    intro i hs
    refine .pass (not_opensAt_of_opening_none hs ho) (ih (i + 1) ?_)
    rw [← List.drop_drop, hs]
    rfl

/-- An item read as text has the same bytes and the same kind. -/
theorem encode_pair_of_decode? {item : Item (List UInt8)} {read : Item String}
    (h : item.decode? = some read) : (Text.Utf8.encode read.text, read.kind) = item.pair := by
  obtain ⟨text, ht, rfl⟩ := Option.map_eq_some_iff.mp h
  rw [Item.pair, Text.Utf8.decode?_eq_some_iff.mp ht]

theorem map_encode_of_mapM_decode? {found : List (Item (List UInt8))} {read : List (Item String)}
    (h : found.mapM Item.decode? = some read) :
    read.map (fun item => (Text.Utf8.encode item.text, item.kind)) = found.map Item.pair := by
  induction found generalizing read with
  | nil =>
    rw [List.mapM_nil] at h
    cases h
    rfl
  | cons item rest ih =>
    simp only [List.mapM_cons, Option.bind_eq_bind, Option.bind_eq_some_iff, Option.pure_def,
      Option.some.injEq] at h
    obtain ⟨first, hfirst, others, hothers, rfl⟩ := h
    rw [List.map_cons, List.map_cons, encode_pair_of_decode? hfirst, ih hothers]

/-- **The items of a source without NUL are exactly those of its decomposition, in order.** Where the bytes
of all items spell texts, the comments and definitions of the text are the same items. -/
theorem decomposes_iff_items (s : List UInt8) (h : 0 ∉ s) :
    (∀ out, Decomposes s 0 out ↔ out = (items s).map Item.pair) ∧
      ∀ (text : String) (found : List (Item String)), Text.Utf8.encode text = s →
        extract text = some found →
        Decomposes s 0 (found.map fun item => (Text.Utf8.encode item.text, item.kind)) := by
  have hall : s.takeWhile (· ≠ 0) = s := by
    rw [List.takeWhile_eq_self_iff]
    intro b hb
    simpa using ne_of_mem_of_not_mem hb h
  have hitems : Decomposes s 0 ((items s).map Item.pair) := by
    rw [items, hall]
    exact decomposes_itemsFrom h 1 s 0 rfl
  refine ⟨fun out => ⟨fun hout => hout.unique hitems, fun hout => hout ▸ hitems⟩, ?_⟩
  rintro text found rfl hfound
  rw [map_encode_of_mapM_decode? hfound]
  exact hitems

open Text.Utf8 in
/-- A definition with a joined and an unjoined newline, a comment that is not kept and one that is. -/
theorem decomposes_definition_then_comment :
    0 ∉ encode "#define\tA \\ \nb\\\\\n/**/ /*!x**/" ∧
      Decomposes (encode "#define\tA \\ \nb\\\\\n/**/ /*!x**/") 0
        [(encode "#define A \\ \nb\\\\", .definition), (encode "/*!x**/", .comment)] := by
  have hnul : 0 ∉ encode "#define\tA \\ \nb\\\\\n/**/ /*!x**/" := by decide +kernel
  exact ⟨hnul, ((decomposes_iff_items _ hnul).1 _).mpr (by decide +kernel)⟩

end GirDoc.Extract
