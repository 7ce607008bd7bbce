import GirDoc.Gir.TypeTokens
import GirDoc.Proofs.Text.Words

/-!
# Stars in the types that C writes

The tokens of a type are its words and then as many stars as it has. Stars are trimmed at both ends of the type before
the words are read, so a star that stands between other characters is part of a word, and is counted once more. A star
at the start of the type is moved to its end.

* `IsStarred text before core after` says that the stars of a type are at its ends only, and how many there are.
* `lexemes` reads a type as C does: a star is never part of a word.
* `type_kept_iff` says when the tokens show the type that they are made of: all of it, the number of its stars, and
  the places of its qualifiers among the stars.
-/

namespace GirDoc.Gir

open Text

/-! ## What tokens show -/

/-- What a token shows; a link shows its title. -/
def shown : TypeToken → List Char
  | .text s => s.toList
  | .link l => (l.title.getD "").toList

/-- Sets a star apart from what is around it. -/
def setApart (c : Char) : List Char := if c = '*' then [' ', '*', ' '] else [c]

/-- The words and stars of a type, in order. -/
def lexemes (cs : List Char) : List (List Char) := wordsFrom [] (cs.flatMap setApart)

/-- Whether a word or star says where the qualifiers of a type are: it is a qualifier or a star. -/
def isMark (w : List Char) : Bool := w = ['*'] || String.ofList w ∈ qualifierWords

/-- The stars of a type are at its ends. -/
structure IsStarred (text : String) (before : Nat) (core : List Char) (after : Nat) : Prop where
  text_eq : text.toList = List.replicate before '*' ++ core ++ List.replicate after '*'
  star_notMem : '*' ∉ core

variable {text : String} {cs core : List Char} {before after : Nat} {ws : List (List Char)}

theorem shown_wordToken (w : String) :
    shown (wordToken w) = w.toList ∨ shown (wordToken w) = w.toList ++ [' '] := by
  unfold wordToken
  split
  · exact .inr (by simp [shown])
  · exact .inl rfl

theorem unblanked_shown_wordToken {w : List Char} (h : ∀ c ∈ w, isBlank c = false) :
    unblanked (shown (wordToken (String.ofList w))) = w := by
  rcases shown_wordToken (String.ofList w) with hshown | hshown
  · rw [hshown, String.toList_ofList, unblanked_eq_self h]
  · rw [hshown, String.toList_ofList, unblanked_append, unblanked_eq_self h]
    exact List.append_nil w

/-- The tokens of words show the words. -/
theorem unblanked_words (h : ∀ w ∈ ws, ∀ c ∈ w, isBlank c = false) :
    unblanked (((ws.map String.ofList).map wordToken).flatMap shown) = ws.flatten := by
  induction ws with
  | nil => rfl
  | cons w rest ih =>
    rw [List.forall_mem_cons] at h
    rw [List.map_cons, List.map_cons, List.flatMap_cons, unblanked_append, unblanked_shown_wordToken h.1, ih h.2,
      List.flatten_cons]

/-! ## Words and stars -/

theorem lexemes_nil : lexemes [] = [] := rfl

theorem lexemes_star_cons (cs : List Char) : lexemes ('*' :: cs) = ['*'] :: lexemes cs := rfl

theorem lexemes_append_star (cs ds : List Char) : lexemes (cs ++ '*' :: ds) = lexemes cs ++ ['*'] :: lexemes ds := by
  unfold lexemes
  rw [List.flatMap_append]
  exact wordsFrom_append_blank (by decide) [] (cs.flatMap setApart) ('*' :: ' ' :: ds.flatMap setApart)

theorem lexemes_replicate_append (n : Nat) (cs : List Char) :
    lexemes (List.replicate n '*' ++ cs) = List.replicate n ['*'] ++ lexemes cs := by
  induction n with
  | zero => rfl
  | succ n ih => rw [List.replicate_succ, List.replicate_succ, List.cons_append, lexemes_star_cons, ih, List.cons_append]

theorem lexemes_append_replicate (cs : List Char) (n : Nat) :
    lexemes (cs ++ List.replicate n '*') = lexemes cs ++ List.replicate n ['*'] := by
  cases n with
  | zero => simp
  | succ n =>
    have hstars := lexemes_replicate_append n []
    rw [List.append_nil, lexemes_nil, List.append_nil] at hstars
    rw [List.replicate_succ, List.replicate_succ, lexemes_append_star, hstars]

/-- Without stars there are the words only. -/
theorem lexemes_of_star_notMem (h : '*' ∉ cs) : lexemes cs = wordsFrom [] cs := by
  have hself : cs.flatMap setApart = cs := by
    induction cs with
    | nil => rfl
    | cons c rest ih =>
      rw [List.mem_cons, not_or] at h
      rw [List.flatMap_cons, ih h.2, setApart, if_neg (Ne.symm h.1)]
      rfl
  rw [lexemes, hself]

theorem count_wordsFrom_nil {word : List Char} (h : '*' ∉ word) : (wordsFrom word []).count ['*'] = 0 := by
  rw [List.count_eq_zero]
  cases word with
  | nil => simp [wordsFrom]
  | cons c rest =>
    intro hmem
    rw [wordsFrom, if_neg (by simp), List.mem_singleton] at hmem
    exact h (List.mem_reverse.mp (hmem ▸ List.mem_singleton_self '*'))

/-- Stars are set apart, so a word that was begun without one never gets one. -/
theorem count_wordsFrom_setApart {word : List Char} (h : '*' ∉ word) (cs : List Char) :
    (wordsFrom word (cs.flatMap setApart)).count ['*'] = cs.count '*' := by
  induction cs generalizing word with
  | nil => exact count_wordsFrom_nil h
  | cons c rest ih =>
    by_cases hstar : c = '*'
    · subst hstar
      have hsplit := wordsFrom_append_blank (b := ' ') (by decide) word [] ('*' :: ' ' :: rest.flatMap setApart)
      have hrest : wordsFrom [] ('*' :: ' ' :: rest.flatMap setApart) =
          ['*'] :: wordsFrom [] (rest.flatMap setApart) := rfl
      rw [List.nil_append, hrest] at hsplit
      rw [List.flatMap_cons, setApart, if_pos rfl]
      show (wordsFrom word (' ' :: '*' :: ' ' :: rest.flatMap setApart)).count ['*'] = _
      rw [hsplit, List.count_append, count_wordsFrom_nil h, List.count_cons_self, List.count_cons_self, ih (by simp),
        Nat.zero_add]
    · rw [List.flatMap_cons, setApart, if_neg hstar, List.singleton_append, List.count_cons_of_ne hstar]
      by_cases hblank : isBlank c
      · have hsplit := wordsFrom_append_blank hblank word [] (rest.flatMap setApart)
        rw [List.nil_append] at hsplit
        rw [hsplit, List.count_append, count_wordsFrom_nil h, ih (by simp), Nat.zero_add]
      · rw [wordsFrom, if_neg hblank, ih]
        rw [List.mem_cons, not_or]
        exact ⟨Ne.symm hstar, h⟩

/-- There are as many stars among the words and stars of a type as there are in it. -/
theorem count_lexemes (cs : List Char) : (lexemes cs).count ['*'] = cs.count '*' :=
  count_wordsFrom_setApart List.not_mem_nil cs

/-! ## The tokens of a type -/

/-- What is left of a type when the stars at its ends are trimmed. -/
def starTrimmed (text : String) : List Char := (trimOf (· = '*') text).toList

theorem declaredTokens_eq (text : String) :
    declaredTokens text = ((wordsFrom [] (starTrimmed text)).map String.ofList).map wordToken ++
      List.replicate (text.toList.count '*') (.text "*") := rfl

/-- The stars at both ends of a type are trimmed. -/
theorem exists_starTrimmed (text : String) :
    ∃ before after, text.toList = List.replicate before '*' ++ starTrimmed text ++ List.replicate after '*' := by
  obtain ⟨left, right, htext, hleft, hright⟩ := exists_trimOf (· = '*') text
  refine ⟨left.length, right.length, ?_⟩
  rw [← List.eq_replicate_of_mem fun c hc => of_decide_eq_true (hleft c hc),
    ← List.eq_replicate_of_mem fun c hc => of_decide_eq_true (hright c hc)]
  exact htext

theorem IsStarred.core_eq (h : IsStarred text before core after) : core = starTrimmed text := by
  refine (toList_trimOf h.text_eq ?_ ?_ ?_).symm
  · intro c hc
    simp [List.eq_of_mem_replicate hc]
  · intro c hc
    simp [List.eq_of_mem_replicate hc]
  · intro c hc
    have hne : c ≠ '*' := fun heq => h.star_notMem (heq ▸ hc)
    simp [hne]

/-- The stars are at the ends exactly if none is left when they are trimmed there. -/
theorem exists_isStarred_iff : (∃ before core after, IsStarred text before core after) ↔ '*' ∉ starTrimmed text := by
  constructor
  · rintro ⟨before, core, after, h⟩
    exact h.core_eq ▸ h.star_notMem
  · intro h
    obtain ⟨before, after, htext⟩ := exists_starTrimmed text
    exact ⟨before, _, after, htext, h⟩

theorem shown_stars (n : Nat) : (List.replicate n (TypeToken.text "*")).flatMap shown = List.replicate n '*' := by
  rw [List.flatMap_replicate]
  exact List.flatten_replicate_singleton

theorem unblanked_stars (n : Nat) : unblanked (List.replicate n '*') = List.replicate n '*' :=
  unblanked_eq_self fun c hc => by rw [List.eq_of_mem_replicate hc]; decide

/-- The tokens show the trimmed type and then all stars. -/
theorem unblanked_shown (text : String) :
    unblanked ((declaredTokens text).flatMap shown) =
      unblanked (starTrimmed text) ++ List.replicate (text.toList.count '*') '*' := by
  rw [declaredTokens_eq, List.flatMap_append, unblanked_append, shown_stars, unblanked_stars,
    unblanked_words fun w hw => (of_mem_wordsFrom (by simp) hw).2, flatten_wordsFrom, List.reverse_nil, List.nil_append]

/-- A star that is not trimmed is counted twice. -/
theorem count_shown (text : String) :
    ((declaredTokens text).flatMap shown).count '*' = (starTrimmed text).count '*' + text.toList.count '*' := by
  rw [← count_unblanked (by decide), unblanked_shown, List.count_append, count_unblanked (by decide),
    List.count_replicate_self]

/-- Stars can be moved over what has no stars only if there is nothing. -/
theorem append_replicate_eq_iff {α : Type} {a : α} {xs : List α} (h : a ∉ xs) (m n : Nat) :
    xs ++ List.replicate (m + n) a = List.replicate m a ++ xs ++ List.replicate n a ↔ m = 0 ∨ xs = [] := by
  constructor
  · intro heq
    cases m with
    | zero => exact .inl rfl
    | succ m =>
      cases xs with
      | nil => exact .inr rfl
      | cons x rest =>
        rw [List.replicate_succ, List.cons_append, List.cons_append, List.cons_append] at heq
        exact absurd (List.cons.inj heq).1 (fun hx => h (hx ▸ List.mem_cons_self))
  · rintro (rfl | rfl)
    · simp
    · simp

/-! ## Stars at the ends -/

theorem IsStarred.count_eq (h : IsStarred text before core after) : text.toList.count '*' = before + after := by
  rw [h.text_eq, List.count_append, List.count_append, List.count_replicate_self, List.count_replicate_self,
    List.count_eq_zero.mpr h.star_notMem, Nat.add_zero]

/-- What can hold only if the stars are at the ends of a type is decided there. -/
theorem iff_exists_isStarred {law : Prop} {P : Nat → List Char → Prop} (hstars : law → '*' ∉ starTrimmed text)
    (h : ∀ before core after, IsStarred text before core after → (law ↔ P before core)) :
    law ↔ ∃ before core after, IsStarred text before core after ∧ P before core := by
  constructor
  · intro hlaw
    obtain ⟨before, core, after, hstarred⟩ := exists_isStarred_iff.mpr (hstars hlaw)
    exact ⟨before, core, after, hstarred, (h before core after hstarred).mp hlaw⟩
  · rintro ⟨before, core, after, hstarred, hP⟩
    exact (h before core after hstarred).mpr hP

theorem count_shown_eq_iff :
    ((declaredTokens text).flatMap shown).count '*' = text.toList.count '*' ↔ '*' ∉ starTrimmed text := by
  rw [count_shown, ← List.count_eq_zero]
  omega

/-- The whole type is shown. -/
theorem IsStarred.shown_eq_iff (h : IsStarred text before core after) :
    unblanked ((declaredTokens text).flatMap shown) = unblanked text.toList ↔ before = 0 ∨ wordsFrom [] core = [] := by
  have hmem : '*' ∉ unblanked core := fun hmem => h.star_notMem (List.mem_filter.mp hmem).1
  rw [unblanked_shown, ← h.core_eq, h.count_eq, h.text_eq, unblanked_append, unblanked_append, unblanked_stars,
    unblanked_stars, append_replicate_eq_iff hmem, wordsFrom_eq_nil_iff]

/-! ## Links -/

theorem link_mem_declaredTokens_iff {l : Link} :
    TypeToken.link l ∈ declaredTokens text ↔
      ∃ w ∈ wordsFrom [] (starTrimmed text), String.ofList w ∉ qualifierWords ∧
        l = Link.named (some (String.ofList w)) := by
  rw [declaredTokens_eq, List.mem_append]
  constructor
  · rintro (h | h)
    · simp only [List.map_map, List.mem_map, Function.comp_apply] at h
      obtain ⟨w, hw, h⟩ := h
      unfold wordToken at h
      split at h
      · cases h
      · rename_i hqualifier
        cases h
        exact ⟨w, hw, hqualifier, rfl⟩
    · cases List.eq_of_mem_replicate h
  · rintro ⟨w, hw, hqualifier, rfl⟩
    refine .inl (List.mem_map.mpr ⟨_, List.mem_map_of_mem hw, ?_⟩)
    rw [wordToken, if_neg hqualifier]

theorem star_mem_starTrimmed_iff : '*' ∈ starTrimmed text ↔ ∃ w ∈ wordsFrom [] (starTrimmed text), '*' ∈ w := by
  have hflatten := flatten_wordsFrom [] (starTrimmed text)
  rw [List.reverse_nil, List.nil_append] at hflatten
  rw [← List.mem_flatten, hflatten, unblanked, List.mem_filter]
  exact ⟨fun h => ⟨h, by decide⟩, fun h => h.1⟩

theorem star_notMem_qualifierWords : ∀ q ∈ qualifierWords, '*' ∉ q.toList := by
  decide

/-- No symbol that is linked to has a star in its name. -/
theorem star_notMem_links_iff :
    (∀ l id, TypeToken.link l ∈ declaredTokens text → l.id = some id → '*' ∉ id.toList) ↔ '*' ∉ starTrimmed text := by
  constructor
  · intro h hstar
    obtain ⟨w, hw, hmem⟩ := star_mem_starTrimmed_iff.mp hstar
    have hqualifier : String.ofList w ∉ qualifierWords := fun hq =>
      star_notMem_qualifierWords _ hq (by rwa [String.toList_ofList])
    refine h _ _ (link_mem_declaredTokens_iff.mpr ⟨w, hw, hqualifier, rfl⟩) rfl ?_
    rwa [String.toList_ofList]
  · intro h l id hl hid hmem
    obtain ⟨w, hw, -, rfl⟩ := link_mem_declaredTokens_iff.mp hl
    cases hid
    rw [String.toList_ofList] at hmem
    exact h (star_mem_starTrimmed_iff.mpr ⟨w, hw, hmem⟩)

/-! ## Qualifiers among stars -/

theorem count_lexemes_shown (tokens : List TypeToken) :
    (tokens.flatMap fun token => lexemes (shown token)).count ['*'] = (tokens.flatMap shown).count '*' := by
  rw [List.count_flatMap, List.count_flatMap]
  congr 1
  exact List.map_congr_left fun token _ => count_lexemes (shown token)

theorem lexemes_shown_wordToken {w : List Char} (hne : w ≠ []) (hblank : ∀ c ∈ w, isBlank c = false) (hstar : '*' ∉ w) :
    lexemes (shown (wordToken (String.ofList w))) = [w] := by
  rcases shown_wordToken (String.ofList w) with hshown | hshown
  · rw [hshown, String.toList_ofList, lexemes_of_star_notMem hstar, wordsFrom_word hblank hne]
  · rw [hshown, String.toList_ofList, lexemes_of_star_notMem (by simp [hstar]),
      wordsFrom_append_blank (by decide), wordsFrom_word hblank hne]
    rfl

theorem lexemes_words (h : ∀ w ∈ ws, w ≠ [] ∧ (∀ c ∈ w, isBlank c = false) ∧ '*' ∉ w) :
    (((ws.map String.ofList).map wordToken).flatMap fun token => lexemes (shown token)) = ws := by
  induction ws with
  | nil => rfl
  | cons w rest ih =>
    rw [List.forall_mem_cons] at h
    obtain ⟨⟨hne, hblank, hstar⟩, hrest⟩ := h
    rw [List.map_cons, List.map_cons, List.flatMap_cons, lexemes_shown_wordToken hne hblank hstar, ih hrest]
    rfl

theorem lexemes_shown_stars (n : Nat) :
    ((List.replicate n (TypeToken.text "*")).flatMap fun token => lexemes (shown token)) = List.replicate n ['*'] := by
  rw [List.flatMap_replicate]
  exact List.flatten_replicate_singleton

theorem IsStarred.star_notMem_word (h : IsStarred text before core after) {w : List Char} (hw : w ∈ wordsFrom [] core) :
    '*' ∉ w := by
  intro hmem
  rw [h.core_eq] at hw
  exact h.star_notMem (h.core_eq ▸ star_mem_starTrimmed_iff.mpr ⟨w, hw, hmem⟩)

/-- The qualifiers keep their places among the stars. -/
theorem IsStarred.marks_eq_iff (h : IsStarred text before core after) :
    ((declaredTokens text).flatMap fun token => lexemes (shown token)).filter isMark =
        (lexemes text.toList).filter isMark ↔
      before = 0 ∨ ∀ w ∈ wordsFrom [] core, String.ofList w ∉ qualifierWords := by
  have htokens : ((declaredTokens text).flatMap fun token => lexemes (shown token)) =
      wordsFrom [] core ++ List.replicate (before + after) ['*'] := by
    rw [declaredTokens_eq, List.flatMap_append, lexemes_shown_stars, h.count_eq, ← h.core_eq, lexemes_words]
    intro w hw
    have hword := of_mem_wordsFrom (by simp) hw
    exact ⟨hword.1, hword.2, h.star_notMem_word hw⟩
  have htext : lexemes text.toList =
      List.replicate before ['*'] ++ wordsFrom [] core ++ List.replicate after ['*'] := by
    rw [h.text_eq, lexemes_append_replicate, lexemes_replicate_append, lexemes_of_star_notMem h.star_notMem]
  have hstars : ∀ n, (List.replicate n ['*']).filter isMark = List.replicate n ['*'] := fun n =>
    List.filter_eq_self.mpr fun w hw => by rw [List.eq_of_mem_replicate hw]; rfl
  have hmem : ['*'] ∉ (wordsFrom [] core).filter isMark := fun hmem =>
    h.star_notMem_word (List.mem_filter.mp hmem).1 (List.mem_singleton_self '*')
  rw [htokens, htext, List.filter_append, List.filter_append, List.filter_append, hstars, hstars, hstars,
    append_replicate_eq_iff hmem, List.filter_eq_nil_iff]
  refine or_congr_right (forall₂_congr fun w hw => ?_)
  have hne : w ≠ ['*'] := fun heq => h.star_notMem_word hw (heq ▸ List.mem_singleton_self '*')
  simp [isMark, hne]

/-- **The tokens show the type that they are made of exactly if its stars come last.** Up to blanks, all of the type is
shown if and only if its stars are at its ends, and none of them is at its start unless there are no words. The number
of stars is kept, and no star gets into the name of a symbol, if and only if the stars are at the ends. The qualifiers
keep their places among the stars if and only if, besides, there is no star at the start or no qualifier. -/
theorem type_kept_iff (text : String) :
    (unblanked ((declaredTokens text).flatMap shown) = unblanked text.toList ↔
      ∃ before core after, IsStarred text before core after ∧ (before = 0 ∨ wordsFrom [] core = [])) ∧
    (((declaredTokens text).flatMap shown).count '*' = text.toList.count '*' ↔
      ∃ before core after, IsStarred text before core after) ∧
    ((∀ l id, TypeToken.link l ∈ declaredTokens text → l.id = some id → '*' ∉ id.toList) ↔
      ∃ before core after, IsStarred text before core after) ∧
    (((declaredTokens text).flatMap fun token => lexemes (shown token)).filter isMark =
        (lexemes text.toList).filter isMark ↔
      ∃ before core after, IsStarred text before core after ∧
        (before = 0 ∨ ∀ w ∈ wordsFrom [] core, String.ofList w ∉ qualifierWords)) := by
  refine ⟨?_, ?_, ?_, ?_⟩
  · refine iff_exists_isStarred (fun hlaw => ?_) fun before core after h => h.shown_eq_iff
    have hcount := congrArg (List.count '*') hlaw
    rw [count_unblanked (by decide), count_unblanked (by decide)] at hcount
    exact count_shown_eq_iff.mp hcount
  · rw [exists_isStarred_iff]
    exact count_shown_eq_iff
  · rw [exists_isStarred_iff]
    exact star_notMem_links_iff
  · refine iff_exists_isStarred (fun hlaw => ?_) fun before core after h => h.marks_eq_iff
    have hcount := congrArg (List.count ['*']) hlaw
    rw [List.count_filter rfl, List.count_filter rfl, count_lexemes_shown, count_lexemes] at hcount
    exact count_shown_eq_iff.mp hcount

/-- **A star between words is shown twice: as a part of a link, and at the end.** -/
theorem type_lost_constPointer :
    declaredTokens "const char* const*" = [.text "const ", .link (Link.named (some "char*")), .text "const ",
      .text "*", .text "*"] ∧
    unblanked ((declaredTokens "const char* const*").flatMap shown) ≠ unblanked "const char* const*".toList ∧
    ((declaredTokens "const char* const*").flatMap shown).count '*' = 3 ∧
    "const char* const*".toList.count '*' = 2 ∧
    ((declaredTokens "const char* const*").flatMap fun token => lexemes (shown token)).filter isMark =
      ["const".toList, ['*'], "const".toList, ['*'], ['*']] ∧
    (lexemes "const char* const*".toList).filter isMark = ["const".toList, ['*'], "const".toList, ['*']] := by
  decide

end GirDoc.Gir
