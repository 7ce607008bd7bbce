import Mathlib.Data.List.Induction
import Mathlib.Data.List.Infix
import GirDoc.Proofs.Text.Split
import GirDoc.Sections

/-!
# What stays of section files

Lines are left out by a state that goes from line to line. Here it is said from the places of the tags alone which lines
stay: a line is left out exactly if it lies between the tag of a standard subsection and the next closing tag
(`IsBetween`), is a tag of a subsection, or is a comment. This needs tags that have their lines to themselves and
standard subsections that lie in sections (`IsSectionFile`).

* `opensAfter_iff` ties the state to the places of the tags, by induction from the end.
* `dropStandard_eq` says which lines that state leaves out.
* `convert_keeps_sections` is about whole files, and about what they keep: all sections, and in each of them the lines
  before the standard subsection.
-/

namespace GirDoc.Sections

/-! ## Well-formed files -/

/-- The tag that opens a section. -/
def openingTag : List Char := "<SECTION>".toList

/-- The tag that closes a section. -/
def closingTag : List Char := "</SECTION>".toList

/-- The tag of a standard subsection. -/
def standardTag : List Char := "<SUBSECTION Standard>".toList

/-- Whether a text is the tag of a subsection, with any name, or the tag that closes one. -/
def IsSubsectionTag (text : List Char) : Prop :=
  (subsectionTag <+: text ∧ (text.drop subsectionTag.length).getLast? = some '>') ∨ text = "</SUBSECTION>".toList

instance (text : List Char) : Decidable (IsSubsectionTag text) := inferInstanceAs (Decidable (_ ∨ _))

/-- Whether a text is a tag of a section. -/
def IsSectionTag (text : List Char) : Prop := text = openingTag ∨ text = closingTag

instance (text : List Char) : Decidable (IsSectionTag text) := inferInstanceAs (Decidable (_ ∨ _))

/-- All tags in a line have the line to themselves. -/
def HasWholeTags (line : List Char) : Prop :=
  ∀ tag, tag <:+: line → IsSectionTag tag ∨ IsSubsectionTag tag → line = tag

instance (line : List Char) : Decidable (HasWholeTags line) :=
  decidable_of_iff (∀ tag ∈ line.tails.flatMap List.inits, IsSectionTag tag ∨ IsSubsectionTag tag → line = tag) (by
    simp [HasWholeTags, List.infix_iff_prefix_suffix, and_comm])

variable {file : List (List Char)} {line : List Char} {i j : Nat}

/-- A place lies in a section: between an opening tag and a closing tag with no other tag of a section between them. -/
def IsInSection (file : List (List Char)) (i : Nat) : Prop :=
  ∃ j, j < i ∧ file[j]? = some openingTag ∧ ∃ k, k < file.length ∧ i < k ∧ file[k]? = some closingTag ∧
    ∀ m, m < k → j < m → file[m]? ≠ some openingTag ∧ file[m]? ≠ some closingTag

instance : Decidable (IsInSection file i) := inferInstanceAs (Decidable (∃ _, _ ∧ _))

/-- A file as it should be: tags have lines of their own, sections are opened and closed in turn, and what opens a
standard subsection is its tag, inside a section. -/
structure IsSectionFile (file : List (List Char)) : Prop where
  wholeTags : ∀ line ∈ file, HasWholeTags line
  alternate : (closingTag :: file.filter IsSectionTag).IsChain (· ≠ ·)
  standard : ∀ i, (h : i < file.length) → standardWords <:+: file[i] → file[i] = standardTag ∧ IsInSection file i

instance : Decidable (IsSectionFile file) :=
  decidable_of_iff ((∀ line ∈ file, HasWholeTags line) ∧ (closingTag :: file.filter IsSectionTag).IsChain (· ≠ ·) ∧
      ∀ i, (h : i < file.length) → standardWords <:+: file[i] → file[i] = standardTag ∧ IsInSection file i)
    ⟨fun h => ⟨h.1, h.2.1, h.2.2⟩, fun h => ⟨h.wholeTags, h.alternate, h.standard⟩⟩

/-- A place lies strictly between the tag of a standard subsection and the next tag that closes a section. -/
def IsBetween (file : List (List Char)) (i : Nat) : Prop :=
  ∃ j, j < i ∧ file[j]? = some standardTag ∧ ∃ k, k < file.length ∧ i < k ∧ file[k]? = some closingTag ∧
    ∀ m, m < k → j < m → file[m]? ≠ some closingTag

instance : Decidable (IsBetween file i) := inferInstanceAs (Decidable (∃ _, _ ∧ _))

/-- The lines that stay, by their places. -/
def remaining (file : List (List Char)) : List (List Char) :=
  (file.zipIdx.filter fun e => ¬IsBetween file e.2 ∧ ¬IsSubsectionTag e.1 ∧ e.1.head? ≠ some '#').map Prod.fst

/-! ## Lines one by one -/

theorem holds_iff (part text : List Char) : holds part text = true ↔ part <:+: text := by
  rw [holds, List.any_eq_true, List.infix_iff_prefix_suffix]
  constructor
  · rintro ⟨i, -, h⟩
    exact ⟨text.drop i, List.isPrefixOf_iff_prefix.mp h, List.drop_suffix i text⟩
  · rintro ⟨rest, hfront, hrest⟩
    have hle := hrest.length_le
    refine ⟨text.length - rest.length, List.mem_range.mpr (by omega), ?_⟩
    rw [← List.suffix_iff_eq_drop.mp hrest, List.isPrefixOf_iff_prefix]
    exact hfront

theorem infix_of_opensFrom {afterWord : Bool} (h : opensFrom afterWord line = true) : standardWords <:+: line := by
  induction line generalizing afterWord with
  | nil => simp [opensFrom] at h
  | cons c cs ih =>
    rw [opensFrom, Bool.or_eq_true] at h
    rcases h with h | h
    · simp only [Bool.and_eq_true, List.isPrefixOf_iff_prefix] at h
      exact h.1.2.isInfix
    · exact List.infix_cons (ih h)

theorem isComment_iff : isComment line = true ↔ line.head? = some '#' := by
  rw [isComment, List.isPrefixOf_iff_prefix]
  cases line with
  | nil => simp
  | cons c cs => simp [List.cons_prefix_cons, eq_comm]

theorem HasWholeTags.closesSection_iff (h : HasWholeTags line) : closesSection line = true ↔ line = closingTag := by
  rw [closesSection, holds_iff]
  constructor
  · intro hinfix
    exact h closingTag hinfix (.inl (.inr rfl))
  · rintro rfl
    exact List.infix_rfl

theorem HasWholeTags.isSubsectionTag_iff (h : HasWholeTags line) :
    isSubsectionTag line = true ↔ IsSubsectionTag line := by
  rw [isSubsectionTag, Bool.or_eq_true, Bool.and_eq_true, List.isPrefixOf_iff_prefix, holds_iff]
  constructor
  · rintro (⟨⟨rest, rfl⟩, hend⟩ | hinfix)
    · -- the tag ends at the first bracket, and has the line to itself
      rw [List.drop_left, List.contains_iff_mem] at hend
      obtain ⟨name, more, rfl⟩ := List.append_of_mem hend
      have htag : IsSubsectionTag (subsectionTag ++ (name ++ ['>'])) := by
        refine .inl ⟨List.prefix_append _ _, ?_⟩
        rw [List.drop_left, List.getLast?_concat]
      have hinfix : subsectionTag ++ (name ++ ['>']) <:+: subsectionTag ++ (name ++ '>' :: more) :=
        ⟨[], more, by simp⟩
      rw [h _ hinfix (.inr htag)]
      exact htag
    · rw [h _ hinfix (.inr (.inr rfl))]
      exact .inr rfl
  · rintro (⟨hfront, hlast⟩ | rfl)
    · exact .inl ⟨hfront, List.contains_iff_mem.mpr (List.mem_of_getLast? hlast)⟩
    · exact .inr List.infix_rfl

/-! ## Standard subsections -/

/-- Whether a standard subsection is open after some lines. -/
def opensAfter (front : List (List Char)) : Bool :=
  front.foldl (fun inside line => if inside then !closesSection line else opensStandard line) false

theorem opensAfter_take_succ (h : i < file.length) :
    opensAfter (file.take (i + 1)) =
      if opensAfter (file.take i) then !closesSection file[i] else opensStandard file[i] := by
  rw [List.take_succ_eq_append_getElem h, opensAfter, List.foldl_concat]
  rfl

theorem dropStandard_cons (inside : Bool) (line : List Char) (rest : List (List Char)) :
    dropStandard inside (line :: rest) =
      (if inside && !closesSection line then [] else [line]) ++
        dropStandard (if inside then !closesSection line else opensStandard line) rest := by
  cases inside <;> cases hclose : closesSection line <;> simp [dropStandard, hclose]

namespace IsSectionFile

theorem closesSection_iff (h : IsSectionFile file) (hi : i < file.length) :
    closesSection file[i] = true ↔ file[i] = closingTag :=
  (h.wholeTags _ (List.getElem_mem hi)).closesSection_iff

theorem opensStandard_iff (h : IsSectionFile file) (hi : i < file.length) :
    opensStandard file[i] = true ↔ file[i] = standardTag := by
  constructor
  · intro hopens
    exact (h.standard i hi (infix_of_opensFrom hopens)).1
  · intro hline
    rw [hline]
    decide

/-- A standard subsection is open exactly if its tag has come and no section was closed since then. -/
theorem opensAfter_iff (h : IsSectionFile file) (hi : i ≤ file.length) :
    opensAfter (file.take i) = true ↔
      ∃ j, j < i ∧ file[j]? = some standardTag ∧ ∀ m, m < i → j < m → file[m]? ≠ some closingTag := by
  induction i with
  | zero => simp [opensAfter]
  | succ i ih =>
    have hlt : i < file.length := hi
    have hi' : file[i]? = some file[i] := List.getElem?_eq_getElem hlt
    rw [opensAfter_take_succ hlt]
    split
    · next hopen =>
      rw [Bool.not_eq_true', ← Bool.not_eq_true, h.closesSection_iff hlt]
      constructor
      · intro hclose
        obtain ⟨j, hj, hstandard, hnone⟩ := (ih (by omega)).mp hopen
        refine ⟨j, by omega, hstandard, fun m hm hjm => ?_⟩
        rcases Nat.lt_succ_iff_lt_or_eq.mp hm with hm | rfl
        · exact hnone m hm hjm
        · rw [hi', ne_eq, Option.some.injEq]
          exact hclose
      · rintro ⟨j, hj, hstandard, hnone⟩ hclose
        rcases Nat.lt_succ_iff_lt_or_eq.mp hj with hj | rfl
        · exact hnone i (by omega) hj (hi'.trans (congrArg some hclose))
        · rw [hi', hclose] at hstandard
          exact absurd hstandard (by decide)
    · next hclosed =>
      rw [h.opensStandard_iff hlt]
      constructor
      · intro hline
        exact ⟨i, by omega, hi'.trans (congrArg some hline), by omega⟩
      · rintro ⟨j, hj, hstandard, hnone⟩
        rcases Nat.lt_succ_iff_lt_or_eq.mp hj with hj | rfl
        · exact absurd ((ih (by omega)).mpr ⟨j, hj, hstandard, fun m hm => hnone m (by omega)⟩) hclosed
        · exact Option.some.inj (hi'.symm.trans hstandard)

/-- A line lies between the tags exactly if a standard subsection is open and it does not close it. -/
theorem isBetween_iff (h : IsSectionFile file) (hi : i < file.length) :
    IsBetween file i ↔ opensAfter (file.take i) = true ∧ closesSection file[i] = false := by
  have hi' : file[i]? = some file[i] := List.getElem?_eq_getElem hi
  rw [h.opensAfter_iff (by omega), ← Bool.not_eq_true, h.closesSection_iff hi]
  constructor
  · rintro ⟨j, hj, hstandard, k, hk, hik, hclose, hnone⟩
    refine ⟨⟨j, hj, hstandard, fun m hm hjm => hnone m (by omega) hjm⟩, fun hline => ?_⟩
    exact hnone i hik hj (hi'.trans (congrArg some hline))
  · rintro ⟨⟨j, hj, hstandard, hnone⟩, hline⟩
    -- the section of the standard subsection is closed, and not before this line
    obtain ⟨hj', hstandard'⟩ := List.getElem?_eq_some_iff.mp hstandard
    obtain ⟨-, j', hj'j, -, k, hk, hjk, hclose, hnone'⟩ := h.standard j hj' (hstandard' ▸ by decide)
    have hik : i < k := by
      by_contra hle
      rcases Nat.lt_or_eq_of_le (Nat.le_of_not_lt hle) with hki | rfl
      · exact hnone k hki hjk hclose
      · exact hline (Option.some.inj (hi'.symm.trans hclose))
    exact ⟨j, hj, hstandard, k, hk, hik, hclose, fun m hm hjm => (hnone' m hm (by omega)).2⟩

theorem dropStandard_drop (h : IsSectionFile file) {rest : List (List Char)} (hrest : file.drop i = rest) :
    dropStandard (opensAfter (file.take i)) rest =
      ((rest.zipIdx i).filter fun e => ¬IsBetween file e.2).map Prod.fst := by
  induction rest generalizing i with
  | nil => rfl
  | cons line rest ih =>
    have hi : i < file.length := by
      by_contra hle
      rw [List.drop_eq_nil_of_le (by omega)] at hrest
      cases hrest
    rw [List.drop_eq_getElem_cons hi] at hrest
    obtain ⟨rfl, hdrop⟩ := List.cons.inj hrest
    rw [dropStandard_cons, ← opensAfter_take_succ hi, ih hdrop, List.zipIdx_cons, List.filter_cons]
    by_cases hbetween : IsBetween file i
    · obtain ⟨hopen, hclose⟩ := (h.isBetween_iff hi).mp hbetween
      simp [hbetween, hopen, hclose]
    · have hstays : (opensAfter (file.take i) && !closesSection file[i]) = false := by
        rw [h.isBetween_iff hi] at hbetween
        simpa using hbetween
      simp [hbetween, hstays]

/-- Only lines between the tags of standard subsections are left out at first. -/
theorem dropStandard_eq (h : IsSectionFile file) :
    dropStandard false file = (file.zipIdx.filter fun e => ¬IsBetween file e.2).map Prod.fst :=
  h.dropStandard_drop (i := 0) rfl

/-- A section that is open at the tag of a standard subsection is closed before another one is opened. -/
theorem not_isBetween_of_opening (h : IsSectionFile file) (hopening : file[i]? = some openingTag) :
    ¬IsBetween file i := by
  rintro ⟨j, hj, hstandard, k, hk, hik, hclose, hnone⟩
  obtain ⟨hj', hstandard'⟩ := List.getElem?_eq_some_iff.mp hstandard
  obtain ⟨-, j', hj'j, -, k', hk', hjk', hclose', hnone'⟩ := h.standard j hj' (hstandard' ▸ by decide)
  rcases Nat.lt_trichotomy i k' with hlt | rfl | hgt
  · exact (hnone' i hlt (by omega)).1 hopening
  · rw [hopening] at hclose'
    exact absurd hclose' (by decide)
  · exact hnone k' (by omega) hjk' hclose'

theorem not_isBetween_of_closing (hclosing : file[i]? = some closingTag) : ¬IsBetween file i := by
  rintro ⟨j, hj, hstandard, k, hk, hik, hclose, hnone⟩
  exact hnone i hik hj hclosing

/-- Lines of a section before its standard subsection are not left out with one. -/
theorem not_isBetween_of_before (h : IsSectionFile file) (hji : j < i) (hopening : file[j]? = some openingTag)
    (hbefore : ∀ m, j < m → m < i → file[m]? ≠ some standardTag) : ¬IsBetween file i := by
  rintro ⟨j', hj', hstandard, k, hk, hik, hclose, hnone⟩
  rcases Nat.lt_trichotomy j' j with hlt | rfl | hgt
  · exact h.not_isBetween_of_opening hopening ⟨j', hlt, hstandard, k, hk, by omega, hclose, hnone⟩
  · rw [hopening] at hstandard
    exact absurd hstandard (by decide)
  · exact hbefore j' hgt hj' hstandard

/-! ## Whole files -/

theorem kept_eq (h : IsSectionFile file) (hnul : ∀ line ∈ file, Char.ofNat 0 ∉ line) : kept file = remaining file := by
  have htext : ((dropStandard false file).any fun line => line.contains (Char.ofNat 0)) = false := by
    rw [List.any_eq_false, h.dropStandard_eq]
    intro line hline
    obtain ⟨e, he, rfl⟩ := List.mem_map.mp hline
    rw [List.contains_iff_mem]
    exact hnul _ (List.fst_mem_of_mem_zipIdx (List.mem_of_mem_filter he))
  rw [kept, htext, if_neg (by simp), h.dropStandard_eq, List.filter_map, List.filter_filter, remaining]
  congr 1
  refine List.filter_congr fun e he => ?_
  have hline := h.wholeTags e.1 (List.fst_mem_of_mem_zipIdx he)
  have htag : isSubsectionTag e.1 = decide (IsSubsectionTag e.1) := by
    rw [Bool.eq_iff_iff, hline.isSubsectionTag_iff, decide_eq_true_iff]
  have hcomment : isComment e.1 = decide (e.1.head? = some '#') := by
    rw [Bool.eq_iff_iff, isComment_iff, decide_eq_true_iff]
  simp [htag, hcomment, Bool.and_comm]

/-- All tags of sections stay. -/
theorem filter_remaining (h : IsSectionFile file) :
    (remaining file).filter IsSectionTag = file.filter IsSectionTag := by
  have hall : ∀ e ∈ file.zipIdx, IsSectionTag e.1 →
      ¬IsBetween file e.2 ∧ ¬IsSubsectionTag e.1 ∧ e.1.head? ≠ some '#' := by
    intro e he htag
    have hplace := List.mem_zipIdx_iff_getElem?.mp he
    rcases htag with hopening | hclosing
    · rw [hopening] at hplace ⊢
      exact ⟨h.not_isBetween_of_opening hplace, by decide, by decide⟩
    · rw [hclosing] at hplace ⊢
      exact ⟨not_isBetween_of_closing hplace, by decide, by decide⟩
  have hfilter : file.zipIdx.filter (fun e => IsSectionTag e.1 ∧
      ¬IsBetween file e.2 ∧ ¬IsSubsectionTag e.1 ∧ e.1.head? ≠ some '#') =
        file.zipIdx.filter (fun e => IsSectionTag e.1) := by
    refine List.filter_congr fun e he => ?_
    rw [decide_eq_decide]
    exact and_iff_left_of_imp (hall e he)
  calc (remaining file).filter IsSectionTag
    _ = (file.zipIdx.filter fun e => IsSectionTag e.1).map Prod.fst := by
      rw [remaining, List.filter_map, List.filter_filter, ← hfilter]
      simp
    _ = file.filter IsSectionTag := by
      conv_rhs => rw [← List.zipIdx_map_fst 0 file, List.filter_map]
      rfl

end IsSectionFile

theorem mem_of_mem_lines {text : List Char} {c : Char} (hline : line ∈ lines text) (hc : c ∈ line) : c ∈ text := by
  simp only [lines] at hline
  split at hline
  · exact Text.mem_of_mem_splitChars (List.mem_of_mem_dropLast hline) hc
  · exact Text.mem_of_mem_splitChars hline hc

/-- Lines, each ended by a newline. -/
def ended (lines : List (List Char)) : String := String.ofList (lines.map (· ++ ['\n'])).flatten

theorem convert_eq (text : String) :
    convert text = ended (["<SECTIONS>".toList] ++ kept (lines text.toList) ++ ["</SECTIONS>".toList]) := rfl

/-- A section file is converted line by line: between the tags that enclose it stand, in their order, the lines that lie
between no tag of a standard subsection and the next closing tag, are no tags of subsections, and are no comments. So
all sections stay, opened and closed in turn, with the lines before their standard subsections. -/
theorem convert_keeps_sections (text : String) (hnul : Char.ofNat 0 ∉ text.toList)
    (h : IsSectionFile (lines text.toList)) :
    convert text = ended (["<SECTIONS>".toList] ++ remaining (lines text.toList) ++ ["</SECTIONS>".toList]) ∧
      (remaining (lines text.toList)).filter IsSectionTag = (lines text.toList).filter IsSectionTag ∧
      (closingTag :: (remaining (lines text.toList)).filter IsSectionTag).IsChain (· ≠ ·) ∧
      ∀ i j, j < i → (lines text.toList)[j]? = some openingTag →
        (∀ m, j < m → m < i → (lines text.toList)[m]? ≠ some standardTag) → ¬IsBetween (lines text.toList) i := by
  have hkept : kept (lines text.toList) = remaining (lines text.toList) :=
    h.kept_eq fun line hline hzero => hnul (mem_of_mem_lines hline hzero)
  rw [convert_eq, hkept]
  refine ⟨rfl, h.filter_remaining, ?_, ?_⟩
  · rw [h.filter_remaining]
    exact h.alternate
  · intro i j hji hopening hbefore
    exact h.not_isBetween_of_before hji hopening hbefore

/-- Two sections, the first one with a subsection of its own and a standard subsection. -/
def twoSections : String :=
  "<SECTION>\na\n<SUBSECTION X>\nb\n# c\n<SUBSECTION Standard>\nd\n</SECTION>\n<SECTION>\ne\n</SECTION>"

theorem convert_keeps_sections_standard :
    Char.ofNat 0 ∉ twoSections.toList ∧ IsSectionFile (lines twoSections.toList) ∧
      remaining (lines twoSections.toList) =
        [openingTag, ['a'], ['b'], closingTag, openingTag, ['e'], closingTag] ∧
      convert twoSections =
        ended (["<SECTIONS>".toList] ++ remaining (lines twoSections.toList) ++ ["</SECTIONS>".toList]) := by
  have hfacts : Char.ofNat 0 ∉ twoSections.toList ∧ IsSectionFile (lines twoSections.toList) ∧
      remaining (lines twoSections.toList) =
        [openingTag, ['a'], ['b'], closingTag, openingTag, ['e'], closingTag] := by
    decide +kernel
  obtain ⟨hnul, hfile, hremaining⟩ := hfacts
  exact ⟨hnul, hfile, hremaining, (convert_keeps_sections twoSections hnul hfile).1⟩

end GirDoc.Sections
