import GirDoc.PublicFields

/-!
# The search for public fields

The search goes through a structure line by line, with the marks and the fields that are still to come. Here its
outcome is told from the marks and the fields alone: `isShown` says whether a line is kept in the text, `keptAt`
which field of a line is kept.

* `Reaches` says what the search knows when it comes to a line; `Stalls` says that it has passed a field which shares
  its line with a mark, after which it keeps nothing more.
* `Follows.line` is what one line does, `Follows.lines` what all lines do.

The main statement is `publicFields_eq`, for all marks and fields that stand in order.
-/

namespace GirDoc.PublicFields

variable {φ : Type}

/-! ## Lines and their sections -/

/-- Whether a line is in a public section, as the last mark on a line before it says. Without one it is, unless some
mark opens a public section. -/
def isPublicAt (marks : List Mark) (n : Nat) : Bool :=
  match (marks.filter (·.line < n)).getLast? with
  | some mark => mark.isPublic
  | none => !marks.any Mark.isPublic

/-- Whether a mark stands on a line. -/
def isMarked (marks : List Mark) (n : Nat) : Bool := marks.any (·.line = n)

/-- Whether no field up to a line shares its line with a mark. -/
def isClear (marks : List Mark) (fields : List (φ × Nat)) (n : Nat) : Bool :=
  fields.all fun f => n < f.2 || !isMarked marks f.2

/-- Whether the lines around `n` are kept. After the last field they are, until a mark on a later line says
otherwise. -/
def isOpenAt (marks : List Mark) (fields : List (φ × Nat)) (n : Nat) : Bool :=
  if fields.all (·.2 < n) then
    (marks.filter fun m => m.line < n && fields.all (·.2 < m.line)).getLast?.all Mark.isPublic
  else isPublicAt marks n

/-- Whether a line is kept in the text. Those before the first field are, whatever their section. -/
def isShown (marks : List Mark) (fields : List (φ × Nat)) (n : Nat) : Bool :=
  !isMarked marks n && isClear marks fields n && (isOpenAt marks fields n || fields.all (n < ·.2))

/-- The field that is kept of a line: the first one on it, if it is public. -/
def keptAt (marks : List Mark) (fields : List (φ × Nat)) (n : Nat) : Option φ :=
  if isClear marks fields n && isPublicAt marks n then (fields.find? (·.2 = n)).map Prod.fst else none

variable {marks : List Mark} {fields : List (φ × Nat)} {n : Nat} {s : State φ}

theorem isMarked_iff : isMarked marks n = true ↔ ∃ m ∈ marks, m.line = n := by
  simp [isMarked]

theorem line_ne_of_isMarked (h : isMarked marks n = false) {m : Mark} (hm : m ∈ marks) : m.line ≠ n := by
  intro heq
  rw [isMarked_iff.mpr ⟨m, hm, heq⟩] at h
  cases h

theorem isClear_iff : isClear marks fields n = true ↔ ∀ f ∈ fields, f.2 ≤ n → isMarked marks f.2 = false := by
  simp only [isClear, List.all_eq_true, Bool.or_eq_true, decide_eq_true_eq, Bool.not_eq_true']
  constructor
  · intro h f hf hle
    exact (h f hf).resolve_left (by omega)
  · intro h f hf
    by_cases hle : f.2 ≤ n
    · exact Or.inr (h f hf hle)
    · exact Or.inl (by omega)

/-! ## Lists in order -/

section Ordered

variable {α : Type} {key : α → Nat} {l : List α}

theorem filter_le_eq_cons (h : l.Pairwise (key · < key ·)) {a : α} (ha : a ∈ l) :
    l.filter (key a ≤ key ·) = a :: l.filter (key a < key ·) := by
  induction l with
  | nil => cases ha
  | cons b l ih =>
    rw [List.pairwise_cons] at h
    rcases List.mem_cons.mp ha with rfl | ha
    · have hlater : l.filter (key a ≤ key ·) = l.filter (key a < key ·) :=
        List.filter_congr fun c hc => by
          have := h.1 c hc
          simp only [decide_eq_decide]
          omega
      simp [hlater]
    · have hlt := h.1 a ha
      rw [List.filter_cons_of_neg (by simpa using hlt), List.filter_cons_of_neg (by simp; omega), ih h.2 ha]

theorem filter_le_eq_filter_lt (h : ∀ a ∈ l, key a ≠ n) : l.filter (n ≤ key ·) = l.filter (n < key ·) :=
  List.filter_congr fun a ha => by
    have := h a ha
    simp only [decide_eq_decide]
    omega

theorem all_le_eq_all_lt (h : ∀ a ∈ l, key a ≠ n) : l.all (n ≤ key ·) = l.all (n < key ·) := by
  rw [Bool.eq_iff_iff]
  simp only [List.all_eq_true, decide_eq_true_eq]
  constructor
  · intro hall a ha
    have := hall a ha
    have := h a ha
    omega
  · intro hall a ha
    have := hall a ha
    omega

/-- What is left when the elements of the number reached are passed over. -/
theorem dropWhile_filter_le (h : l.Pairwise (key · ≤ key ·)) :
    (l.filter (n ≤ key ·)).dropWhile (key · = n) = l.filter (n < key ·) := by
  induction l with
  | nil => rfl
  | cons a l ih =>
    rw [List.pairwise_cons] at h
    by_cases hle : n ≤ key a
    · rw [List.filter_cons_of_pos (by simpa using hle)]
      by_cases heq : key a = n
      · rw [List.dropWhile_cons_of_pos (by simpa using heq), List.filter_cons_of_neg (by simp [heq]), ih h.2]
      · rw [List.dropWhile_cons_of_neg (by simpa using heq), List.filter_cons_of_pos (by simp; omega)]
        -- all that follow have larger numbers still
        refine congrArg (a :: ·) (filter_le_eq_filter_lt fun b hb => ?_)
        have := h.1 b hb
        omega
    · rw [List.filter_cons_of_neg (by simpa using hle), List.filter_cons_of_neg (by simp; omega), ih h.2]

/-- The first element from a number on is the first of that number, if there is one. -/
theorem find?_eq_head?_filter_le (h : l.Pairwise (key · ≤ key ·)) {a : α} (ha : a ∈ l) (hkey : key a = n) :
    l.find? (key · = n) = (l.filter (n ≤ key ·)).head? := by
  induction l with
  | nil => cases ha
  | cons b l ih =>
    rw [List.pairwise_cons] at h
    by_cases hle : n ≤ key b
    · have heq : key b = n := by
        rcases List.mem_cons.mp ha with rfl | ha
        · exact hkey
        · have := h.1 a ha
          omega
      rw [List.find?_cons_of_pos (by simpa using heq), List.filter_cons_of_pos (by simpa using hle)]
      rfl
    · have hne : key b ≠ n := by omega
      have ha : a ∈ l := by
        rcases List.mem_cons.mp ha with rfl | ha
        · omega
        · exact ha
      rw [List.find?_cons_of_neg (by simpa using hne), List.filter_cons_of_neg (by simpa using hle), ih h.2 ha]

theorem getLast?_filter_eq_some (h : l.Pairwise (key · < key ·)) {p : α → Bool} {a : α} (ha : a ∈ l)
    (hp : p a = true) (hlast : ∀ b ∈ l, p b = true → key b ≤ key a) : (l.filter p).getLast? = some a := by
  obtain ⟨front, back, rfl⟩ := List.append_of_mem ha
  rw [List.pairwise_append, List.pairwise_cons] at h
  have hback : back.filter p = [] := by
    rw [List.filter_eq_nil_iff]
    intro b hb hpb
    have hlt := h.2.1.1 b hb
    have hle := hlast b (by simp [hb]) hpb
    omega
  rw [List.filter_append, List.filter_cons_of_pos hp, hback, List.getLast?_concat]

end Ordered

/-! ## From one line to the next -/

theorem isPublicAt_succ_of_mark (h : marks.Pairwise (·.line < ·.line)) {m : Mark} (hm : m ∈ marks) :
    isPublicAt marks (m.line + 1) = m.isPublic := by
  have hlast : (marks.filter (·.line < m.line + 1)).getLast? = some m := by
    refine getLast?_filter_eq_some h hm (by simp) ?_
    intro b _ hb
    simpa [Nat.lt_succ_iff] using hb
  rw [isPublicAt, hlast]

theorem isPublicAt_succ (h : isMarked marks n = false) : isPublicAt marks (n + 1) = isPublicAt marks n := by
  have hsame : marks.filter (·.line < n + 1) = marks.filter (·.line < n) := by
    refine List.filter_congr fun m hm => ?_
    have hne := line_ne_of_isMarked h hm
    simp only [decide_eq_decide]
    omega
  rw [isPublicAt, isPublicAt, hsame]

theorem isOpenAt_of_field {f : φ × Nat} (hf : f ∈ fields) (hn : n ≤ f.2) :
    isOpenAt marks fields n = isPublicAt marks n := by
  rw [isOpenAt, if_neg]
  intro hall
  have := List.all_eq_true.mp hall f hf
  rw [decide_eq_true_eq] at this
  omega

/-- A mark decides on the lines after it. -/
theorem isOpenAt_succ_of_mark (h : marks.Pairwise (·.line < ·.line)) {m : Mark} (hm : m ∈ marks)
    (hfields : ∀ f ∈ fields, f.2 ≠ m.line) : isOpenAt marks fields (m.line + 1) = m.isPublic := by
  by_cases hall : fields.all (·.2 < m.line + 1) = true
  · rw [isOpenAt, if_pos hall, getLast?_filter_eq_some h hm, Option.all_some]
    · simp only [List.all_eq_true, Bool.and_eq_true, decide_eq_true_eq] at hall ⊢
      refine ⟨by omega, fun f hf => ?_⟩
      have := hall f hf
      have := hfields f hf
      omega
    · intro b _ hb
      simp only [Bool.and_eq_true, decide_eq_true_eq] at hb
      omega
  · rw [isOpenAt, if_neg hall, isPublicAt_succ_of_mark h hm]

/-- The last field makes all lines after it public. -/
theorem isOpenAt_succ_of_last (hfields : ∀ f ∈ fields, f.2 ≤ n) {f : φ × Nat} (hf : f ∈ fields) (hn : f.2 = n) :
    isOpenAt marks fields (n + 1) = true := by
  have hall : fields.all (·.2 < n + 1) = true := by
    simpa [Nat.lt_succ_iff] using fun a b hab => hfields (a, b) hab
  have hnone : (marks.filter fun m => m.line < n + 1 && fields.all (·.2 < m.line)) = [] := by
    rw [List.filter_eq_nil_iff]
    intro m _ hm
    simp only [Bool.and_eq_true, List.all_eq_true, decide_eq_true_eq] at hm
    have := hm.2 f hf
    omega
  rw [isOpenAt, if_pos hall, hnone]
  rfl

/-- A line without a mark and without a field decides nothing. -/
theorem isOpenAt_succ (h : isMarked marks n = false) (hfields : ∀ f ∈ fields, f.2 ≠ n) :
    isOpenAt marks fields (n + 1) = isOpenAt marks fields n := by
  have hlt : ∀ f ∈ fields, (f.2 < n + 1 ↔ f.2 < n) := by
    intro f hf
    have := hfields f hf
    omega
  have hall : fields.all (·.2 < n + 1) = fields.all (·.2 < n) := by
    rw [Bool.eq_iff_iff]
    simp only [List.all_eq_true, decide_eq_true_eq]
    exact forall₂_congr hlt
  have hmarks : (marks.filter fun m => m.line < n + 1 && fields.all (·.2 < m.line)) =
      marks.filter fun m => m.line < n && fields.all (·.2 < m.line) := by
    refine List.filter_congr fun m hm => ?_
    have hne := line_ne_of_isMarked h hm
    congr 1
    rw [decide_eq_decide]
    omega
  rw [isOpenAt, isOpenAt, hall, hmarks, isPublicAt_succ h]

/-! ## The search at a line -/

/-- What the search knows when it comes to a line, if no field before shares its line with a mark. -/
structure Reaches (marks : List Mark) (fields : List (φ × Nat)) (n : Nat) (s : State φ) : Prop where
  marksLeft : s.marks = marks.filter (n ≤ ·.line)
  fieldsLeft : s.fields = fields.filter (n ≤ ·.2)
  found : s.foundField = !fields.all (n ≤ ·.2)
  isOpen : fields ≠ [] → s.isPublic = isOpenAt marks fields n
  clear : ∀ f ∈ fields, f.2 < n → isMarked marks f.2 = false

/-- The search has passed the line of the next field, which shares it with a mark. -/
structure Stalls (marks : List Mark) (fields : List (φ × Nat)) (n : Nat) (s : State φ) : Prop where
  passed : ∃ f rest, s.fields = f :: rest ∧ f.2 < n
  shared : ∃ f ∈ fields, f.2 < n ∧ isMarked marks f.2 = true

/-- The text with one more line, if that is shown. -/
def State.shows (s : State φ) (isShown : Bool) (content : String) : List String :=
  if isShown then s.text ++ [content] else s.text

/-- What one line adds to what is kept. -/
structure Adds (marks : List Mark) (fields : List (φ × Nat)) (n : Nat) (content : String) (s t : State φ) :
    Prop where
  text : t.text = s.shows (isShown marks fields n) content
  kept : t.kept = s.kept ++ (keptAt marks fields n).toList

section Steps

variable (hmarks : marks.Pairwise (·.line < ·.line)) (hfields : fields.Pairwise (·.2 ≤ ·.2))
  (h : Reaches marks fields n s) (content : String)

include hmarks h in
/-- The line of a mark. -/
theorem Reaches.line_of_mark {m : Mark} (hm : m ∈ marks) (hn : m.line = n) :
    s.line n content = { s with isPublic := m.isPublic, marks := marks.filter (n + 1 ≤ ·.line) } := by
  subst hn
  have hleft : s.marks = m :: marks.filter (m.line + 1 ≤ ·.line) :=
    h.marksLeft.trans (filter_le_eq_cons hmarks hm)
  simp only [State.line, hleft, if_true]

include h in
/-- A line without a mark. -/
theorem Reaches.line_eq_fieldLine (hplain : isMarked marks n = false) :
    s.line n content = s.fieldLine n content := by
  rw [State.line]
  split
  · rfl
  · next mark rest hleft =>
    have hmem : mark ∈ marks.filter (n ≤ ·.line) := h.marksLeft ▸ hleft ▸ List.mem_cons_self
    rw [if_neg (line_ne_of_isMarked hplain (List.mem_filter.mp hmem).1)]

include h in
/-- A line without a field. -/
theorem Reaches.fieldLine_of_none (hnone : ∀ f ∈ fields, f.2 ≠ n) :
    s.fieldLine n content = { s with text := s.shows (s.isPublic || !s.foundField) content } := by
  have hkeep : (if s.isPublic || !s.foundField then { s with text := s.text ++ [content] } else s) =
      { s with text := s.shows (s.isPublic || !s.foundField) content } := by
    rw [State.shows]
    split <;> rfl
  rw [State.fieldLine]
  split
  · exact hkeep
  · next field line rest hleft =>
    have hmem : (field, line) ∈ fields.filter (n ≤ ·.2) := h.fieldsLeft ▸ hleft ▸ List.mem_cons_self
    obtain ⟨hfield, hle⟩ := List.mem_filter.mp hmem
    have hne := hnone _ hfield
    simp only [decide_eq_true_eq] at hle hne
    rw [if_pos (by omega)]
    exact hkeep

include hfields h in
/-- A line with a field. The first field on it counts, and all are passed over. -/
theorem Reaches.fieldLine_of_field {f : φ × Nat} (hf : fields.find? (·.2 = n) = some f) :
    s.fieldLine n content =
      { s with
        foundField := true
        text := s.shows s.isPublic content
        kept := if s.isPublic then s.kept ++ [f.1] else s.kept
        fields := fields.filter (n + 1 ≤ ·.2)
        isPublic := if (fields.filter (n + 1 ≤ ·.2)).isEmpty then true else s.isPublic } := by
  have hline : f.2 = n := by simpa using List.find?_some hf
  have hhead : s.fields.head? = some f := by
    rw [h.fieldsLeft, ← find?_eq_head?_filter_le hfields (List.mem_of_find?_eq_some hf) hline, hf]
  have hrest : s.fields.dropWhile (fun p => p.2 = n) = fields.filter (n + 1 ≤ ·.2) := by
    rw [h.fieldsLeft]
    exact dropWhile_filter_le hfields
  obtain ⟨field, line⟩ := f
  obtain ⟨rest, hleft⟩ := List.head?_eq_some_iff.mp hhead
  simp only at hline
  subst hline
  rw [← hrest]
  simp only [State.fieldLine, hleft, Nat.lt_irrefl, if_false, if_true, State.shows]

include h in
theorem Reaches.isClear (hn : isMarked marks n = false ∨ ∀ f ∈ fields, f.2 ≠ n) :
    isClear marks fields n = true := by
  rw [isClear_iff]
  intro f hf hle
  rcases Nat.lt_or_eq_of_le hle with hlt | heq
  · exact h.clear f hf hlt
  · rcases hn with hn | hn
    · rw [heq]
      exact hn
    · exact absurd heq (hn f hf)

include h in
theorem Reaches.clear_succ (hn : isMarked marks n = false ∨ ∀ f ∈ fields, f.2 ≠ n) :
    ∀ f ∈ fields, f.2 < n + 1 → isMarked marks f.2 = false := by
  intro f hf hlt
  exact isClear_iff.mp (h.isClear hn) f hf (by omega)

include hmarks h in
/-- The search goes on past a mark that has its line for itself. -/
theorem Reaches.step_of_mark {m : Mark} (hm : m ∈ marks) (hn : m.line = n) (hnone : ∀ f ∈ fields, f.2 ≠ n) :
    Reaches marks fields (n + 1) (s.line n content) := by
  rw [h.line_of_mark hmarks content hm hn]
  subst hn
  refine ⟨rfl, ?_, ?_, fun _ => (isOpenAt_succ_of_mark hmarks hm hnone).symm, h.clear_succ (Or.inr hnone)⟩
  · exact h.fieldsLeft.trans (filter_le_eq_filter_lt hnone)
  · exact h.found.trans (congrArg (!·) (all_le_eq_all_lt hnone))

include hmarks hfields h in
/-- The search stalls at a field that shares its line with a mark. -/
theorem Reaches.stalls_of_mark {m : Mark} (hm : m ∈ marks) (hn : m.line = n) {f : φ × Nat} (hf : f ∈ fields)
    (hline : f.2 = n) : Stalls marks fields (n + 1) (s.line n content) := by
  rw [h.line_of_mark hmarks content hm hn]
  refine ⟨?_, f, hf, by omega, isMarked_iff.mpr ⟨m, hm, by omega⟩⟩
  have hhead := find?_eq_head?_filter_le hfields hf hline
  obtain ⟨g, hg⟩ : ∃ g, fields.find? (·.2 = n) = some g :=
    Option.isSome_iff_exists.mp (List.find?_isSome.mpr ⟨f, hf, by simpa using hline⟩)
  rw [hg, eq_comm, List.head?_eq_some_iff] at hhead
  obtain ⟨rest, hrest⟩ := hhead
  have hgline : g.2 = n := by simpa using List.find?_some hg
  exact ⟨g, rest, h.fieldsLeft.trans hrest, by omega⟩

include hmarks h in
/-- Nothing is kept of the line of a mark. -/
theorem Reaches.adds_of_mark {m : Mark} (hm : m ∈ marks) (hn : m.line = n) :
    Adds marks fields n content s (s.line n content) := by
  have hmarked : isMarked marks n = true := isMarked_iff.mpr ⟨m, hm, hn⟩
  rw [h.line_of_mark hmarks content hm hn]
  constructor
  · simp [isShown, hmarked, State.shows]
  · -- a field on the line is not clear of the mark
    have hnone : keptAt marks fields n = none := by
      rw [keptAt]
      split
      · next hclear =>
        rw [Bool.and_eq_true, isClear_iff] at hclear
        rw [Option.map_eq_none_iff, List.find?_eq_none]
        intro f hf hline
        rw [decide_eq_true_eq] at hline
        have hplain := hclear.1 f hf (by omega)
        rw [hline, hmarked] at hplain
        cases hplain
      · rfl
    simp [hnone]

include h in
/-- The search goes on past a line with neither mark nor field. -/
theorem Reaches.step_of_none (hplain : isMarked marks n = false) (hnone : ∀ f ∈ fields, f.2 ≠ n) :
    Reaches marks fields (n + 1) (s.line n content) ∧ Adds marks fields n content s (s.line n content) := by
  rw [h.line_eq_fieldLine content hplain, h.fieldLine_of_none content hnone]
  have hshown : isShown marks fields n = (s.isPublic || !s.foundField) := by
    have hbefore : fields.all (n < ·.2) = !s.foundField := by
      rw [h.found, Bool.not_not, all_le_eq_all_lt hnone]
    rw [isShown, hplain, h.isClear (Or.inl hplain), hbefore]
    by_cases hempty : fields = []
    · subst hempty
      simp [h.found]
    · simp [h.isOpen hempty]
  have hkept : keptAt marks fields n = none := by
    have hfind : fields.find? (·.2 = n) = none := by
      rw [List.find?_eq_none]
      intro f hf
      simpa using hnone f hf
    simp [keptAt, hfind]
  refine ⟨⟨?_, ?_, ?_, ?_, h.clear_succ (Or.inl hplain)⟩, ⟨by rw [hshown], by simp [hkept]⟩⟩
  · exact h.marksLeft.trans (filter_le_eq_filter_lt fun m hm => line_ne_of_isMarked hplain hm)
  · exact h.fieldsLeft.trans (filter_le_eq_filter_lt hnone)
  · exact h.found.trans (congrArg (!·) (all_le_eq_all_lt hnone))
  · intro hne
    rw [isOpenAt_succ hplain hnone]
    exact h.isOpen hne

include hfields h in
/-- The search goes on past a line with a field and no mark. -/
theorem Reaches.step_of_field (hplain : isMarked marks n = false) {f : φ × Nat}
    (hf : fields.find? (·.2 = n) = some f) :
    Reaches marks fields (n + 1) (s.line n content) ∧ Adds marks fields n content s (s.line n content) := by
  have hmem : f ∈ fields := List.mem_of_find?_eq_some hf
  have hline : f.2 = n := by simpa using List.find?_some hf
  have hopen : s.isPublic = isPublicAt marks n := by
    rw [h.isOpen (List.ne_nil_of_mem hmem), isOpenAt_of_field hmem (by omega)]
  rw [h.line_eq_fieldLine content hplain, h.fieldLine_of_field hfields content hf]
  refine ⟨⟨?_, rfl, ?_, ?_, h.clear_succ (Or.inl hplain)⟩, ⟨?_, ?_⟩⟩
  · exact h.marksLeft.trans (filter_le_eq_filter_lt fun m hm => line_ne_of_isMarked hplain hm)
  · have hnot : fields.all (n + 1 ≤ ·.2) = false := by
      rw [List.all_eq_false]
      exact ⟨f, hmem, by simp; omega⟩
    rw [hnot]
    rfl
  · intro _
    show (if (fields.filter (n + 1 ≤ ·.2)).isEmpty = true then true else s.isPublic) = isOpenAt marks fields (n + 1)
    by_cases hlast : fields.filter (n + 1 ≤ ·.2) = []
    · have hle : ∀ g ∈ fields, g.2 ≤ n := by
        intro g hg
        have := List.filter_eq_nil_iff.mp hlast g hg
        simp only [decide_eq_true_eq] at this
        omega
      rw [if_pos (List.isEmpty_iff.mpr hlast), isOpenAt_succ_of_last hle hmem hline]
    · obtain ⟨g, hg⟩ := List.exists_mem_of_ne_nil _ hlast
      obtain ⟨hg, hle⟩ := List.mem_filter.mp hg
      rw [decide_eq_true_eq] at hle
      rw [if_neg fun hempty => hlast (List.isEmpty_iff.mp hempty), hopen, isOpenAt_of_field hg hle,
        isPublicAt_succ hplain]
  · have hnot : fields.all (n < ·.2) = false := by
      rw [List.all_eq_false]
      exact ⟨f, hmem, by simp; omega⟩
    have hshown : isShown marks fields n = s.isPublic := by
      rw [isShown, hplain, h.isClear (Or.inl hplain), hnot, hopen, isOpenAt_of_field hmem (by omega)]
      simp
    rw [hshown]
  · rw [keptAt, h.isClear (Or.inl hplain), hf, hopen]
    cases isPublicAt marks n <;> simp

end Steps

/-- Once the search has stalled it keeps nothing more. -/
theorem Stalls.step (h : Stalls marks fields n s) (content : String) :
    Stalls marks fields (n + 1) (s.line n content) ∧ Adds marks fields n content s (s.line n content) := by
  obtain ⟨⟨f, rest, hleft, hpassed⟩, g, hg, hlt, hmarked⟩ := h
  have hclear : isClear marks fields n = false := by
    rw [← Bool.not_eq_true, isClear_iff]
    intro hclear
    rw [hclear g hg (by omega)] at hmarked
    cases hmarked
  have hsame : s.fieldLine n content = s := by
    rw [State.fieldLine, hleft]
    simp only
    rw [if_neg (by omega), if_neg (by omega)]
  have hline : (s.line n content).fields = s.fields ∧ (s.line n content).text = s.text ∧
      (s.line n content).kept = s.kept := by
    rw [State.line]
    split
    · simp [hsame]
    · split
      · simp
      · simp [hsame]
  obtain ⟨hfields, htext, hkept⟩ := hline
  refine ⟨⟨⟨f, rest, hfields.trans hleft, by omega⟩, g, hg, by omega, hmarked⟩, ⟨?_, ?_⟩⟩
  · simp [htext, isShown, hclear, State.shows]
  · simp [hkept, keptAt, hclear]

/-! ## All lines -/

/-- The search has come to a line, or has stalled before it. -/
def Follows (marks : List Mark) (fields : List (φ × Nat)) (n : Nat) (s : State φ) : Prop :=
  Reaches marks fields n s ∨ Stalls marks fields n s

/-- The search begins at the first line. -/
theorem reaches_start {first : Nat} (hmarks : ∀ m ∈ marks, first ≤ m.line) (hfields : ∀ f ∈ fields, first ≤ f.2) :
    Reaches marks fields first { isPublic := !marks.any Mark.isPublic, marks, fields } where
  marksLeft := by
    rw [eq_comm, List.filter_eq_self]
    simpa using hmarks
  fieldsLeft := by
    rw [eq_comm, List.filter_eq_self]
    intro f hf
    simpa using hfields f hf
  found := by
    have hall : fields.all (first ≤ ·.2) = true := by
      rw [List.all_eq_true]
      intro f hf
      simpa using hfields f hf
    simp [hall]
  isOpen := by
    intro hne
    obtain ⟨f, hf⟩ := List.exists_mem_of_ne_nil _ hne
    have hnone : marks.filter (·.line < first) = [] := by
      rw [List.filter_eq_nil_iff]
      intro m hm
      simpa using hmarks m hm
    rw [isOpenAt_of_field hf (hfields f hf), isPublicAt, hnone]
    rfl
  clear := by
    intro f hf hlt
    have := hfields f hf
    omega

section Lines

variable (hmarks : marks.Pairwise (·.line < ·.line)) (hfields : fields.Pairwise (·.2 ≤ ·.2))

include hmarks hfields

/-- **What one line does**: the search follows, and keeps what the marks and the fields tell. -/
theorem Follows.line (h : Follows marks fields n s) (content : String) :
    Follows marks fields (n + 1) (s.line n content) ∧ Adds marks fields n content s (s.line n content) := by
  rcases h with h | h
  · cases hmarked : isMarked marks n with
    | true =>
      obtain ⟨m, hm, hn⟩ := isMarked_iff.mp hmarked
      refine ⟨?_, h.adds_of_mark hmarks content hm hn⟩
      by_cases hshared : ∃ f ∈ fields, f.2 = n
      · obtain ⟨f, hf, hline⟩ := hshared
        exact Or.inr (h.stalls_of_mark hmarks hfields content hm hn hf hline)
      · exact Or.inl (h.step_of_mark hmarks content hm hn fun f hf hline => hshared ⟨f, hf, hline⟩)
    | false =>
      cases hfind : fields.find? (·.2 = n) with
      | none =>
        have hnone : ∀ f ∈ fields, f.2 ≠ n := by simpa using List.find?_eq_none.mp hfind
        exact (h.step_of_none content hmarked hnone).imp_left Or.inl
      | some f => exact (h.step_of_field hfields content hmarked hfind).imp_left Or.inl
  · exact (h.step content).imp_left Or.inr

/-- **What all lines do**, told from the marks and the fields alone. -/
theorem Follows.lines (h : Follows marks fields n s) (content : List String) :
    (s.lines n content).text =
        s.text ++ ((content.zipIdx n).filter fun p => isShown marks fields p.2).map Prod.fst ∧
      (s.lines n content).kept = s.kept ++ (List.range' n content.length).filterMap (keptAt marks fields) := by
  induction content generalizing n s with
  | nil => simp [State.lines]
  | cons c rest ih =>
    obtain ⟨hnext, hadds⟩ := h.line hmarks hfields c
    obtain ⟨htext, hkept⟩ := ih hnext
    rw [State.lines, htext, hkept, hadds.text, hadds.kept]
    constructor
    · rw [List.zipIdx_cons, List.filter_cons, State.shows]
      cases isShown marks fields n <;> simp
    · rw [List.length_cons, List.range'_succ, List.filterMap_cons]
      cases keptAt marks fields n <;> simp

/-- **The outcome of the search**, for marks and fields that stand in order from the first line on. -/
theorem publicFields_eq {first : Nat} (hne : marks ≠ []) (hmarks' : ∀ m ∈ marks, first ≤ m.line)
    (hfields' : ∀ f ∈ fields, first ≤ f.2) (content : List String) :
    publicFields first content marks fields =
      ("\n".intercalate (((content.zipIdx first).filter fun p => isShown marks fields p.2).map Prod.fst),
        (List.range' first content.length).filterMap (keptAt marks fields)) := by
  have hstart : Follows marks fields first { isPublic := !marks.any Mark.isPublic, marks, fields } :=
    Or.inl (reaches_start hmarks' hfields')
  obtain ⟨htext, hkept⟩ := hstart.lines hmarks hfields content
  have hempty : marks.isEmpty = false := by simpa using hne
  simp only [publicFields, hempty, Bool.false_eq_true, if_false, htext, hkept, List.nil_append]

end Lines

end GirDoc.PublicFields
