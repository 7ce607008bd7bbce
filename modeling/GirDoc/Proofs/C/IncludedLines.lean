import GirDoc.Proofs.C.Inclusion

/-!
# Which lines of a symbol are included

A range of lines counts from the first line of a symbol, and both of its ends belong to it. One whose end is not above
zero goes to the last line of the symbol. Lines of a source are cut out of it by places that count from zero, up to
before the last one.

* `slice_eq_linesBetween` joins the two ways to count.
* So what is included are the lines of the ranges, and none of them is outside the symbol (`listing_shows_ranges`).
-/

namespace GirDoc.C

open Session

/-! ## Lines and slices -/

/-- The numbers of lines from one to another, both of which belong to them. -/
def numbersBetween (first last : Nat) : List Nat := List.range' first (last + 1 - first)

theorem mem_numbersBetween {first last k : Nat} : k ∈ numbersBetween first last ↔ first ≤ k ∧ k ≤ last := by
  rw [numbersBetween, List.mem_range'_1]
  omega

/-- The lines of a text from one to another. The first line of the text is number one. -/
def linesBetween (lines : List String) (first last : Nat) : List String :=
  (numbersBetween first last).filterMap fun k => lines[k - 1]?

theorem filterMap_range'_getElem? (lines : List String) (i n : Nat) :
    (List.range' (i + 1) n).filterMap (fun k => lines[k - 1]?) = (lines.drop i).take n := by
  induction n generalizing i with
  | zero => simp
  | succ n ih =>
    rw [List.range'_succ, List.filterMap_cons, ih (i + 1), Nat.add_sub_cancel]
    cases hi : lines[i]? with
    | none =>
      have hlength : lines.length ≤ i := List.getElem?_eq_none_iff.mp hi
      rw [List.drop_eq_nil_of_le hlength, List.drop_eq_nil_of_le (Nat.le_succ_of_le hlength)]
      simp
    | some line =>
      obtain ⟨hlt, rfl⟩ := List.getElem?_eq_some_iff.mp hi
      rw [List.drop_eq_getElem_cons hlt]
      rfl

/-- **A slice has the lines from the one after its first place to its last place.** -/
theorem slice_eq_linesBetween {lines : List String} {first last : Nat} (hfirst : 1 ≤ first)
    (hlast : last ≤ lines.length) : Text.slice lines ((first : Int) - 1) last = linesBetween lines first last := by
  obtain ⟨i, rfl⟩ := Nat.exists_eq_add_of_le' hfirst
  have hstart : Text.slicePlace lines.length (((i + 1 : Nat) : Int) - 1) = min i lines.length := by
    rw [Text.slicePlace, if_neg (by omega)]
    congr 1
    omega
  have hstop : Text.slicePlace lines.length (last : Int) = last := by
    rw [Text.slicePlace, if_neg (by omega), Int.toNat_natCast, Nat.min_eq_left hlast]
  rw [Text.slice, hstart, hstop, linesBetween, numbersBetween, filterMap_range'_getElem?]
  rcases Nat.le_total i lines.length with hi | hi
  · rw [Nat.min_eq_left hi, show last + 1 - (i + 1) = last - i by omega]
  · rw [Nat.min_eq_right hi, List.drop_length, List.drop_eq_nil_of_le hi, List.take_nil, List.take_nil]

/-! ## Ranges -/

/-- A range of lines: its first line, counted from the first line of a symbol, and its last one. -/
abbrev LineRange := Nat × Int

namespace LineRange

/-- A range as it is given. -/
def value (r : LineRange) : Value := .list [.int r.1, .int r.2]

/-- The whole of a symbol. -/
def whole : LineRange := (1, -1)

/-- The range begins in a symbol of the lines from `first` to `last`, and goes to one of its lines or to its end. -/
def IsWithin (first last : Nat) (r : LineRange) : Prop :=
  1 ≤ r.1 ∧ ((r.1 : Int) ≤ r.2 ∧ r.2 ≤ (last : Int) - first + 1 ∨ r.2 ≤ 0)

instance (first last : Nat) (r : LineRange) : Decidable (r.IsWithin first last) :=
  inferInstanceAs (Decidable (_ ∧ (_ ∧ _ ∨ _)))

/-- The number of the first line of a range in the source of a symbol that begins at the line `first`. -/
def start (first : Nat) (r : LineRange) : Nat := first + r.1 - 1

/-- The number of the last line of a range in the source of a symbol of the lines from `first` to `last`. -/
def stop (first last : Nat) (r : LineRange) : Nat := if 0 < r.2 then first + r.2.toNat - 1 else last

/-- The numbers of the lines of a range in the source. -/
def numbers (first last : Nat) (r : LineRange) : List Nat := numbersBetween (r.start first) (r.stop first last)

/-- A range within a symbol has no line outside the symbol. -/
theorem mem_numbers_bounds {first last k : Nat} {r : LineRange} (hr : r.IsWithin first last)
    (hk : k ∈ r.numbers first last) : first ≤ k ∧ k ≤ last := by
  obtain ⟨hstart, hstop⟩ := hr
  obtain ⟨hlow, hhigh⟩ := mem_numbersBetween.mp hk
  rw [start] at hlow
  rw [stop] at hhigh
  split at hhigh <;> omega

/-- What a source shows in a range of a symbol. -/
def piece (lines : List String) (first last : Nat) (r : LineRange) : String :=
  "\n".intercalate (linesBetween lines (r.start first) (r.stop first last))

end LineRange

/-- Ranges as they are given; they may be absent. -/
def rangesValue : Option (List LineRange) → Value
  | none => .null
  | some ranges => .list (ranges.map LineRange.value)

/-- The ranges that are meant: no ranges stand for the whole of a symbol. -/
def rangesMeant (ranges : Option (List LineRange)) : List LineRange :=
  match ranges with
  | none | some [] => [.whole]
  | some ranges => ranges

/-- A symbol has the lines from one to another. -/
def HasExtent (x : Symbol) (first last : Nat) : Prop :=
  extentLine x "extent_start" x.extentStart = .ok (.int first) ∧
    extentLine x "extent_end" x.extentEnd = .ok (.int last)

variable {x : Symbol} {first last : Nat} {r : LineRange} {files : FileTree} {path name text : String}
  {ranges : Option (List LineRange)} {s t : Session}

theorem rangeBounds_value (hextent : HasExtent x first last) (r : LineRange) :
    rangeBounds x (.int r.1, .int r.2) =
      .ok (.line (r.1 + first + -2), if 0 < r.2 then .line (r.2 + first + -1) else .line last) := by
  rw [rangeBounds, hextent.1, hextent.2]
  by_cases hstop : 0 < r.2
  · rw [if_pos hstop]
    show (if isPositive (.int r.2) then _ else _) = _
    rw [if_pos (by simpa [isPositive] using hstop)]
    rfl
  · rw [if_neg hstop]
    show (if isPositive (.int r.2) then _ else _) = _
    rw [if_neg (by simpa [isPositive] using hstop)]
    rfl

/-- **What is cut out for a range are its lines.** -/
theorem cutRange_value (hextent : HasExtent x first last) (htext : files.readText path = .ok text) (hfirst : 1 ≤ first)
    (hlast : last ≤ (Text.splitAll '\n' text).length) (hr : r.IsWithin first last) :
    cutRange files x path r.value = .ok (r.piece (Text.splitAll '\n' text) first last) := by
  obtain ⟨hstart, hstop⟩ := hr
  have hslice : cutLines text (.line (r.1 + first + -2), if 0 < r.2 then .line (r.2 + first + -1) else .line last) =
      .ok (r.piece (Text.splitAll '\n' text) first last) := by
    have hplace : ((r.1 : Int) + first + -2) = ((r.start first : Nat) : Int) - 1 := by
      rw [LineRange.start]
      omega
    have hends : r.stop first last ≤ (Text.splitAll '\n' text).length := by
      rw [LineRange.stop]
      split <;> omega
    rw [LineRange.piece, ← slice_eq_linesBetween (by rw [LineRange.start]; omega) hends, ← hplace, LineRange.stop]
    split
    · next hpositive =>
      rw [show ((first + r.2.toNat - 1 : Nat) : Int) = r.2 + first + -1 by omega]
      rfl
    · rfl
  rw [cutRange]
  show (rangeBounds x (.int r.1, .int r.2) >>= _) = _
  rw [rangeBounds_value hextent, htext]
  exact hslice

theorem cutRanges_value (hextent : HasExtent x first last) (htext : files.readText path = .ok text)
    (hfirst : 1 ≤ first) (hlast : last ≤ (Text.splitAll '\n' text).length) {rs : List LineRange}
    (hrs : ∀ r ∈ rs, r.IsWithin first last) : cutRanges files x path (rs.map LineRange.value) =
      .ok ("\n...\n".intercalate (rs.map (LineRange.piece (Text.splitAll '\n' text) first last))) := by
  have hpieces : (rs.map LineRange.value).mapM (cutRange files x path) =
      .ok (rs.map (LineRange.piece (Text.splitAll '\n' text) first last)) := by
    induction rs with
    | nil => rfl
    | cons r rest ih =>
      obtain ⟨hr, hrest⟩ := List.forall_mem_cons.mp hrs
      rw [List.map_cons, List.mapM_cons, cutRange_value hextent htext hfirst hlast hr, ih hrest]
      rfl
  rw [cutRanges, hpieces]
  rfl

/-! ## What is shown -/

/-- The lines that ranges of a symbol show, with a line of dots between two ranges. -/
def shownText (lines : List String) (first last : Nat) (ranges : Option (List LineRange)) : String :=
  "\n...\n".intercalate ((rangesMeant ranges).map (LineRange.piece lines first last))

/-- A text of a source as a page shows it, unless there is nothing in it. -/
def shown? (text : String) : Option Listing := if text = "" then none else some { text, language := "c" }

theorem excerpt_value (hextent : HasExtent x first last) (htext : files.readText path = .ok text)
    (hfirst : 1 ≤ first) (hlast : last ≤ (Text.splitAll '\n' text).length)
    (hranges : ∀ r ∈ rangesMeant ranges, r.IsWithin first last) :
    excerpt files x path (rangesValue ranges) =
      .ok (if (shownText (Text.splitAll '\n' text) first last ranges).isEmpty then none
        else some (shownText (Text.splitAll '\n' text) first last ranges)) := by
  have hcut := cutRanges_value hextent htext hfirst hlast hranges
  have hmeant : excerpt files x path (rangesValue ranges) = (do
      let text ← cutRanges files x path ((rangesMeant ranges).map LineRange.value)
      return if text.isEmpty then none else some text) := by
    rcases ranges with _ | _ | ⟨r, rest⟩ <;> rfl
  rw [hmeant, hcut]
  rfl

theorem Consults.environment_eq {slot : Option Symbol} (h : Consults s path name slot t) :
    t.environment = s.environment := by
  cases h with
  | known => rfl
  | rescanned _ ht =>
    have hsame := leads_rescan allowsTrees_environment path s
    rwa [ht] at hsame

theorem start_listing?_declined (h : ¬ (path.endsWith ".c" = true ∧ name ≠ "")) (ranges : Value) (s : Session) :
    (listing? path ranges name).start s = (.ok none, s) := by
  have hdeclines : (!path.endsWith ".c" || name.isEmpty) = true := by
    by_cases hpath : path.endsWith ".c" = true
    · have hname : name = "" := by
        by_contra hname
        exact h ⟨hpath, hname⟩
      rw [hname]
      simp
    · rw [Bool.not_eq_true] at hpath
      rw [hpath]
      rfl
  rw [listing?, include?, hdeclines]
  rfl

/-- **What a page shows of a symbol are the lines of the ranges**, of which none is outside the symbol: the piece of a
range goes from its first line to its last one, or to the end of the symbol. Nothing is shown if there is no text in
them, for a source of another language, or for no name. -/
theorem listing_shows_ranges (hx : Consults s path name (some x) t) (hextent : HasExtent x first last)
    (htext : s.environment.files.readText path = .ok text) (hfirst : 1 ≤ first)
    (hlast : last ≤ (Text.splitAll '\n' text).length)
    (hranges : ∀ r ∈ rangesMeant ranges, r.IsWithin first last) :
    (listing? path (rangesValue ranges) name).start s =
        (if path.endsWith ".c" = true ∧ name ≠ "" then
          (.ok (shown? (shownText (Text.splitAll '\n' text) first last ranges)), t)
        else (.ok none, s)) ∧
      ∀ r ∈ rangesMeant ranges, ∀ k ∈ r.numbers first last, first ≤ k ∧ k ≤ last := by
  refine ⟨?_, fun r hr k hk => LineRange.mem_numbers_bounds (hranges r hr) hk⟩
  split
  · next hc =>
    rw [← hx.environment_eq] at htext
    have hinclude : (include? path (rangesValue ranges) name).start s =
        (excerpt t.environment.files x path (rangesValue ranges), t) :=
      start_include?_ok hc.1 hc.2 (start_symbolOf? hx)
    rw [excerpt_value hextent htext hfirst hlast hranges] at hinclude
    rw [listing?, Attempt.start_bind_ok hinclude, shown?]
    by_cases hempty : shownText (Text.splitAll '\n' text) first last ranges = ""
    · rw [if_pos hempty, hempty]
      rfl
    · rw [if_neg hempty, if_neg (by simpa using hempty)]
      rfl
  · next hc => exact start_listing?_declined hc _ s

/-- The second line of a function of two lines, and then all of it. The source has more lines. -/
theorem listing_shows_ranges_known :
    (∀ r ∈ rangesMeant (some [(2, 2), (1, -1)]), r.IsWithin 1 2) ∧
    (listing? "/a.c" (rangesValue (some [(2, 2), (1, -1)])) "foo").start (knowing "/a.c") =
      (.ok (some { text := "int b;\n...\nint a;\nint b;", language := "c" }), knowing "/a.c") := by
  have hwithin : ∀ r ∈ rangesMeant (some [(2, 2), (1, -1)]), r.IsWithin 1 2 := by decide
  obtain ⟨hpath, htext, hshown⟩ : "/a.c".endsWith ".c" = true ∧
      (knowing "/a.c").environment.files.readText "/a.c" = .ok "int a;\nint b;\nint c;\n" ∧
      shown? (shownText (Text.splitAll '\n' "int a;\nint b;\nint c;\n") 1 2 (some [(2, 2), (1, -1)])) =
        some { text := "int b;\n...\nint a;\nint b;", language := "c" } := by
    decide +kernel
  have hx : Consults (knowing "/a.c") "/a.c" "foo" _ _ := .known rfl rfl
  refine ⟨hwithin, (listing_shows_ranges hx ⟨rfl, rfl⟩ htext (by decide) (by decide) hwithin).1.trans ?_⟩
  rw [if_pos ⟨hpath, by decide⟩, hshown]

end GirDoc.C
