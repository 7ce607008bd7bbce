import GirDoc.C.Declaration
import GirDoc.Proofs.Attempt
import GirDoc.Proofs.PublicFields

/-!
# The public part of a structure

Marks cut a structure into public and private sections. If no field shares its line with a mark, the fields that are
kept are the first ones of the public lines (`publicPart_keeps_first_fields`). However the fields stand, nothing of a
private section is shown (`publicPart_hides_private_lines`).
-/

namespace GirDoc.C

open Ast PublicFields Session

/-! ## Structures that marks cut into sections -/

/-- A structure with marks: they stand on increasing lines of it, and its fields in the order of their lines. -/
structure IsSectioned (u : SourceUnit) (node : CursorRef) (marks : List Mark) : Prop where
  located : sectionMarks (u.cursor node).tokens = .ok marks
  marked : marks ≠ []
  increasing : marks.Pairwise (·.line < ·.line)
  marksInside : ∀ m ∈ marks, (u.cursor node).firstLine ≤ m.line ∧ m.line ≤ (u.cursor node).lastLine
  ordered : (u.children node).Pairwise fun c c' => (u.cursor c).line ≤ (u.cursor c').line
  fieldsInside : ∀ c ∈ u.children node,
    (u.cursor node).firstLine ≤ (u.cursor c).line ∧ (u.cursor c).line ≤ (u.cursor node).lastLine

/-- The fields of a structure with their lines. -/
def fieldsOf (u : SourceUnit) (node : CursorRef) : List (CursorRef × Nat) :=
  (u.children node).map fun c => (c, (u.cursor c).line)

/-- The numbers of the lines of a node. -/
def lineNumbers (d : CursorData) : List Nat := List.range' d.firstLine (d.lastLine + 1 - d.firstLine)

theorem length_sourceLines {d : CursorData} {s t : Session} {content : List String}
    (h : (sourceLines d).start s = (.ok content, t)) : content.length = d.lastLine + 1 - d.firstLine := by
  rw [sourceLines] at h
  split at h
  · cases h
    simp
    omega
  · obtain ⟨lines, t₁, -, h⟩ := Attempt.start_bind_eq_ok h
    cases h
    simp [SourceLines.range]

variable {u : SourceUnit} {node : CursorRef} {marks : List Mark} {s t : Session} {content : List String}

theorem find?_fieldsOf (n : Nat) : ((fieldsOf u node).find? (·.2 = n)).map Prod.fst =
    (u.children node).find? fun c => (u.cursor c).line = n := by
  rw [fieldsOf, List.find?_map, Option.map_map]
  exact congrFun Option.map_id _

/-- The public part of a structure with marks, line by line. -/
theorem start_publicPart (h : IsSectioned u node marks)
    (hlines : (sourceLines (u.cursor node)).start s = (.ok content, t)) :
    (publicPart u node).start s =
      (.ok ("\n".intercalate (((content.zipIdx (u.cursor node).firstLine).filter fun p =>
          isShown marks (fieldsOf u node) p.2).map Prod.fst),
        (lineNumbers (u.cursor node)).filterMap (keptAt marks (fieldsOf u node))), t) := by
  have hordered : (fieldsOf u node).Pairwise (·.2 ≤ ·.2) := by
    rw [fieldsOf, List.pairwise_map]
    exact h.ordered
  have hinside : ∀ f ∈ fieldsOf u node, (u.cursor node).firstLine ≤ f.2 := by
    intro f hf
    obtain ⟨c, hc, rfl⟩ := List.mem_map.mp hf
    exact (h.fieldsInside c hc).1
  rw [publicPart, Attempt.start_bind_ok hlines, h.located, Attempt.start_bind_ok (Attempt.start_ofExcept _ _),
    Attempt.start_pure]
  have heq := publicFields_eq h.increasing hordered h.marked (fun m hm => (h.marksInside m hm).1) hinside content
  rw [length_sourceLines hlines] at heq
  exact congrArg (fun r => (Except.ok r, t)) heq

/-- The fields that are kept are public, on lines clear of marks, and first on their lines. -/
theorem mem_kept_iff {c : CursorRef} :
    c ∈ (lineNumbers (u.cursor node)).filterMap (keptAt marks (fieldsOf u node)) ↔
      (u.cursor c).line ∈ lineNumbers (u.cursor node) ∧ isClear marks (fieldsOf u node) (u.cursor c).line = true ∧
        isPublicAt marks (u.cursor c).line = true ∧
          (u.children node).find? (fun c' => (u.cursor c').line = (u.cursor c).line) = some c := by
  have hkept (n : Nat) : keptAt marks (fieldsOf u node) n = some c ↔
      (isClear marks (fieldsOf u node) n = true ∧ isPublicAt marks n = true) ∧
        (u.children node).find? (fun c' => (u.cursor c').line = n) = some c := by
    rw [keptAt, find?_fieldsOf, Option.ite_none_right_eq_some, Bool.and_eq_true]
  rw [List.mem_filterMap]
  constructor
  · rintro ⟨n, hn, h⟩
    obtain ⟨⟨hclear, hpublic⟩, hfind⟩ := (hkept n).mp h
    obtain rfl : (u.cursor c).line = n := by simpa using List.find?_some hfind
    exact ⟨hn, hclear, hpublic, hfind⟩
  · rintro ⟨hn, hclear, hpublic, hfind⟩
    exact ⟨_, hn, (hkept _).mpr ⟨⟨hclear, hpublic⟩, hfind⟩⟩

/-- A field that is kept is public, on a line clear of marks. -/
theorem of_mem_kept {c : CursorRef}
    (hc : c ∈ (lineNumbers (u.cursor node)).filterMap (keptAt marks (fieldsOf u node))) :
    c ∈ u.children node ∧ (u.cursor c).line ∈ lineNumbers (u.cursor node) ∧
      isClear marks (fieldsOf u node) (u.cursor c).line = true ∧ isPublicAt marks (u.cursor c).line = true := by
  obtain ⟨hn, hclear, hpublic, hfind⟩ := mem_kept_iff.mp hc
  exact ⟨List.mem_of_find?_eq_some hfind, hn, hclear, hpublic⟩

theorem mem_fieldsOf {c : CursorRef} (hc : c ∈ u.children node) : (c, (u.cursor c).line) ∈ fieldsOf u node :=
  List.mem_map_of_mem hc

/-- The line of a field is shown only if it is public. -/
theorem isPublicAt_of_isShown {c : CursorRef} (hc : c ∈ u.children node)
    (h : isShown marks (fieldsOf u node) (u.cursor c).line = true) : isPublicAt marks (u.cursor c).line = true := by
  have hfield := mem_fieldsOf hc
  rw [isShown, Bool.and_eq_true, Bool.or_eq_true, isOpenAt_of_field hfield (by simp)] at h
  refine h.2.resolve_right fun hall => ?_
  have := List.all_eq_true.mp hall _ hfield
  simp at this

/-- The line of a public field that is clear of marks is shown. -/
theorem isShown_of_isPublicAt {c : CursorRef} (hc : c ∈ u.children node)
    (hclear : isClear marks (fieldsOf u node) (u.cursor c).line = true)
    (hpublic : isPublicAt marks (u.cursor c).line = true) :
    isShown marks (fieldsOf u node) (u.cursor c).line = true := by
  have hfield := mem_fieldsOf hc
  have hplain : isMarked marks (u.cursor c).line = false := isClear_iff.mp hclear _ hfield (by simp)
  rw [isShown, hplain, hclear, isOpenAt_of_field hfield (by simp), hpublic]
  rfl

/-! ## What is public -/

/-- A structure with two fields on its third line, one on a line from the third to the seventh, and one on the
seventh. -/
def sectionedUnit (line : Nat) : SourceUnit where
  main := "/a.h"
  cursors := #[
    { kind := 2, spelling := "Foo", file := some "/a.h", line := 1, lastLine := 8
      children := [.node 1, .node 2, .node 3, .node 4]
      tokens := [{ kind := 4, spelling := "/*< public >*/", line := 2, column := 3 },
        { kind := 4, spelling := "/*< private >*/", line := 4, column := 3 },
        { kind := 4, spelling := "/*<public>*/", line := 6, column := 3 }] },
    { kind := 6, spelling := "a", file := some "/a.h", line := 3 },
    { kind := 6, spelling := "b", file := some "/a.h", line := 3 },
    { kind := 6, spelling := "c", file := some "/a.h", line },
    { kind := 6, spelling := "d", file := some "/a.h", line := 7 }]

/-- The marks of that structure. -/
def sectionedMarks : List Mark := [⟨true, 2⟩, ⟨false, 4⟩, ⟨true, 6⟩]

theorem isSectioned_sectionedUnit {line : Nat} (hfirst : 3 ≤ line) (hlast : line ≤ 7) :
    IsSectioned (sectionedUnit line) (.node 0) sectionedMarks where
  located := by
    have hmarks : [markOf? "/*< public >*/" 2, markOf? "/*< private >*/" 4, markOf? "/*<public>*/" 6].filterMap id =
        sectionedMarks := by
      decide +kernel
    exact congrArg Except.ok hmarks
  marked := by decide
  increasing := by decide
  marksInside := (by decide : ∀ m ∈ sectionedMarks, 1 ≤ m.line ∧ m.line ≤ 8)
  ordered := by
    show List.Pairwise _ [CursorRef.node 1, .node 2, .node 3, .node 4]
    simp [sectionedUnit, SourceUnit.cursor]
    omega
  fieldsInside := by
    intro c hc
    have hc : c ∈ [CursorRef.node 1, .node 2, .node 3, .node 4] := hc
    simp only [List.mem_cons, List.not_mem_nil, or_false] at hc
    rcases hc with rfl | rfl | rfl | rfl <;> simp [sectionedUnit, SourceUnit.cursor]
    omega

/-- The lines of that structure, with its third field on a line of its own. -/
def sectionedLines : List String :=
  ["struct Foo \x7b", "  /*< public >*/", "  int a, b;", "  /*< private >*/", "  int c;", "  /*<public>*/",
    "  int d;", "\x7d;"]

/-- A session that has read them. -/
def sectionedSession : Session := { environment := {}, quoted := [("/a.h", sectionedLines)] }

theorem start_sourceLines_sectioned (line : Nat) :
    (sourceLines ((sectionedUnit line).cursor (.node 0))).start sectionedSession =
      (.ok sectionedLines, sectionedSession) := by
  have hrange : SourceLines.range sectionedLines 1 8 = sectionedLines := by decide +kernel
  exact congrArg (fun content => (Except.ok content, sectionedSession)) hrange

/-- **The first field of each public line is kept, in the order of the lines**, if no field shares its line with a
mark. -/
theorem publicPart_keeps_first_fields (h : IsSectioned u node marks)
    (hapart : ∀ c ∈ u.children node, isMarked marks (u.cursor c).line = false)
    (hlines : (sourceLines (u.cursor node)).start s = (.ok content, t)) :
    ∃ text, (publicPart u node).start s =
      (.ok (text, ((lineNumbers (u.cursor node)).filter (isPublicAt marks)).filterMap fun n =>
        (u.children node).find? fun c => (u.cursor c).line = n), t) := by
  have hclear (n : Nat) : isClear marks (fieldsOf u node) n = true := by
    rw [isClear_iff]
    intro f hf _
    obtain ⟨c, hc, rfl⟩ := List.mem_map.mp hf
    exact hapart c hc
  have hkept : keptAt marks (fieldsOf u node) = fun n =>
      if isPublicAt marks n then (u.children node).find? fun c => (u.cursor c).line = n else none := by
    funext n
    rw [keptAt, hclear, find?_fieldsOf, Bool.true_and]
  have hstart := start_publicPart h hlines
  rw [hkept, ← List.filterMap_filter] at hstart
  exact ⟨_, hstart⟩

/-- Of two fields on a line the first is kept, and the private one between is not. -/
theorem publicPart_keeps_first_fields_sectioned :
    IsSectioned (sectionedUnit 5) (.node 0) sectionedMarks ∧
    (∀ c ∈ (sectionedUnit 5).children (.node 0),
      isMarked sectionedMarks ((sectionedUnit 5).cursor c).line = false) ∧
    ∃ text, (publicPart (sectionedUnit 5) (.node 0)).start sectionedSession =
      (.ok (text, [.node 1, .node 4]), sectionedSession) := by
  have hapart : ∀ c ∈ (sectionedUnit 5).children (.node 0),
      isMarked sectionedMarks ((sectionedUnit 5).cursor c).line = false := by
    decide +kernel
  have hsectioned := isSectioned_sectionedUnit (by decide : 3 ≤ 5) (by decide)
  obtain ⟨text, hstart⟩ := publicPart_keeps_first_fields hsectioned hapart (start_sourceLines_sectioned 5)
  have hkept : (((lineNumbers ((sectionedUnit 5).cursor (.node 0))).filter (isPublicAt sectionedMarks)).filterMap
      fun n => ((sectionedUnit 5).children (.node 0)).find? fun c => ((sectionedUnit 5).cursor c).line = n) =
        [.node 1, .node 4] := by
    decide +kernel
  rw [hkept] at hstart
  exact ⟨hsectioned, hapart, text, hstart⟩

/-- **Nothing of a private section is shown.** The text is made of lines of the structure; the line of a field in a
private section is not among them and the field is not kept, while the line of every field that is kept is. -/
theorem publicPart_hides_private_lines (h : IsSectioned u node marks)
    (hlines : (sourceLines (u.cursor node)).start s = (.ok content, t)) :
    let shown := (content.zipIdx (u.cursor node).firstLine).filter fun p => isShown marks (fieldsOf u node) p.2
    ∃ kept, (publicPart u node).start s = (.ok ("\n".intercalate (shown.map Prod.fst), kept), t) ∧
      (∀ c ∈ u.children node, isPublicAt marks (u.cursor c).line = false →
        (u.cursor c).line ∉ shown.map Prod.snd ∧ c ∉ kept) ∧
      ∀ c ∈ kept, c ∈ u.children node ∧ (u.cursor c).line ∈ shown.map Prod.snd := by
  intro shown
  refine ⟨_, start_publicPart h hlines, ?_, ?_⟩
  · intro c hc hprivate
    refine ⟨fun hshown => ?_, fun hkept => ?_⟩
    · obtain ⟨p, hp, hline⟩ := List.mem_map.mp hshown
      have hp := (List.mem_filter.mp hp).2
      rw [hline] at hp
      rw [isPublicAt_of_isShown hc hp] at hprivate
      cases hprivate
    · rw [(of_mem_kept hkept).2.2.2] at hprivate
      cases hprivate
  · intro c hkept
    obtain ⟨hc, hinside, hclear, hpublic⟩ := of_mem_kept hkept
    -- the line has a place among the lines of the structure
    have hnumbered : (u.cursor c).line ∈ (content.zipIdx (u.cursor node).firstLine).map Prod.snd := by
      rw [List.zipIdx_map_snd, length_sourceLines hlines]
      exact hinside
    obtain ⟨p, hp, hline⟩ := List.mem_map.mp hnumbered
    refine ⟨hc, List.mem_map.mpr ⟨p, List.mem_filter.mpr ⟨hp, ?_⟩, hline⟩⟩
    rw [hline]
    exact isShown_of_isPublicAt hc hclear hpublic

/-- The private field and its line are not shown. With the field on the line of the mark instead, nothing after it
is shown, be it public or not. -/
theorem publicPart_hides_private_lines_sectioned :
    (IsSectioned (sectionedUnit 5) (.node 0) sectionedMarks ∧ isPublicAt sectionedMarks 5 = false ∧ ∃ kept,
      (publicPart (sectionedUnit 5) (.node 0)).start sectionedSession =
        (.ok ("struct Foo \x7b\n  int a, b;\n  int d;\n\x7d;", kept), sectionedSession) ∧ .node 3 ∉ kept) ∧
    IsSectioned (sectionedUnit 4) (.node 0) sectionedMarks ∧ ∃ kept,
      (publicPart (sectionedUnit 4) (.node 0)).start sectionedSession =
        (.ok ("struct Foo \x7b\n  int a, b;", kept), sectionedSession) := by
  have hapart := isSectioned_sectionedUnit (by decide : 3 ≤ 5) (by decide)
  have hshared := isSectioned_sectionedUnit (by decide : 3 ≤ 4) (by decide)
  have hprivate : isPublicAt sectionedMarks 5 = false := by decide
  obtain ⟨kept, hstart, hhidden, -⟩ := publicPart_hides_private_lines hapart (start_sourceLines_sectioned 5)
  obtain ⟨kept', hstart', -, -⟩ := publicPart_hides_private_lines hshared (start_sourceLines_sectioned 4)
  refine ⟨⟨hapart, hprivate, kept, hstart.trans ?_, ?_⟩, hshared, kept', hstart'.trans ?_⟩
  · refine congrArg (fun text => (Except.ok (text, kept), sectionedSession)) ?_
    decide +kernel
  · exact (hhidden (.node 3) (by decide +kernel) hprivate).2
  · refine congrArg (fun text => (Except.ok (text, kept'), sectionedSession)) ?_
    decide +kernel

end GirDoc.C
