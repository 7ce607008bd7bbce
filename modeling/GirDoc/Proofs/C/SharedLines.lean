import Mathlib.Data.List.Sort
import GirDoc.Proofs.C.PublicPart

/-!
# Fields that share a line

Marks and fields may share lines, with each other or among themselves. Both have a price:

* A field that shares its line with a mark is never passed, and no field after it is kept, whatever its section
  (`publicPart_keeps_public_fields_iff`).
* Of the fields on one line only the first is kept, even in a structure that is public as a whole. The same structure
  without its marks keeps them all (`publicPart_keeps_all_iff`).
-/

namespace GirDoc.C

open Ast PublicFields Session

variable {u : SourceUnit} {node : CursorRef} {marks : List Mark} {s t : Session} {content : List String}

/-! ## Marks among tokens -/

/-- The mark that a token of a kind is. -/
def tokenMark? (kind : Kind) (token : TokenData) : Option Mark :=
  if kind.name = "COMMENT" then markOf? token.spelling token.line else none

theorem sectionMarks_cons_eq_ok_iff {token : TokenData} {tokens : List TokenData} {marks : List Mark} :
    sectionMarks (token :: tokens) = .ok marks ↔ ∃ kind others, Family.token.kind token.kind = .ok kind ∧
      sectionMarks tokens = .ok others ∧ marks = (tokenMark? kind token).toList ++ others := by
  simp only [sectionMarks, List.mapM_cons]
  cases Family.token.kind token.kind with
  | error e => simp [bind, Except.bind]
  | ok kind =>
    cases tokens.mapM fun t => do
        let kind ← Family.token.kind t.kind
        pure (if kind.name = "COMMENT" then markOf? t.spelling t.line else none) with
    | error e => simp [bind, Except.bind, pure, Except.pure]
    | ok others =>
      simp only [bind, Except.bind, pure, Except.pure, Except.ok.injEq, List.filterMap_cons, id]
      rw [← tokenMark?]
      constructor
      · rintro rfl
        exact ⟨kind, _, rfl, rfl, by cases tokenMark? kind token <;> rfl⟩
      · rintro ⟨_, _, rfl, rfl, rfl⟩
        cases tokenMark? kind token <;> rfl

/-- A comment that is a mark is found. -/
theorem sectionMarks_cons_of_mark {token : TokenData} {tokens : List TokenData} {mark : Mark} {others : List Mark}
    (hkind : token.kind = 4) (hmark : markOf? token.spelling token.line = some mark)
    (h : sectionMarks tokens = .ok others) : sectionMarks (token :: tokens) = .ok (mark :: others) := by
  have hcomment : Family.token.kind 4 = .ok ⟨.token, 4, "COMMENT"⟩ := rfl
  refine sectionMarks_cons_eq_ok_iff.mpr ⟨_, others, hkind ▸ hcomment, h, ?_⟩
  rw [tokenMark?, if_pos rfl, hmark]
  rfl

/-- Without the comments that are marks no mark is found. -/
theorem sectionMarks_filter {tokens : List TokenData} {marks : List Mark} (h : sectionMarks tokens = .ok marks) :
    sectionMarks (tokens.filter fun t => (markOf? t.spelling t.line).isNone) = .ok [] := by
  induction tokens generalizing marks with
  | nil => rfl
  | cons token tokens ih =>
    obtain ⟨kind, others, hkind, hothers, -⟩ := sectionMarks_cons_eq_ok_iff.mp h
    rw [List.filter_cons]
    split
    · next hnone =>
      have hmark : tokenMark? kind token = none := by
        rw [tokenMark?, Option.isNone_iff_eq_none.mp hnone, ite_self]
      refine sectionMarks_cons_eq_ok_iff.mpr ⟨kind, [], hkind, ih hothers, ?_⟩
      rw [hmark]
      rfl
    · exact ih hothers

/-- A unit in which the marks are left out of the tokens of a node. -/
def unmarked (u : SourceUnit) : CursorRef → SourceUnit
  | .node i => { u with cursors := u.cursors.modify i fun d =>
      { d with tokens := d.tokens.filter fun t => (markOf? t.spelling t.line).isNone } }
  | _ => u

theorem cursor_unmarked (u : SourceUnit) (node : CursorRef) : (unmarked u node).cursor node =
    { u.cursor node with tokens := (u.cursor node).tokens.filter fun t => (markOf? t.spelling t.line).isNone } := by
  cases node with
  | null => rfl
  | noDecl => rfl
  | node i =>
    rw [unmarked, SourceUnit.cursor, SourceUnit.cursor, Array.getElem?_modify, if_pos rfl]
    cases u.cursors[i]? <;> rfl

/-- Without marks all fields are kept. -/
theorem start_publicPart_unmarked (hmarks : sectionMarks (u.cursor node).tokens = .ok marks)
    (hlines : (sourceLines (u.cursor node)).start s = (.ok content, t)) :
    (publicPart (unmarked u node) node).start s = (.ok ("\n".intercalate content, u.children node), t) := by
  have hcursor := cursor_unmarked u node
  have hlines' : (sourceLines ((unmarked u node).cursor node)).start s = (.ok content, t) := by
    rw [hcursor]
    exact hlines
  have hnone : sectionMarks ((unmarked u node).cursor node).tokens = .ok [] := by
    rw [hcursor]
    exact sectionMarks_filter hmarks
  have hchildren : (unmarked u node).children node = u.children node := by
    rw [SourceUnit.children, SourceUnit.children, hcursor]
  rw [publicPart, Attempt.start_bind_ok hlines', hnone, Attempt.start_bind_ok (Attempt.start_ofExcept _ _),
    Attempt.start_pure, hchildren, publicFields, List.isEmpty_nil, if_pos rfl, List.map_map]
  exact congrArg (fun fields => (Except.ok ("\n".intercalate content, fields), t)) (List.map_id _)

/-! ## Fields that stand alone -/

/-- A field that stands alone on its line is the first one on it. -/
theorem find?_line_eq_some (h : (u.children node).Pairwise fun c c' => (u.cursor c).line < (u.cursor c').line)
    {c : CursorRef} (hc : c ∈ u.children node) :
    (u.children node).find? (fun c' => (u.cursor c').line = (u.cursor c).line) = some c := by
  obtain ⟨front, back, hsplit⟩ := List.append_of_mem hc
  rw [hsplit, List.pairwise_append] at h
  rw [hsplit, List.find?_append, List.find?_eq_none.mpr, Option.none_or, List.find?_cons_of_pos (by simp)]
  intro c' hc'
  have hlt := h.2.2 c' hc' c List.mem_cons_self
  simp only [decide_eq_true_eq]
  omega

theorem IsSectioned.line_mem (h : IsSectioned u node marks) {c : CursorRef} (hc : c ∈ u.children node) :
    (u.cursor c).line ∈ lineNumbers (u.cursor node) := by
  have hinside := h.fieldsInside c hc
  rw [lineNumbers, List.mem_range'_1]
  omega

/-- If all fields stand alone, those are kept that are public and come before the first one beside a mark. -/
theorem mem_kept_iff_of_alone (h : IsSectioned u node marks)
    (halone : (u.children node).Pairwise fun c c' => (u.cursor c).line < (u.cursor c').line)
    {c : CursorRef} (hc : c ∈ u.children node) :
    c ∈ (lineNumbers (u.cursor node)).filterMap (keptAt marks (fieldsOf u node)) ↔
      isPublicAt marks (u.cursor c).line = true ∧ isClear marks (fieldsOf u node) (u.cursor c).line = true := by
  rw [mem_kept_iff]
  constructor
  · rintro ⟨-, hclear, hpublic, -⟩
    exact ⟨hpublic, hclear⟩
  · rintro ⟨hpublic, hclear⟩
    exact ⟨h.line_mem hc, hclear, hpublic, find?_line_eq_some halone hc⟩

/-! ## Fields beside marks -/

/-- A line after the last mark that opens a public section, with no other mark between the two. -/
def InLastSection (marks : List Mark) (n : Nat) : Prop :=
  ∃ m ∈ marks, m.isPublic = true ∧ m.line < n ∧ (∀ m' ∈ marks, m'.isPublic = true → m'.line ≤ m.line) ∧
    ∀ m' ∈ marks, m'.line < n → m'.line ≤ m.line

theorem isPublicAt_of_inLastSection (hmarks : marks.Pairwise (·.line < ·.line)) {n : Nat}
    (h : InLastSection marks n) : isPublicAt marks n = true := by
  obtain ⟨m, hm, hpublic, hlt, -, hlast⟩ := h
  have hfound : (marks.filter (·.line < n)).getLast? = some m := by
    refine getLast?_filter_eq_some hmarks hm (by simpa using hlt) ?_
    intro m' hm' hlt'
    exact hlast m' hm' (by simpa using hlt')
  rw [isPublicAt, hfound]
  exact hpublic

/-- A structure with three fields on lines of their own. A mark on a given line opens a private section, and one after
the second field opens a public one. -/
def besideUnit (line : Nat) : SourceUnit where
  main := "/a.h"
  cursors := #[
    { kind := 2, spelling := "Foo", file := some "/a.h", line := 1, lastLine := 7
      children := [.node 1, .node 2, .node 3]
      tokens := [{ kind := 4, spelling := "/*< private >*/", line, column := 10 },
        { kind := 4, spelling := "/*< public >*/", line := 5, column := 3 }] },
    { kind := 6, spelling := "a", file := some "/a.h", line := 2 },
    { kind := 6, spelling := "b", file := some "/a.h", line := 4 },
    { kind := 6, spelling := "c", file := some "/a.h", line := 6 }]

/-- The marks of that structure. -/
def besideMarks (line : Nat) : List Mark := [⟨false, line⟩, ⟨true, 5⟩]

theorem isSectioned_besideUnit {line : Nat} (hfirst : 1 ≤ line) (hlast : line < 5) :
    IsSectioned (besideUnit line) (.node 0) (besideMarks line) where
  located := by
    have hprivate : String.join (Text.words "/*< private >*/") = "/*<private>*/" := rfl
    refine sectionMarks_cons_of_mark rfl ?_ (sectionMarks_cons_of_mark rfl rfl rfl)
    rw [markOf?, hprivate]
    rfl
  marked := by simp [besideMarks]
  increasing := by simp [besideMarks, hlast]
  marksInside := by
    simp [besideMarks, besideUnit, SourceUnit.cursor]
    omega
  ordered := by
    show List.Pairwise _ [CursorRef.node 1, .node 2, .node 3]
    simp [besideUnit, SourceUnit.cursor]
  fieldsInside := by
    intro c hc
    have hc : c ∈ [CursorRef.node 1, .node 2, .node 3] := hc
    simp only [List.mem_cons, List.not_mem_nil, or_false] at hc
    rcases hc with rfl | rfl | rfl <;> simp [besideUnit, SourceUnit.cursor]

theorem alone_besideUnit (line : Nat) : ((besideUnit line).children (.node 0)).Pairwise
    fun c c' => ((besideUnit line).cursor c).line < ((besideUnit line).cursor c').line := by
  show List.Pairwise _ [CursorRef.node 1, .node 2, .node 3]
  simp [besideUnit, SourceUnit.cursor]

/-- The lines of that structure, with the mark beside the first field or on the line after it. -/
def besideLines (isBeside : Bool) : List String :=
  ["struct Foo \x7b"] ++ (if isBeside then ["  int a; /*< private >*/", ""] else ["  int a;", "  /*< private >*/"]) ++
    ["  int b;", "  /*< public >*/", "  int c;", "\x7d;"]

/-- A session that has read them. -/
def besideSession (isBeside : Bool) : Session := { environment := {}, quoted := [("/a.h", besideLines isBeside)] }

theorem start_sourceLines_beside (line : Nat) (isBeside : Bool) :
    (sourceLines ((besideUnit line).cursor (.node 0))).start (besideSession isBeside) =
      (.ok (besideLines isBeside), besideSession isBeside) := by
  have hrange : SourceLines.range (besideLines isBeside) 1 7 = besideLines isBeside := by
    cases isBeside <;> rfl
  exact congrArg (fun content => (Except.ok content, besideSession isBeside)) hrange

/-- **A field is kept exactly if it is public and no field up to it shares its line with a mark**, in a structure whose
fields stand each on a line of its own. So in the last public section, where every field is public, a field is kept
unless a field up to it shares its line with a mark. -/
theorem publicPart_keeps_public_fields_iff (h : IsSectioned u node marks)
    (halone : (u.children node).Pairwise fun c c' => (u.cursor c).line < (u.cursor c').line)
    (hlines : (sourceLines (u.cursor node)).start s = (.ok content, t)) :
    ∃ text kept, (publicPart u node).start s = (.ok (text, kept), t) ∧ ∀ c ∈ u.children node,
      (c ∈ kept ↔
        isPublicAt marks (u.cursor c).line = true ∧ isClear marks (fieldsOf u node) (u.cursor c).line = true) ∧
      (InLastSection marks (u.cursor c).line →
        (c ∈ kept ↔ isClear marks (fieldsOf u node) (u.cursor c).line = true)) := by
  refine ⟨_, _, start_publicPart h hlines, fun c hc => ?_⟩
  have hkept := mem_kept_iff_of_alone h halone hc
  refine ⟨hkept, fun hlast => ?_⟩
  rw [hkept, and_iff_right (isPublicAt_of_inLastSection h.increasing hlast)]

/-- The last field is kept if the mark before it has its own line, and is not if the mark stands beside the first
field. -/
theorem publicPart_keeps_public_fields_iff_beside :
    (IsSectioned (besideUnit 3) (.node 0) (besideMarks 3) ∧ InLastSection (besideMarks 3) 6 ∧ ∃ text kept,
      (publicPart (besideUnit 3) (.node 0)).start (besideSession false) = (.ok (text, kept), besideSession false) ∧
        .node 3 ∈ kept) ∧
    IsSectioned (besideUnit 2) (.node 0) (besideMarks 2) ∧ InLastSection (besideMarks 2) 6 ∧ ∃ text kept,
      (publicPart (besideUnit 2) (.node 0)).start (besideSession true) = (.ok (text, kept), besideSession true) ∧
        .node 3 ∉ kept := by
  have hlast (line : Nat) (hline : line < 5) : InLastSection (besideMarks line) 6 :=
    ⟨⟨true, 5⟩, by simp [besideMarks], rfl, by simp, by simp [besideMarks], by simp [besideMarks]; omega⟩
  have hapart := isSectioned_besideUnit (by decide : 1 ≤ 3) (by decide)
  have hbeside := isSectioned_besideUnit (by decide : 1 ≤ 2) (by decide)
  have hmem (line : Nat) : .node 3 ∈ (besideUnit line).children (.node 0) := by
    show CursorRef.node 3 ∈ [CursorRef.node 1, .node 2, .node 3]
    simp
  obtain ⟨text, kept, hstart, hkept⟩ :=
    publicPart_keeps_public_fields_iff hapart (alone_besideUnit 3) (start_sourceLines_beside 3 false)
  obtain ⟨text', kept', hstart', hkept'⟩ :=
    publicPart_keeps_public_fields_iff hbeside (alone_besideUnit 2) (start_sourceLines_beside 2 true)
  refine ⟨⟨hapart, hlast 3 (by decide), text, kept, hstart, ?_⟩,
    hbeside, hlast 2 (by decide), text', kept', hstart', ?_⟩
  · exact ((hkept _ (hmem 3)).2 (hlast 3 (by decide))).mpr rfl
  · rw [(hkept' _ (hmem 2)).2 (hlast 2 (by decide))]
    decide

/-- A mark beside the first field hides a field of the last public section. -/
theorem field_hidden_by_mark_beside :
    IsSectioned (besideUnit 2) (.node 0) (besideMarks 2) ∧
      (((besideUnit 2).children (.node 0)).Pairwise fun c c' =>
        ((besideUnit 2).cursor c).line < ((besideUnit 2).cursor c').line) ∧
      InLastSection (besideMarks 2) ((besideUnit 2).cursor (.node 3)).line ∧
      .node 3 ∈ (besideUnit 2).children (.node 0) ∧
      ∃ text, (publicPart (besideUnit 2) (.node 0)).start (besideSession true) =
        (.ok (text, []), besideSession true) := by
  have hbeside := isSectioned_besideUnit (by decide : 1 ≤ 2) (by decide)
  have hstart := start_publicPart hbeside (start_sourceLines_beside 2 true)
  have hnone : (lineNumbers ((besideUnit 2).cursor (.node 0))).filterMap
      (keptAt (besideMarks 2) (fieldsOf (besideUnit 2) (.node 0))) = [] := rfl
  rw [hnone] at hstart
  refine ⟨hbeside, alone_besideUnit 2, ?_, by decide, _, hstart⟩
  exact ⟨⟨true, 5⟩, by decide, rfl, by decide, by decide, by decide⟩

/-! ## Fields beside fields -/

/-- The fields of a structure with only public marks before them are public, and clear of marks. -/
theorem clear_and_public_of_all_public (h : IsSectioned u node marks) (hpublic : ∀ m ∈ marks, m.isPublic = true)
    (hbefore : ∀ m ∈ marks, ∀ c ∈ u.children node, m.line < (u.cursor c).line) {c : CursorRef}
    (hc : c ∈ u.children node) :
    isClear marks (fieldsOf u node) (u.cursor c).line = true ∧ isPublicAt marks (u.cursor c).line = true := by
  constructor
  · rw [isClear_iff]
    intro f hf _
    obtain ⟨c', hc', rfl⟩ := List.mem_map.mp hf
    rw [← Bool.not_eq_true, isMarked_iff]
    rintro ⟨m, hm, hline⟩
    exact (hbefore m hm c' hc').ne hline
  · have hall : marks.filter (·.line < (u.cursor c).line) = marks := by
      rw [List.filter_eq_self]
      intro m hm
      simpa using hbefore m hm c hc
    rw [isPublicAt, hall, List.getLast?_eq_some_getLast h.marked]
    exact hpublic _ (List.getLast_mem h.marked)

/-- In such a structure the first field of each line is kept. -/
theorem keptAt_of_all_public (h : IsSectioned u node marks) (hpublic : ∀ m ∈ marks, m.isPublic = true)
    (hbefore : ∀ m ∈ marks, ∀ c ∈ u.children node, m.line < (u.cursor c).line) (n : Nat) :
    keptAt marks (fieldsOf u node) n = (u.children node).find? fun c => (u.cursor c).line = n := by
  rw [keptAt, find?_fieldsOf]
  cases hfind : (u.children node).find? fun c => (u.cursor c).line = n with
  | none => exact ite_self _
  | some c =>
    obtain rfl : (u.cursor c).line = n := by simpa using List.find?_some hfind
    obtain ⟨hclear, hopen⟩ := clear_and_public_of_all_public h hpublic hbefore (List.mem_of_find?_eq_some hfind)
    rw [hclear, hopen]
    rfl

/-- The first fields of the lines stand on increasing lines. -/
theorem pairwise_filterMap_find? (u : SourceUnit) (node : CursorRef) :
    ((lineNumbers (u.cursor node)).filterMap fun n => (u.children node).find? fun c => (u.cursor c).line = n).Pairwise
      fun c c' => (u.cursor c).line < (u.cursor c').line := by
  have hnumbers : (lineNumbers (u.cursor node)).Pairwise (· < ·) := List.pairwise_lt_range'
  have hline {n : Nat} {c : CursorRef} (h : (u.children node).find? (fun c => (u.cursor c).line = n) = some c) :
      (u.cursor c).line = n := by
    simpa using List.find?_some h
  rw [List.pairwise_filterMap]
  refine hnumbers.imp fun hlt c hc c' hc' => ?_
  rw [hline hc, hline hc']
  exact hlt

/-- The first fields of the lines are all fields exactly if no two fields share a line. -/
theorem filterMap_find?_eq_children_iff (h : IsSectioned u node marks) :
    ((lineNumbers (u.cursor node)).filterMap fun n => (u.children node).find? fun c => (u.cursor c).line = n) =
        u.children node ↔
      (u.children node).Pairwise fun c c' => (u.cursor c).line ≠ (u.cursor c').line := by
  have hfirst := pairwise_filterMap_find? u node
  constructor
  · intro hall
    rw [hall] at hfirst
    exact hfirst.imp Nat.ne_of_lt
  · intro hne
    have halone : (u.children node).Pairwise fun c c' => (u.cursor c).line < (u.cursor c').line :=
      (h.ordered.and hne).imp fun hlines => Nat.lt_of_le_of_ne hlines.1 hlines.2
    -- both lists stand on increasing lines, so they are equal if they have the same members
    have : Std.Irrefl fun c c' : CursorRef => (u.cursor c).line < (u.cursor c').line := ⟨fun _ => Nat.lt_irrefl _⟩
    have : Std.Antisymm fun c c' : CursorRef => (u.cursor c).line < (u.cursor c').line :=
      ⟨fun _ _ hlt hlt' => absurd hlt' (Nat.lt_asymm hlt)⟩
    refine hfirst.eq_of_mem_iff halone fun c => ?_
    rw [List.mem_filterMap]
    constructor
    · rintro ⟨n, -, hfind⟩
      exact List.mem_of_find?_eq_some hfind
    · intro hc
      exact ⟨_, h.line_mem hc, find?_line_eq_some halone hc⟩

/-- A structure with a mark before its two fields, of which the second stands on a given line. -/
def pairedUnit (line : Nat) : SourceUnit where
  main := "/a.h"
  cursors := #[
    { kind := 2, spelling := "Foo", file := some "/a.h", line := 1, lastLine := 5, children := [.node 1, .node 2]
      tokens := [{ kind := 4, spelling := "/*< public >*/", line := 2, column := 3 }] },
    { kind := 6, spelling := "a", file := some "/a.h", line := 3 },
    { kind := 6, spelling := "b", file := some "/a.h", line }]

theorem isSectioned_pairedUnit {line : Nat} (hfirst : 3 ≤ line) (hlast : line ≤ 5) :
    IsSectioned (pairedUnit line) (.node 0) [⟨true, 2⟩] where
  located := sectionMarks_cons_of_mark rfl rfl rfl
  marked := by decide
  increasing := by decide
  marksInside := by simp [pairedUnit, SourceUnit.cursor]
  ordered := by
    show List.Pairwise _ [CursorRef.node 1, .node 2]
    simpa [pairedUnit, SourceUnit.cursor] using hfirst
  fieldsInside := by
    intro c hc
    have hc : c ∈ [CursorRef.node 1, .node 2] := hc
    simp only [List.mem_cons, List.not_mem_nil, or_false] at hc
    rcases hc with rfl | rfl
    · simp [pairedUnit, SourceUnit.cursor]
    · simp [pairedUnit, SourceUnit.cursor]
      omega

theorem before_pairedUnit {line : Nat} (hfirst : 3 ≤ line) : ∀ m ∈ [Mark.mk true 2],
    ∀ c ∈ (pairedUnit line).children (.node 0), m.line < ((pairedUnit line).cursor c).line := by
  intro m hm c hc
  obtain rfl := List.mem_singleton.mp hm
  have hc : c ∈ [CursorRef.node 1, .node 2] := hc
  simp only [List.mem_cons, List.not_mem_nil, or_false] at hc
  rcases hc with rfl | rfl
  · simp [pairedUnit, SourceUnit.cursor]
  · simp [pairedUnit, SourceUnit.cursor]
    omega

/-- The lines of that structure, with its fields on one line or on two. -/
def pairedLines (isShared : Bool) : List String :=
  ["struct Foo \x7b", "  /*< public >*/"] ++ (if isShared then ["  int a, b;", ""] else ["  int a;", "  int b;"]) ++
    ["\x7d;"]

/-- A session that has read them. -/
def pairedSession (isShared : Bool) : Session := { environment := {}, quoted := [("/a.h", pairedLines isShared)] }

theorem start_sourceLines_paired (line : Nat) (isShared : Bool) :
    (sourceLines ((pairedUnit line).cursor (.node 0))).start (pairedSession isShared) =
      (.ok (pairedLines isShared), pairedSession isShared) := by
  have hrange : SourceLines.range (pairedLines isShared) 1 5 = pairedLines isShared := by
    cases isShared <;> rfl
  exact congrArg (fun content => (Except.ok content, pairedSession isShared)) hrange

/-- **A structure with marks that is public as a whole keeps the first field of each line.** Without its marks it keeps
all fields, so the two agree exactly if no two fields share a line. -/
theorem publicPart_keeps_all_iff (h : IsSectioned u node marks) (hpublic : ∀ m ∈ marks, m.isPublic = true)
    (hbefore : ∀ m ∈ marks, ∀ c ∈ u.children node, m.line < (u.cursor c).line)
    (hlines : (sourceLines (u.cursor node)).start s = (.ok content, t)) :
    ∃ text kept, (publicPart u node).start s = (.ok (text, kept), t) ∧
      (kept = (lineNumbers (u.cursor node)).filterMap fun n =>
        (u.children node).find? fun c => (u.cursor c).line = n) ∧
      (publicPart (unmarked u node) node).start s = (.ok ("\n".intercalate content, u.children node), t) ∧
      (kept = u.children node ↔
        (u.children node).Pairwise fun c c' => (u.cursor c).line ≠ (u.cursor c').line) := by
  have hkept : keptAt marks (fieldsOf u node) = fun n => (u.children node).find? fun c => (u.cursor c).line = n :=
    funext (keptAt_of_all_public h hpublic hbefore)
  have hstart := start_publicPart h hlines
  rw [hkept] at hstart
  exact ⟨_, _, hstart, rfl, start_publicPart_unmarked h.located hlines, filterMap_find?_eq_children_iff h⟩

/-- Both fields are kept if they stand on two lines, and not if they share one. -/
theorem publicPart_keeps_all_iff_paired :
    (IsSectioned (pairedUnit 4) (.node 0) [⟨true, 2⟩] ∧ ∃ text,
      (publicPart (pairedUnit 4) (.node 0)).start (pairedSession false) =
        (.ok (text, [.node 1, .node 2]), pairedSession false)) ∧
    IsSectioned (pairedUnit 3) (.node 0) [⟨true, 2⟩] ∧ ∃ text kept,
      (publicPart (pairedUnit 3) (.node 0)).start (pairedSession true) = (.ok (text, kept), pairedSession true) ∧
        kept ≠ [.node 1, .node 2] := by
  have hapart := isSectioned_pairedUnit (by decide : 3 ≤ 4) (by decide)
  have hshared := isSectioned_pairedUnit (by decide : 3 ≤ 3) (by decide)
  obtain ⟨text, kept, hstart, -, -, hkept⟩ :=
    publicPart_keeps_all_iff hapart (by simp) (before_pairedUnit (by decide)) (start_sourceLines_paired 4 false)
  obtain ⟨text', kept', hstart', -, -, hkept'⟩ :=
    publicPart_keeps_all_iff hshared (by simp) (before_pairedUnit (by decide)) (start_sourceLines_paired 3 true)
  have hall : kept = [.node 1, .node 2] := by
    refine hkept.mpr ?_
    show List.Pairwise _ [CursorRef.node 1, .node 2]
    simp [pairedUnit, SourceUnit.cursor]
  refine ⟨⟨hapart, text, hall ▸ hstart⟩, hshared, text', kept', hstart', fun hall' => ?_⟩
  have hapart' : List.Pairwise _ [CursorRef.node 1, .node 2] := hkept'.mp hall'
  simp [pairedUnit, SourceUnit.cursor] at hapart'

/-- Of two fields on one line the second is lost, though the structure without its mark keeps both. -/
theorem field_hidden_by_field_beside :
    IsSectioned (pairedUnit 3) (.node 0) [⟨true, 2⟩] ∧
      (∀ m ∈ [Mark.mk true 2], ∀ c ∈ (pairedUnit 3).children (.node 0),
        m.line < ((pairedUnit 3).cursor c).line) ∧
      (∃ text, (publicPart (pairedUnit 3) (.node 0)).start (pairedSession true) =
        (.ok (text, [.node 1]), pairedSession true)) ∧
      ∃ text, (publicPart (unmarked (pairedUnit 3) (.node 0)) (.node 0)).start (pairedSession true) =
        (.ok (text, [.node 1, .node 2]), pairedSession true) := by
  have hshared := isSectioned_pairedUnit (by decide : 3 ≤ 3) (by decide)
  have hstart := start_publicPart hshared (start_sourceLines_paired 3 true)
  have hkept : (lineNumbers ((pairedUnit 3).cursor (.node 0))).filterMap
      (keptAt [⟨true, 2⟩] (fieldsOf (pairedUnit 3) (.node 0))) = [.node 1] := rfl
  rw [hkept] at hstart
  exact ⟨hshared, before_pairedUnit (by decide), ⟨_, hstart⟩, _,
    start_publicPart_unmarked hshared.located (start_sourceLines_paired 3 true)⟩

end GirDoc.C
