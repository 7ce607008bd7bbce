import Mathlib.Data.List.Perm.Subperm
import Mathlib.Data.List.Nodup
import GirDoc.TypeName
import GirDoc.Proofs.Attempt

/-!
# Pointers and their qualifiers

A pointer is written after what it points to. So the tokens of a type are those of the base that its pointers lead to,
and then a star and the qualifiers of each pointer, the innermost first.

* `PointsTo u t levels base` says that pointers lead from `t` to `base`, which is no pointer. Such a way meets no type
  twice, so the bound on the depth of types is never met (`PointsTo.length_le`).
* `IsBase u t w` says how a type that is no pointer is written.
* No token of a base is a star, so the stars cut the tokens of a type into those of the base and those of each pointer
  (`eq_of_starred`). Hence the qualifiers of the pointers can be read off (`pointers_written`).
* The qualifiers of the base can be read off if its kind is that of other names, but not if it is unexposed
  (`base_qualifiers_written_iff`).
-/

namespace GirDoc.TypeName

open Ast

variable {u u' : SourceUnit} {t t' base base' : TypeRef} {levels levels' : List TypeRef} {kind : Nat} {d : CursorRef}

/-! ## Chains of pointers -/

/-- Pointers lead from a type to one that is no pointer. The pointers are listed from the outermost one on. -/
inductive PointsTo (u : SourceUnit) : TypeRef → List TypeRef → TypeRef → Prop where
  | here {t : TypeRef} {kind : Nat} (hkind : u.typeKind t = .ok kind) (hne : kind ≠ pointerKind) : PointsTo u t [] t
  | down {t base : TypeRef} {levels : List TypeRef} (hkind : u.typeKind t = .ok pointerKind)
      (rest : PointsTo u (u.type t).pointee levels base) : PointsTo u t (t :: levels) base

theorem PointsTo.unique (h : PointsTo u t levels base) (h' : PointsTo u t levels' base') : levels = levels' := by
  induction h generalizing levels' with
  | here hkind hne =>
    cases h' with
    | here => rfl
    | down hkind' => exact absurd (Except.ok.inj (hkind.symm.trans hkind')) hne
  | down hkind rest ih =>
    cases h' with
    | here hkind' hne => exact absurd (Except.ok.inj (hkind'.symm.trans hkind)) hne
    | down _ rest' => rw [ih rest']

theorem PointsTo.base_kind (h : PointsTo u t levels base) :
    ∃ kind, u.typeKind base = .ok kind ∧ kind ≠ pointerKind := by
  induction h with
  | here hkind hne => exact ⟨_, hkind, hne⟩
  | down _ _ ih => exact ih

/-- The way goes on from every pointer on it, and is then no longer. -/
theorem PointsTo.of_mem (h : PointsTo u t levels base) {r : TypeRef} (hr : r ∈ levels) :
    u.typeKind r = .ok pointerKind ∧ ∃ rest, rest.length ≤ levels.length ∧ PointsTo u r rest base := by
  induction h with
  | here => cases hr
  | down hkind rest ih =>
    rcases List.mem_cons.mp hr with rfl | hr
    · exact ⟨hkind, _, Nat.le_refl _, .down hkind rest⟩
    · obtain ⟨hpointer, way, hlength, hway⟩ := ih hr
      exact ⟨hpointer, way, Nat.le_succ_of_le hlength, hway⟩

/-- A way that ends meets no pointer twice. -/
theorem PointsTo.nodup (h : PointsTo u t levels base) : levels.Nodup := by
  induction h with
  | here => exact List.nodup_nil
  | down hkind rest ih =>
    refine List.nodup_cons.mpr ⟨fun hmem => ?_, ih⟩
    obtain ⟨-, way, hlength, hway⟩ := rest.of_mem hmem
    -- the way from the pointer met again is too short to be the way from the pointer
    have hsame := congrArg List.length ((PointsTo.down hkind rest).unique hway)
    rw [List.length_cons] at hsame
    omega

theorem exists_index_of_pointer (h : u.typeKind t = .ok pointerKind) : ∃ i, i < u.types.size ∧ t = .type i := by
  cases t with
  | invalid => cases h
  | type i =>
    refine ⟨i, ?_, rfl⟩
    by_contra hge
    rw [SourceUnit.typeKind, SourceUnit.type, Array.getElem?_eq_none (Nat.le_of_not_lt hge)] at h
    cases h

/-- There are no more pointers on a way that ends than there are types. -/
theorem PointsTo.length_le (h : PointsTo u t levels base) : levels.length ≤ u.types.size := by
  have hsub : levels ⊆ (List.range u.types.size).map TypeRef.type := by
    intro r hr
    obtain ⟨i, hi, rfl⟩ := exists_index_of_pointer (h.of_mem hr).1
    exact List.mem_map_of_mem (List.mem_range.mpr hi)
  simpa using (List.subperm_of_subset h.nodup hsub).length_le

/-! ## Written bases -/

/-- How a type that is no pointer is written: by its declaration if it is another name or unexposed, else as it is
spelled. -/
inductive IsBase (u : SourceUnit) (t : TypeRef) : List TypeToken → Prop where
  | otherName {d : CursorRef} (hkind : u.typeKind t = .ok typedefKind) (hd : u.declaration? t = some d) :
      IsBase u t (qualifiers (u.type t) ++ [declarationLink (u.cursor d)])
  | named {d : CursorRef} {kind : Nat} (hkind : u.typeKind t = .ok unexposedKind) (hd : u.declaration? t = some d)
      (htag : u.cursorKind d = .ok kind) (hname : (u.cursor d).spelling ≠ "") :
      IsBase u t (tagKeyword kind ++ [declarationLink (u.cursor d)])
  | unnamed {d : CursorRef} {kind : Nat} (hkind : u.typeKind t = .ok unexposedKind) (hd : u.declaration? t = some d)
      (htag : u.cursorKind d = .ok kind) (hname : (u.cursor d).spelling = "") :
      IsBase u t (tagKeyword kind ++ [.text "__UNKNOWN__"])
  | spelled {kind : Nat} (hkind : u.typeKind t = .ok kind) (hpointer : kind ≠ pointerKind) (hother : kind ≠ typedefKind)
      (hunexposed : kind ≠ unexposedKind) : IsBase u t [.text ((u.type t).spelling ++ " ")]

theorem declaration_eq_ok_iff : u.declaration t = .ok d ↔ u.declaration? t = some d := by
  unfold SourceUnit.declaration
  cases u.declaration? t <;> simp

theorem baseTokens_of_isBase {w : List TypeToken} (h : IsBase u t w) : baseTokens u t = .ok w := by
  cases h with
  | otherName hkind hd => simp [baseTokens, hkind, declaration_eq_ok_iff.mpr hd, bind, Except.bind, pure, Except.pure]
  | named hkind hd htag hname =>
    simp [baseTokens, hkind, declaration_eq_ok_iff.mpr hd, htag, hname, unexposedKind, typedefKind, bind, Except.bind,
      pure, Except.pure]
  | unnamed hkind hd htag hname =>
    simp [baseTokens, hkind, declaration_eq_ok_iff.mpr hd, htag, hname, unexposedKind, typedefKind, bind, Except.bind,
      pure, Except.pure]
  | spelled hkind _ hother hunexposed =>
    simp [baseTokens, hkind, hother, hunexposed, bind, Except.bind, pure, Except.pure]

theorem isBase_of_baseTokens {w : List TypeToken} (hkind : u.typeKind t = .ok kind) (hpointer : kind ≠ pointerKind)
    (h : baseTokens u t = .ok w) : IsBase u t w := by
  obtain ⟨kind', hkind', h⟩ := Attempt.exists_of_bind_eq_ok h
  obtain rfl := Except.ok.inj (hkind.symm.trans hkind')
  dsimp only at h
  split at h
  · rename_i hother
    subst hother
    obtain ⟨d, hd, h⟩ := Attempt.exists_of_bind_eq_ok h
    cases h
    exact .otherName hkind (declaration_eq_ok_iff.mp hd)
  split at h
  · rename_i hunexposed
    subst hunexposed
    obtain ⟨d, hd, h⟩ := Attempt.exists_of_bind_eq_ok h
    obtain ⟨tag, htag, h⟩ := Attempt.exists_of_bind_eq_ok h
    cases h
    by_cases hname : (u.cursor d).spelling = ""
    · simpa [hname] using IsBase.unnamed hkind (declaration_eq_ok_iff.mp hd) htag hname
    · simpa [hname] using IsBase.named hkind (declaration_eq_ok_iff.mp hd) htag hname
  · cases h
    exact .spelled hkind hpointer (by assumption) (by assumption)

/-! ## Written pointers -/

/-- A pointer as it is written after what it points to. -/
def level (u : SourceUnit) (t : TypeRef) : List TypeToken := .text "*" :: qualifiers (u.type t)

/-- The pointers on a way, as they are written: the innermost one first. -/
def pointersWritten (u : SourceUnit) (levels : List TypeRef) : List TypeToken := levels.reverse.flatMap (level u)

theorem pointersWritten_cons (u : SourceUnit) (t : TypeRef) (levels : List TypeRef) :
    pointersWritten u (t :: levels) = pointersWritten u levels ++ level u t := by
  simp [pointersWritten, List.flatMap_append]

theorem PointsTo.tokensWithin_eq (h : PointsTo u t levels base) {depth : Nat} (hdepth : levels.length < depth) :
    tokensWithin u depth t = (baseTokens u base).map (· ++ pointersWritten u levels) := by
  induction h generalizing depth with
  | @here t kind hkind hne =>
    obtain ⟨depth, rfl⟩ := Nat.exists_eq_succ_of_ne_zero (Nat.ne_of_gt hdepth)
    rw [tokensWithin, hkind]
    show (if kind = pointerKind then _ else baseTokens u t) = _
    rw [if_neg hne]
    cases baseTokens u t <;> simp [Except.map, pointersWritten]
  | @down t base levels hkind rest ih =>
    obtain ⟨depth, rfl⟩ := Nat.exists_eq_succ_of_ne_zero (Nat.ne_of_gt (Nat.zero_lt_of_lt hdepth))
    rw [tokensWithin, hkind]
    show (tokensWithin u depth (u.type t).pointee >>= fun pointee => pure (pointee ++ level u t)) = _
    rw [ih (Nat.lt_of_succ_lt_succ hdepth)]
    cases baseTokens u base <;> simp [Except.map, pointersWritten_cons, bind, Except.bind, pure, Except.pure]

/-- A type is written exactly if the base is that its pointers lead to: first the base, then the pointers. -/
theorem PointsTo.tokens_eq_ok_iff (h : PointsTo u t levels base) {l : List TypeToken} :
    tokens u t = .ok l ↔ ∃ w, IsBase u base w ∧ l = w ++ pointersWritten u levels := by
  rw [tokens, h.tokensWithin_eq (Nat.lt_succ_of_le h.length_le)]
  constructor
  · intro hl
    obtain ⟨kind, hkind, hne⟩ := h.base_kind
    cases hw : baseTokens u base with
    | error e =>
      rw [hw] at hl
      cases hl
    | ok w =>
      rw [hw] at hl
      cases hl
      exact ⟨w, isBase_of_baseTokens hkind hne hw, rfl⟩
  · rintro ⟨w, hw, rfl⟩
    rw [baseTokens_of_isBase hw]
    rfl

/-! ## Reading qualifiers off -/

/-- Which qualifiers a type has. -/
structure Qualification where
  isConst : Bool
  isRestrict : Bool
  isVolatile : Bool
  deriving DecidableEq

/-- The qualifiers of a type. -/
def qualification (u : SourceUnit) (t : TypeRef) : Qualification :=
  ⟨(u.type t).isConst, (u.type t).isRestrict, (u.type t).isVolatile⟩

/-- The qualifiers of a type can be read off its tokens. -/
theorem qualifiers_eq_iff :
    qualifiers (u.type t) = qualifiers (u'.type t') ↔ qualification u t = qualification u' t' := by
  unfold qualifiers qualification
  cases (u.type t).isConst <;> cases (u.type t).isRestrict <;> cases (u.type t).isVolatile <;>
    cases (u'.type t').isConst <;> cases (u'.type t').isRestrict <;> cases (u'.type t').isVolatile <;> simp

theorem star_notMem_qualifiers (type : TypeData) : TypeToken.text "*" ∉ qualifiers type := by
  unfold qualifiers
  cases type.isConst <;> cases type.isRestrict <;> cases type.isVolatile <;> simp

theorem star_notMem_tagKeyword (kind : Nat) : TypeToken.text "*" ∉ tagKeyword kind := by
  unfold tagKeyword
  split
  · simp
  split <;> simp

/-- No token of a base is a star: what is spelled ends in a blank. -/
theorem IsBase.star_notMem {w : List TypeToken} (h : IsBase u t w) : TypeToken.text "*" ∉ w := by
  cases h with
  | otherName => simp [star_notMem_qualifiers, declarationLink]
  | named => simp [star_notMem_tagKeyword, declarationLink]
  | unnamed => simp [star_notMem_tagKeyword]
  | spelled =>
    intro hmem
    rw [List.mem_singleton, TypeToken.text.injEq] at hmem
    have hlast := congrArg (fun s => s.toList.getLast?) hmem
    simp at hlast

/-- What comes before the first star can be read off, and what comes after it. -/
theorem eq_of_append_star {w w' r r' : List TypeToken} (hw : TypeToken.text "*" ∉ w) (hw' : TypeToken.text "*" ∉ w')
    (h : w ++ .text "*" :: r = w' ++ .text "*" :: r') : w = w' ∧ r = r' := by
  induction w generalizing w' with
  | nil =>
    cases w' with
    | nil => simpa using h
    | cons x rest =>
      simp only [List.nil_append, List.cons_append, List.cons.injEq] at h
      exact absurd (h.1 ▸ List.mem_cons_self) hw'
  | cons x rest ih =>
    cases w' with
    | nil =>
      simp only [List.nil_append, List.cons_append, List.cons.injEq] at h
      exact absurd (h.1 ▸ List.mem_cons_self) hw
    | cons x' rest' =>
      simp only [List.cons_append, List.cons.injEq] at h
      obtain ⟨rfl, h⟩ := h
      obtain ⟨rfl, hr⟩ := ih (fun hmem => hw (List.mem_cons_of_mem _ hmem))
        (fun hmem => hw' (List.mem_cons_of_mem _ hmem)) h
      exact ⟨rfl, hr⟩

/-- The base and the qualifiers of all pointers can be read off. -/
theorem eq_of_starred {w w' : List TypeToken} (hw : TypeToken.text "*" ∉ w) (hw' : TypeToken.text "*" ∉ w')
    (h : w ++ levels.flatMap (level u) = w' ++ levels'.flatMap (level u')) :
    w = w' ∧ levels.map (qualification u) = levels'.map (qualification u') := by
  induction levels generalizing w w' levels' with
  | nil =>
    cases levels' with
    | nil => simpa using h
    | cons r rest =>
      rw [List.flatMap_nil, List.append_nil] at h
      exact absurd (by simp [h, level]) hw
  | cons r rest ih =>
    cases levels' with
    | nil =>
      rw [List.flatMap_nil, List.append_nil] at h
      exact absurd (by simp [← h, level]) hw'
    | cons r' rest' =>
      rw [List.flatMap_cons, List.flatMap_cons, level, level, List.cons_append, List.cons_append] at h
      obtain ⟨rfl, hlevels⟩ := eq_of_append_star hw hw' h
      -- the qualifiers of a pointer stand between its star and the next one, as a base does before the first
      obtain ⟨hqualifiers, hrest⟩ := ih (star_notMem_qualifiers _) (star_notMem_qualifiers _) hlevels
      rw [List.map_cons, List.map_cons, qualifiers_eq_iff.mp hqualifiers, hrest]
      exact ⟨rfl, rfl⟩

/-! ## What is written of a type -/

/-- A type that is written by its declaration has one, of a known kind if the kind is written too. -/
structure IsDeclared (u : SourceUnit) (t : TypeRef) : Prop where
  otherName : u.typeKind t = .ok typedefKind → ∃ d, u.declaration? t = some d
  unexposed : u.typeKind t = .ok unexposedKind → ∃ d kind, u.declaration? t = some d ∧ u.cursorKind d = .ok kind

theorem exists_isBase (hkind : u.typeKind t = .ok kind) (hpointer : kind ≠ pointerKind) (h : IsDeclared u t) :
    ∃ w, IsBase u t w := by
  by_cases hother : kind = typedefKind
  · subst hother
    obtain ⟨d, hd⟩ := h.otherName hkind
    exact ⟨_, .otherName hkind hd⟩
  by_cases hunexposed : kind = unexposedKind
  · subst hunexposed
    obtain ⟨d, tag, hd, htag⟩ := h.unexposed hkind
    by_cases hname : (u.cursor d).spelling = ""
    · exact ⟨_, .unnamed hkind hd htag hname⟩
    · exact ⟨_, .named hkind hd htag hname⟩
  · exact ⟨_, .spelled hkind hpointer hother hunexposed⟩

/-- **Pointers are written from the innermost to the outermost, each with a star and then its qualifiers.** A type is
written if the base that its pointers lead to has the declaration that it is written by: first the base, then the
pointers. Types that are written with the same tokens have the same number of pointers, with the same qualifiers
each. -/
theorem pointers_written (h : PointsTo u t levels base) :
    (IsDeclared u base → ∃ l, tokens u t = .ok l) ∧
    (∀ l, tokens u t = .ok l ↔ ∃ w, IsBase u base w ∧ l = w ++ pointersWritten u levels) ∧
    ∀ (u' : SourceUnit) (t' base' : TypeRef) (levels' : List TypeRef) (l : List TypeToken),
      PointsTo u' t' levels' base' → tokens u t = .ok l → tokens u' t' = .ok l →
        levels.map (qualification u) = levels'.map (qualification u') := by
  refine ⟨fun hdeclared => ?_, fun l => h.tokens_eq_ok_iff, ?_⟩
  · obtain ⟨kind, hkind, hne⟩ := h.base_kind
    obtain ⟨w, hw⟩ := exists_isBase hkind hne hdeclared
    exact ⟨_, h.tokens_eq_ok_iff.mpr ⟨w, hw, rfl⟩⟩
  · intro u' t' base' levels' l h' hl hl'
    obtain ⟨w, hw, rfl⟩ := h.tokens_eq_ok_iff.mp hl
    obtain ⟨w', hw', heq⟩ := h'.tokens_eq_ok_iff.mp hl'
    have hreversed := (eq_of_starred hw.star_notMem hw'.star_notMem heq).2
    rw [List.map_reverse, List.map_reverse] at hreversed
    exact List.reverse_injective hreversed

/-- Pointers to a structure, with and without qualifiers, by its tag and by another name. -/
def qualifiedUnit : SourceUnit where
  main := "/a.h"
  cursors := #[{ kind := 2, spelling := "Foo" }, { kind := 20, spelling := "Bar" }]
  types := #[
    { kind := 101, isConst := true, isVolatile := true, pointee := .type 1 },
    { kind := 101, isRestrict := true, pointee := .type 2 },
    { kind := 1, spelling := "const struct Foo", isConst := true, declaration := .node 0 },
    { kind := 101, pointee := .type 2 },
    { kind := 101, pointee := .type 5 },
    { kind := 1, spelling := "struct Foo", declaration := .node 0 },
    { kind := 101, pointee := .type 7 },
    { kind := 107, spelling := "const Bar", isConst := true, declaration := .node 1 },
    { kind := 101, pointee := .type 9 },
    { kind := 107, spelling := "Bar", declaration := .node 1 }]

/-- A pointer with two qualifiers to a pointer with one. -/
theorem pointers_written_twice :
    PointsTo qualifiedUnit (.type 0) [.type 0, .type 1] (.type 2) ∧ IsDeclared qualifiedUnit (.type 2) ∧
    tokens qualifiedUnit (.type 0) = .ok [.text "struct ", .link (Link.named (some "Foo")),
      .text "*", .text "restrict ", .text "*", .text "volatile ", .text "const "] := by
  have hway : PointsTo qualifiedUnit (.type 0) [.type 0, .type 1] (.type 2) :=
    .down rfl (.down rfl (.here rfl (by decide)))
  have hdeclared : IsDeclared qualifiedUnit (.type 2) :=
    ⟨fun h => (by cases h), fun _ => ⟨.node 0, 2, rfl, rfl⟩⟩
  have hbase : IsBase qualifiedUnit (.type 2) [.text "struct ", .link (Link.named (some "Foo"))] :=
    IsBase.named (u := qualifiedUnit) (t := .type 2) (d := .node 0) rfl rfl rfl (by decide)
  exact ⟨hway, hdeclared, ((pointers_written hway).2.1 _).mpr ⟨_, hbase, rfl⟩⟩

/-! ## Qualifiers of the base -/

theorem cursorKind_congr {d' : CursorRef} (h : u.cursor d = u'.cursor d') : u.cursorKind d = u'.cursorKind d' := by
  rw [SourceUnit.cursorKind, SourceUnit.cursorKind, h]

theorem pointersWritten_congr (h : levels.map (qualification u) = levels'.map (qualification u')) :
    pointersWritten u levels = pointersWritten u' levels' := by
  induction levels generalizing levels' with
  | nil =>
    rw [List.map_nil, eq_comm, List.map_eq_nil_iff] at h
    rw [h]
    rfl
  | cons r rest ih =>
    cases levels' with
    | nil => cases h
    | cons r' rest' =>
      obtain ⟨hr, hrest⟩ := List.cons.inj h
      rw [pointersWritten_cons, pointersWritten_cons, ih hrest, level, level, qualifiers_eq_iff.mpr hr]

/-- **The qualifiers of the base are written only if it is another name.** Let two types have pointers with the same
qualifiers, which lead to bases of one kind, another name or unexposed, with the same declaration. If the qualifiers of
the bases are not the same, the types are written with different tokens exactly if the kind is that of other names. -/
theorem base_qualifiers_written_iff {d' : CursorRef} (h : PointsTo u t levels base) (h' : PointsTo u' t' levels' base')
    (hlevels : levels.map (qualification u) = levels'.map (qualification u'))
    (hkind : u.typeKind base = .ok kind) (hkind' : u'.typeKind base' = .ok kind)
    (hdeclared : kind = typedefKind ∨ kind = unexposedKind)
    (hd : u.declaration? base = some d) (hd' : u'.declaration? base' = some d') (hsame : u.cursor d = u'.cursor d')
    (htag : kind = unexposedKind → ∃ tag, u.cursorKind d = .ok tag)
    (hdiffer : qualification u base ≠ qualification u' base') :
    ∃ l l', tokens u t = .ok l ∧ tokens u' t' = .ok l' ∧ (l ≠ l' ↔ kind = typedefKind) := by
  rcases hdeclared with rfl | rfl
  · have hbase := IsBase.otherName hkind hd
    have hbase' := IsBase.otherName hkind' hd'
    refine ⟨_, _, h.tokens_eq_ok_iff.mpr ⟨_, hbase, rfl⟩, h'.tokens_eq_ok_iff.mpr ⟨_, hbase', rfl⟩, ?_⟩
    refine iff_of_true (fun heq => hdiffer ?_) rfl
    have hw := (eq_of_starred hbase.star_notMem hbase'.star_notMem heq).1
    rw [hsame] at hw
    exact qualifiers_eq_iff.mp (List.append_cancel_right hw)
  · obtain ⟨tag, htag⟩ := htag rfl
    have htag' := (cursorKind_congr hsame).symm.trans htag
    -- the declaration alone says how the bases are written
    have hwritten : ∃ w, IsBase u base w ∧ IsBase u' base' w := by
      by_cases hname : (u.cursor d).spelling = ""
      · exact ⟨_, .unnamed hkind hd htag hname, .unnamed hkind' hd' htag' (hsame ▸ hname)⟩
      · refine ⟨_, .named hkind hd htag hname, ?_⟩
        rw [hsame]
        exact .named hkind' hd' htag' (hsame ▸ hname)
    obtain ⟨w, hw, hw'⟩ := hwritten
    refine ⟨_, _, h.tokens_eq_ok_iff.mpr ⟨w, hw, rfl⟩, h'.tokens_eq_ok_iff.mpr ⟨w, hw', rfl⟩, ?_⟩
    rw [pointersWritten_congr hlevels]
    simp [unexposedKind, typedefKind]

/-- By another name, the pointer to what is `const` is told from the other one. -/
theorem base_qualifiers_written_iff_otherName :
    PointsTo qualifiedUnit (.type 6) [.type 6] (.type 7) ∧ PointsTo qualifiedUnit (.type 8) [.type 8] (.type 9) ∧
    qualifiedUnit.typeKind (.type 7) = .ok typedefKind ∧
    qualification qualifiedUnit (.type 7) ≠ qualification qualifiedUnit (.type 9) ∧
    ∃ l l', tokens qualifiedUnit (.type 6) = .ok l ∧ tokens qualifiedUnit (.type 8) = .ok l' ∧ l ≠ l' := by
  have hway : PointsTo qualifiedUnit (.type 6) [.type 6] (.type 7) := .down rfl (.here rfl (by decide))
  have hway' : PointsTo qualifiedUnit (.type 8) [.type 8] (.type 9) := .down rfl (.here rfl (by decide))
  have hdiffer : qualification qualifiedUnit (.type 7) ≠ qualification qualifiedUnit (.type 9) := by decide
  obtain ⟨l, l', hl, hl', hne⟩ := base_qualifiers_written_iff hway hway' rfl rfl rfl (.inl rfl)
    (d := .node 1) rfl rfl rfl (fun _ => ⟨20, rfl⟩) hdiffer
  exact ⟨hway, hway', rfl, hdiffer, l, l', hl, hl', hne.mpr rfl⟩

/-- **Pointers to a structure by its tag are written alike, whether the structure is `const` or not.** -/
theorem const_not_written_unexposed :
    PointsTo qualifiedUnit (.type 3) [.type 3] (.type 2) ∧ PointsTo qualifiedUnit (.type 4) [.type 4] (.type 5) ∧
    qualification qualifiedUnit (.type 3) = qualification qualifiedUnit (.type 4) ∧
    qualifiedUnit.typeKind (.type 2) = .ok unexposedKind ∧ qualifiedUnit.typeKind (.type 5) = .ok unexposedKind ∧
    qualifiedUnit.declaration? (.type 2) = qualifiedUnit.declaration? (.type 5) ∧
    qualification qualifiedUnit (.type 2) ≠ qualification qualifiedUnit (.type 5) ∧
    tokens qualifiedUnit (.type 3) = .ok [.text "struct ", .link (Link.named (some "Foo")), .text "*"] ∧
    tokens qualifiedUnit (.type 4) = .ok [.text "struct ", .link (Link.named (some "Foo")), .text "*"] :=
  ⟨.down rfl (.here rfl (by decide)), .down rfl (.here rfl (by decide)), rfl, rfl, rfl, rfl, by decide, rfl, rfl⟩

end GirDoc.TypeName
