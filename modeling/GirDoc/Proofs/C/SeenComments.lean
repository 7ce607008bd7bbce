import Mathlib.Data.List.Nodup
import Mathlib.Data.List.Pairwise
import GirDoc.Proofs.C.Macros

/-!
# The comments that macros see

The text of a file is gone through piece by piece. A comment that documents something is kept under its name, and a
macro with arguments is asked for with what the comment of its name tells, if there is one by then.

* `piecesIn` are the pieces of a file, and `asksFor` is what is asked for as they are gone through.
* A macro sees the comments of the files before its own, and those before it in its own file (`before_flatMap`).
* So what is told of a macro is the same in two orders of the files if and only if a comment of its name in another
  file stands before its file in both or in none, unless that comment makes no difference (`toldAt_eq_iff`).
-/

namespace GirDoc.C

open Extract Session

/-! ## Pieces -/

/-- A macro with arguments that a header defines. -/
structure MacroDefinition where
  file : String
  name : String
  text : String
  line : Nat
  /-- Whether it is the first definition of its file, which is only a guard if the file is guarded. -/
  isFirst : Bool
  deriving DecidableEq

/-- What is told of a macro: its parameters, and whether it returns something. -/
structure Told where
  params : List String
  returns : Bool
  deriving DecidableEq

/-- What a comment tells of a macro; nothing if there is none. -/
def Told.of (comment : Option Comment) : Told where
  params := (comment.elim [] Comment.params).map Prod.fst
  returns := comment.any fun c => "returns" ∈ c.tags

/-- A piece of a text. -/
inductive Piece where
  | comment (c : Comment)
  | definition (m : MacroDefinition)

namespace Piece

/-- The comment that a piece is. -/
def comment? : Piece → Option Comment
  | comment c => some c
  | definition _ => none

/-- The macro that a piece defines. -/
def definition? : Piece → Option MacroDefinition
  | comment _ => none
  | definition m => some m

end Piece

/-- The comments among pieces. -/
def commentsOf (pieces : List Piece) : List Comment := pieces.filterMap Piece.comment?

/-- The macros among pieces. -/
def definitionsOf (pieces : List Piece) : List MacroDefinition := pieces.filterMap Piece.definition?

variable (given : Environment)

/-- The comment that an item of a file is, if it documents something. -/
def itemComment? (file : String) (lines : List String) (item : Item String) : Option Comment :=
  (Text.item? lines ((item.firstLine : Int) - 1)).bind (documents? given file · item)

/-- The macro with arguments that an item of a header defines. -/
def itemDefinition? (file : String) (isFirst : Bool) (item : Item String) : Option MacroDefinition :=
  if file.endsWith ".h" then
    match macroHead? item.text with
    | some (.function name) => some { file, name, text := item.text, line := item.firstLine, isFirst }
    | _ => none
  else none

/-- The pieces that items of a file are; `isFirst` tells whether the next definition is the first. -/
def pieces (file : String) (lines : List String) : (isFirst : Bool) → List (Item String) → List Piece
  | _, [] => []
  | isFirst, item :: rest =>
    match item.kind with
    | .comment => ((itemComment? given file lines item).map .comment).toList ++ pieces file lines isFirst rest
    | .definition => ((itemDefinition? file isFirst item).map .definition).toList ++ pieces file lines false rest

/-- The pieces of a file; none if it cannot be read. -/
def piecesIn (file : String) : List Piece :=
  (textOf given file).elim [] fun text => pieces given file text.1 true text.2

/-- The comments of a file that document something. -/
def commentsIn (file : String) : List Comment := commentsOf (piecesIn given file)

/-- The macros with arguments that a file defines. -/
def definitionsIn (file : String) : List MacroDefinition := definitionsOf (piecesIn given file)

variable {given} {file : String} {m : MacroDefinition}

theorem eq_of_itemDefinition?_eq_some {isFirst : Bool} {item : Item String}
    (h : itemDefinition? file isFirst item = some m) :
    m.file = file ∧ m.isFirst = isFirst ∧ file.endsWith ".h" = true := by
  unfold itemDefinition? at h
  split at h
  · next hheader =>
    split at h
    · cases h
      exact ⟨rfl, rfl, hheader⟩
    · cases h
  · cases h

theorem file_of_mem_pieces {lines : List String} {isFirst : Bool} {items : List (Item String)}
    (h : Piece.definition m ∈ pieces given file lines isFirst items) : m.file = file := by
  induction items generalizing isFirst with
  | nil => cases h
  | cons item rest ih =>
    rw [pieces] at h
    split at h
    · rcases List.mem_append.mp h with hfirst | hrest
      · simp at hfirst
      · exact ih hrest
    · rcases List.mem_append.mp h with hfirst | hrest
      · simp only [Option.mem_toList, Option.map_eq_some_iff, Piece.definition.injEq, exists_eq_right] at hfirst
        exact (eq_of_itemDefinition?_eq_some hfirst).1
      · exact ih hrest

theorem mem_definitionsOf {ps : List Piece} : m ∈ definitionsOf ps ↔ Piece.definition m ∈ ps := by
  rw [definitionsOf, List.mem_filterMap]
  constructor
  · rintro ⟨p, hp, hm⟩
    cases p with
    | comment c => cases hm
    | definition m' =>
      cases hm
      exact hp
  · intro h
    exact ⟨_, h, rfl⟩

theorem file_of_mem_definitionsIn (h : m ∈ definitionsIn given file) : m.file = file := by
  rw [definitionsIn, mem_definitionsOf, piecesIn] at h
  cases htext : textOf given file with
  | none =>
    rw [htext] at h
    cases h
  | some text =>
    rw [htext] at h
    exact file_of_mem_pieces h

/-! ## Comments that are known -/

/-- The comments known after some more were read. -/
def keepAll (known : List (String × Comment)) (cs : List Comment) : List (String × Comment) :=
  cs.foldl keepComment known

variable {known known' : List (String × Comment)} {cs cs' : List Comment} {c : Comment} {name : String}

theorem keepAll_append (known : List (String × Comment)) (cs cs' : List Comment) :
    keepAll known (cs ++ cs') = keepAll (keepAll known cs) cs' := List.foldl_append

theorem lookup_keepComment (known : List (String × Comment)) (c : Comment) (name : String) :
    (keepComment known c).lookup name = if c.name = some name then some c else known.lookup name := by
  rw [keepComment]
  cases hname : c.name with
  | none => simp
  | some own =>
    rw [Option.elim_some, Value.lookup_put]
    simp only [Option.some.injEq, eq_comm]

theorem lookup_keepAll_congr (h : known.lookup name = known'.lookup name) :
    (keepAll known cs).lookup name = (keepAll known' cs).lookup name := by
  induction cs generalizing known known' with
  | nil => exact h
  | cons c rest ih =>
    refine ih ?_
    rw [lookup_keepComment, lookup_keepComment, h]

theorem lookup_keepAll_of_forall_ne (h : ∀ c ∈ cs, c.name ≠ some name) :
    (keepAll known cs).lookup name = known.lookup name := by
  induction cs generalizing known with
  | nil => rfl
  | cons c rest ih =>
    obtain ⟨hc, hrest⟩ := List.forall_mem_cons.mp h
    refine (ih hrest).trans ?_
    rw [lookup_keepComment, if_neg hc]

/-- A comment that is the only one of its name is found under it. -/
theorem lookup_keepAll_of_mem (hc : c ∈ cs) (hname : c.name = some name)
    (honly : ∀ c' ∈ cs, c'.name = some name → c' = c) : (keepAll known cs).lookup name = some c := by
  obtain ⟨before, after, rfl⟩ := List.append_of_mem hc
  -- what comes after it has other names, or is the same comment again
  have hafter : ∀ (rest : List Comment) (known : List (String × Comment)),
      (∀ c' ∈ rest, c'.name = some name → c' = c) → known.lookup name = some c →
      (keepAll known rest).lookup name = some c := by
    intro rest
    induction rest with
    | nil =>
      intro known _ h
      exact h
    | cons c' rest ih =>
      intro known hrest h
      obtain ⟨hc', hrest⟩ := List.forall_mem_cons.mp hrest
      refine ih _ hrest ?_
      rw [lookup_keepComment]
      split
      · next heq => rw [hc' heq]
      · exact h
  rw [keepAll_append]
  refine hafter after _ (fun c' hmem => honly c' (by simp [hmem])) ?_
  rw [lookup_keepComment, if_pos hname]

/-! ## What is asked for -/

/-- The macros asked for as pieces are gone through, each with what is told of it. -/
def asksFor (known : List (String × Comment)) : List Piece → List (MacroDefinition × Told)
  | [] => []
  | .comment c :: rest => asksFor (keepComment known c) rest
  | .definition m :: rest => (m, .of (known.lookup m.name)) :: asksFor known rest

theorem asksFor_append (known : List (String × Comment)) (ps ps' : List Piece) :
    asksFor known (ps ++ ps') = asksFor known ps ++ asksFor (keepAll known (commentsOf ps)) ps' := by
  induction ps generalizing known with
  | nil => rfl
  | cons p rest ih =>
    cases p with
    | comment c => exact ih (keepComment known c)
    | definition m => exact congrArg (List.cons _) (ih known)

/-- The comments that come before a macro. -/
def before (m : MacroDefinition) (ps : List Piece) : List Comment :=
  commentsOf (ps.takeWhile fun p => p.definition? ≠ some m)

/-- What is told of a macro by the comments that come before it, or by one known from the beginning. -/
def toldAt (known : List (String × Comment)) (ps : List Piece) (m : MacroDefinition) : Told :=
  .of ((keepAll known (before m ps)).lookup m.name)

/-- **Each macro is asked for with what the comments before it tell**, if none is defined twice. -/
theorem asksFor_eq {ps : List Piece} (h : (definitionsOf ps).Nodup) (known : List (String × Comment)) :
    asksFor known ps = (definitionsOf ps).map fun m => (m, toldAt known ps m) := by
  induction ps generalizing known with
  | nil => rfl
  | cons p rest ih =>
    cases p with
    | comment c =>
      have hdefinitions : definitionsOf (.comment c :: rest) = definitionsOf rest := rfl
      rw [hdefinitions] at h ⊢
      exact ih h (keepComment known c)
    | definition m =>
      have hdefinitions : definitionsOf (.definition m :: rest) = m :: definitionsOf rest := rfl
      rw [hdefinitions] at h ⊢
      obtain ⟨hm, hrest⟩ := List.nodup_cons.mp h
      rw [asksFor, ih hrest known, List.map_cons]
      congr 1
      · have hstop : before m (.definition m :: rest) = [] := by simp [before, Piece.definition?, commentsOf]
        rw [toldAt, hstop]
        rfl
      · refine List.map_congr_left fun m' hm' => ?_
        have hne : m ≠ m' := fun heq => hm (heq ▸ hm')
        have hpass : before m' (.definition m :: rest) = before m' rest := by
          rw [before, List.takeWhile_cons_of_pos (by simp [Piece.definition?, hne])]
          rfl
        rw [toldAt, toldAt, hpass]

/-! ## Files in order -/

theorem takeWhile_append_of_exists {α : Type} {p : α → Bool} {as : List α} (h : ∃ a ∈ as, p a = false) (bs : List α) :
    (as ++ bs).takeWhile p = as.takeWhile p := by
  obtain ⟨a, ha, hp⟩ := h
  rw [List.takeWhile_append, if_neg]
  intro hlength
  rw [← (List.takeWhile_prefix p).eq_of_length hlength] at ha
  rw [List.mem_takeWhile_imp ha] at hp
  cases hp

/-- The files that stand before a file are those that come first. -/
theorem mem_takeWhile_ne_iff {files : List String} {file file' : String} :
    file' ∈ files.takeWhile (· ≠ file) ↔ files.idxOf file' < files.idxOf file := by
  induction files with
  | nil => simp
  | cons first rest ih =>
    by_cases hfirst : first = file
    · simp [hfirst]
    · rw [List.takeWhile_cons_of_pos (by simpa using hfirst), List.mem_cons, List.idxOf_cons_ne rest hfirst]
      by_cases hfirst' : first = file'
      · simp [hfirst']
      · rw [List.idxOf_cons_ne rest hfirst', Nat.succ_lt_succ_iff, ← ih]
        exact or_iff_right fun h => hfirst' h.symm

/-- A macro sees the comments of the files before its own, and those before it in its own. -/
theorem before_flatMap (hm : m ∈ definitionsIn given m.file) {files : List String} (hfile : m.file ∈ files) :
    before m (files.flatMap (piecesIn given)) =
      (files.takeWhile (· ≠ m.file)).flatMap (commentsIn given) ++ before m (piecesIn given m.file) := by
  induction files with
  | nil => cases hfile
  | cons first rest ih =>
    rw [List.flatMap_cons]
    by_cases hfirst : first = m.file
    · have hstops : ∃ p ∈ piecesIn given m.file, decide (p.definition? ≠ some m) = false :=
        ⟨_, mem_definitionsOf.mp hm, by simp [Piece.definition?]⟩
      rw [hfirst, before, takeWhile_append_of_exists hstops, List.takeWhile_cons_of_neg (by simp)]
      rfl
    · have hpasses : ∀ p ∈ piecesIn given first, decide (p.definition? ≠ some m) = true := by
        intro p hp
        rw [decide_eq_true_iff]
        intro hdefinition
        have hmem : m ∈ definitionsIn given first := List.mem_filterMap.mpr ⟨p, hp, hdefinition⟩
        exact hfirst (file_of_mem_definitionsIn hmem).symm
      have hrest := ih (List.mem_of_ne_of_mem (fun h => hfirst h.symm) hfile)
      rw [before, List.takeWhile_append_of_pos hpasses, commentsOf, List.filterMap_append,
        List.takeWhile_cons_of_pos (by simpa using hfirst), List.flatMap_cons, List.append_assoc, ← hrest]
      rfl

/-! ## Two orders of files -/

/-- The comments of files all have different names. -/
def NamedOnce (given : Environment) (files : List String) : Prop :=
  ((files.flatMap (commentsIn given)).filterMap (·.name)).Nodup

instance (given : Environment) (files : List String) : Decidable (NamedOnce given files) :=
  inferInstanceAs (Decidable (List.Nodup _))

theorem NamedOnce.perm {files files' : List String} (h : NamedOnce given files) (hperm : files'.Perm files) :
    NamedOnce given files' :=
  ((hperm.flatMap_right (commentsIn given)).filterMap _).nodup_iff.mpr h

/-- There is one comment of a name, in one file. -/
theorem NamedOnce.eq {files : List String} (h : NamedOnce given files) {file file' : String} {c c' : Comment}
    (hfile : file ∈ files) (hc : c ∈ commentsIn given file) (hfile' : file' ∈ files)
    (hc' : c' ∈ commentsIn given file') (hname : c.name = some name) (hname' : c'.name = some name) :
    file = file' ∧ c = c' := by
  have hpairs : (files.flatMap fun file => (commentsIn given file).map (file, ·)).Pairwise
      fun x y => ∀ n, x.2.name = some n → y.2.name ≠ some n := by
    have hnodup : ((files.flatMap fun file => (commentsIn given file).map (file, ·)).filterMap (·.2.name)).Nodup := by
      rw [NamedOnce, List.filterMap_flatMap] at h
      rw [List.filterMap_flatMap]
      simp only [List.filterMap_map]
      exact h
    refine (List.pairwise_filterMap.mp hnodup).imp ?_
    intro x y hne n hx hy
    exact hne n hx n hy rfl
  have hmem {file : String} {c : Comment} (hfile : file ∈ files) (hc : c ∈ commentsIn given file) :
      (file, c) ∈ files.flatMap fun file => (commentsIn given file).map (file, ·) :=
    List.mem_flatMap.mpr ⟨file, hfile, List.mem_map.mpr ⟨c, hc, rfl⟩⟩
  have hsymm : Std.Symm fun x y : String × Comment => ∀ n, x.2.name = some n → y.2.name ≠ some n :=
    ⟨fun x y hxy n hy hx => hxy n hx hy⟩
  by_contra hne
  exact hpairs.forall (hmem hfile hc) (hmem hfile' hc') (fun heq => hne (Prod.mk.inj heq)) name hname hname'

/-- A comment in another file tells of a macro if that file stands before. -/
theorem toldAt_of_elsewhere {files : List String} (hnames : NamedOnce given files)
    (hm : m ∈ definitionsIn given m.file) (hmfile : m.file ∈ files) (hfile : file ∈ files) (hne : file ≠ m.file)
    (hc : c ∈ commentsIn given file) (hname : c.name = some m.name) (known : List (String × Comment)) :
    toldAt known (files.flatMap (piecesIn given)) m =
      if files.idxOf file < files.idxOf m.file then .of (some c) else .of (known.lookup m.name) := by
  have hown : ∀ c' ∈ before m (piecesIn given m.file), c'.name ≠ some m.name := by
    intro c' hc' hname'
    have hin : c' ∈ commentsIn given m.file := List.filterMap_subset _ (List.takeWhile_subset _) hc'
    exact hne (hnames.eq hfile hc hmfile hin hname hname').1
  have honly {file' : String} (hfile' : file' ∈ files) {c' : Comment} (hc' : c' ∈ commentsIn given file')
      (hname' : c'.name = some m.name) : file' = file ∧ c' = c :=
    hnames.eq hfile' hc' hfile hc hname' hname
  rw [toldAt, before_flatMap hm hmfile, keepAll_append, lookup_keepAll_of_forall_ne hown]
  split
  · next hlt =>
    have hin : c ∈ (files.takeWhile (· ≠ m.file)).flatMap (commentsIn given) :=
      List.mem_flatMap.mpr ⟨file, mem_takeWhile_ne_iff.mpr hlt, hc⟩
    rw [lookup_keepAll_of_mem hin hname]
    intro c' hc' hname'
    obtain ⟨file', hfile', hc'⟩ := List.mem_flatMap.mp hc'
    exact (honly (List.takeWhile_subset _ hfile') hc' hname').2
  · next hlt =>
    rw [lookup_keepAll_of_forall_ne]
    intro c' hc' hname'
    obtain ⟨file', hfile', hc'⟩ := List.mem_flatMap.mp hc'
    have heq := (honly (List.takeWhile_subset _ hfile') hc' hname').1
    rw [heq] at hfile'
    exact hlt (mem_takeWhile_ne_iff.mp hfile')

/-- Without a comment of its name in another file, what is told of a macro is known from its own. -/
theorem toldAt_of_not_elsewhere {files : List String} (hm : m ∈ definitionsIn given m.file) (hmfile : m.file ∈ files)
    (h : ∀ file ∈ files, file ≠ m.file → ∀ c ∈ commentsIn given file, c.name ≠ some m.name)
    (known : List (String × Comment)) :
    toldAt known (files.flatMap (piecesIn given)) m = toldAt known (piecesIn given m.file) m := by
  rw [toldAt, before_flatMap hm hmfile, keepAll_append, toldAt]
  congr 1
  apply lookup_keepAll_congr
  apply lookup_keepAll_of_forall_ne
  intro c hc
  obtain ⟨file, hfile, hc⟩ := List.mem_flatMap.mp hc
  have hne : file ≠ m.file := by simpa using List.mem_takeWhile_imp hfile
  exact h file (List.takeWhile_subset _ hfile) hne c hc

/-- **What is told of a macro in two orders of the files** is the same if and only if a comment of its name in another
file stands before its file in both orders or in none, unless that comment tells what was known before. -/
theorem toldAt_eq_iff {files files' : List String} (hperm : files'.Perm files) (hnames : NamedOnce given files)
    (hm : m ∈ definitionsIn given m.file) (hmfile : m.file ∈ files) (known : List (String × Comment)) :
    toldAt known (files.flatMap (piecesIn given)) m = toldAt known (files'.flatMap (piecesIn given)) m ↔
      ∀ file ∈ files, file ≠ m.file → ∀ c ∈ commentsIn given file, c.name = some m.name →
        Told.of (some c) ≠ Told.of (known.lookup m.name) →
        (files.idxOf file < files.idxOf m.file ↔ files'.idxOf file < files'.idxOf m.file) := by
  have hmfile' : m.file ∈ files' := hperm.mem_iff.mpr hmfile
  by_cases helse : ∃ file ∈ files, file ≠ m.file ∧ ∃ c ∈ commentsIn given file, c.name = some m.name
  · obtain ⟨file, hfile, hne, c, hc, hname⟩ := helse
    rw [toldAt_of_elsewhere hnames hm hmfile hfile hne hc hname,
      toldAt_of_elsewhere (hnames.perm hperm) hm hmfile' (hperm.mem_iff.mpr hfile) hne hc hname]
    constructor
    · intro heq file' hfile' _ c' hc' hname' hdiffers
      obtain ⟨rfl, rfl⟩ := hnames.eq hfile' hc' hfile hc hname' hname
      constructor
      · intro hlt
        by_contra hlt'
        rw [if_pos hlt, if_neg hlt'] at heq
        exact hdiffers heq
      · intro hlt'
        by_contra hlt
        rw [if_neg hlt, if_pos hlt'] at heq
        exact hdiffers heq.symm
    · intro hiff
      by_cases hsame : Told.of (some c) = Told.of (known.lookup m.name)
      · simp [hsame]
      · simp [hiff file hfile hne c hc hname hsame]
  · have hnone : ∀ file ∈ files, file ≠ m.file → ∀ c ∈ commentsIn given file, c.name ≠ some m.name :=
      fun file hfile hne c hc hname => helse ⟨file, hfile, hne, c, hc, hname⟩
    rw [toldAt_of_not_elsewhere hm hmfile hnone,
      toldAt_of_not_elsewhere hm hmfile' fun file hfile => hnone file (hperm.mem_iff.mp hfile)]
    refine iff_of_true rfl ?_
    intro file hfile hne c hc hname
    exact absurd hname (hnone file hfile hne c hc)

end GirDoc.C
