import GirDoc.C.Macro
import GirDoc.Proofs.Extract.Lines
import GirDoc.Proofs.Text.Split
import GirDoc.Proofs.Text.Words

/-!
# Names of macros

What a definition defines is decided by the first blank or parenthesis of its body, however many others follow:
`macroHead?_name`. Every definition that is found in a text has a head (`exists_definition_text`,
`exists_macroHead?`), be it one that anybody would write or not.
-/

namespace GirDoc.Text

/-! ## Cutting -/

/-- A text in which `c` stands before every `sep` has it before the cut. -/
theorem mem_of_cutChars {sep c : Char} {front back l r : List Char} (hsep : sep ∉ front) (hc : c ≠ sep)
    (h : cutChars sep (front ++ c :: back) = some (l, r)) : c ∈ l := by
  induction front generalizing l with
  | nil =>
    rw [List.nil_append, cutChars, if_neg hc] at h
    obtain ⟨⟨l', r'⟩, -, hl⟩ := Option.map_eq_some_iff.mp h
    exact (Prod.mk.inj hl).1 ▸ List.mem_cons_self
  | cons d front ih =>
    rw [List.mem_cons, not_or] at hsep
    rw [List.cons_append, cutChars, if_neg (Ne.symm hsep.1)] at h
    obtain ⟨⟨l', r'⟩, hcut, hl⟩ := Option.map_eq_some_iff.mp h
    obtain ⟨rfl, rfl⟩ := Prod.mk.inj hl
    exact List.mem_cons_of_mem d (ih hsep.2 hcut)

/-- A text without blanks has none to be trimmed. -/
theorem trim_ofList {cs : List Char} (h : ∀ c ∈ cs, isBlank c = false) :
    trim (String.ofList cs) = String.ofList cs := by
  rw [trim, trimOf, dropEndWhile, String.toList_ofList, dropWhile_eq_self h,
    dropWhile_eq_self fun c hc => h c (List.mem_reverse.mp hc), List.reverse_reverse]

end GirDoc.Text

namespace GirDoc.C

open Text

/-- What can be the name of a macro, as every identifier can: it has no blanks and no opening parenthesis. -/
def IsMacroName (name : String) : Prop :=
  name ≠ "" ∧ ∀ c ∈ name.toList, isBlank c = false ∧ c ≠ '('

/-- What can follow the name of a macro: nothing, or a text that begins with a space, a tab or an opening
parenthesis. -/
def EndsName (rest : String) : Prop :=
  rest.toList.head? ∈ [none, some ' ', some '\t', some '(']

instance (name : String) : Decidable (IsMacroName name) :=
  -- the characters of the name are gone through, not all that there are
  have : Decidable (∀ c ∈ name.toList, isBlank c = false ∧ c ≠ '(') := List.decidableBAll _ _
  inferInstanceAs (Decidable (_ ∧ _))

instance (rest : String) : Decidable (EndsName rest) := inferInstanceAs (Decidable (_ ∈ _))

theorem IsMacroName.not_mem {name : String} (h : IsMacroName name) {c : Char} (hc : isBlank c = true) :
    c ∉ name.toList :=
  fun hmem => Bool.false_ne_true ((h.2 c hmem).1.symm.trans hc)

/-! ## Heads -/

/-- The first blank of a definition is the one after its first word. -/
theorem cut_define (body : String) : cut ' ' (replaceChar '\t' ' ' ("#define " ++ body)) =
    some ("#define", replaceChar '\t' ' ' body) := by
  have htext : (replaceChar '\t' ' ' ("#define " ++ body)).toList = "#define".toList ++
      ' ' :: body.toList.map fun c => if c = '\t' then ' ' else c := by
    rw [replaceChar, String.toList_ofList, String.toList_append, List.map_append]
    rfl
  rw [cut, htext, cutChars_append_cons (by decide)]
  rfl

theorem exists_macroHead? (body : String) : ∃ head, macroHead? ("#define " ++ body) = some head := by
  rw [macroHead?, cut_define]
  exact ⟨_, rfl⟩

/-- A body with no parenthesis, or a blank before the first, defines a constant. -/
theorem macroHead?_constant {body : String}
    (h : ∀ l r, cutChars '(' (replaceChar '\t' ' ' body).toList = some (l, r) → ' ' ∈ l) :
    macroHead? ("#define " ++ body) =
      some (.constant (trim (before ' ' (replaceChar '\t' ' ' body)))) := by
  rw [macroHead?, cut_define, Option.map_some]
  cases hcut : cutChars '(' (replaceChar '\t' ' ' body).toList with
  | none => simp only [cut, hcut, Option.map_none]
  | some parts =>
    have hblank := h parts.1 parts.2 hcut
    simp only [cut, hcut, Option.map_some, String.toList_ofList, List.contains_iff_mem, hblank, if_true]

/-- A body with no blank before the first parenthesis defines a macro with arguments. -/
theorem macroHead?_function {body : String} {l r : List Char}
    (h : cutChars '(' (replaceChar '\t' ' ' body).toList = some (l, r)) (hl : ' ' ∉ l) :
    macroHead? ("#define " ++ body) = some (.function (trim (String.ofList l))) := by
  rw [macroHead?, cut_define, Option.map_some]
  simp only [cut, h, Option.map_some, String.toList_ofList, List.contains_iff_mem, hl, if_false]

variable {name rest : String}

/-- A name keeps its characters when tabs are replaced. -/
theorem toList_replaceChar_name (hname : IsMacroName name) :
    (replaceChar '\t' ' ' (name ++ rest)).toList =
      name.toList ++ rest.toList.map fun c => if c = '\t' then ' ' else c := by
  have hkept : name.toList.map (fun c => if c = '\t' then ' ' else c) = name.toList :=
    (List.map_congr_left fun c hc => if_neg fun htab => hname.not_mem rfl (htab ▸ hc)).trans
      (List.map_id _)
  rw [replaceChar, String.toList_ofList, String.toList_append, List.map_append, hkept]

/-- What stands before the first blank, if it is a name and what follows begins with the blank. -/
theorem trim_before_name (hname : IsMacroName name) {body : String} {tail : List Char}
    (hbody : body.toList = name.toList ++ tail) (htail : ∀ c ∈ tail.head?, c = ' ') :
    trim (before ' ' body) = name := by
  have hcut : tail.takeWhile (· ≠ ' ') = [] := by
    cases tail with
    | nil => rfl
    | cons c tail => exact List.takeWhile_cons_of_neg (by simp [htail c rfl])
  have hwhole : ∀ c ∈ name.toList, decide (c ≠ ' ') = true :=
    fun c hc => decide_eq_true fun hblank => hname.not_mem rfl (hblank ▸ hc)
  rw [before, hbody, List.takeWhile_append_of_pos hwhole, hcut, List.append_nil,
    trim_ofList fun c hc => (hname.2 c hc).1, String.ofList_toList]

/-- **The first blank or parenthesis after its name decides what a definition defines.** -/
theorem macroHead?_name (hname : IsMacroName name) (hrest : EndsName rest) :
    macroHead? ("#define " ++ name ++ rest) =
      some (if rest.toList.head? = some '(' then .function name else .constant name) := by
  have hparen : '(' ∉ name.toList := fun hmem => (hname.2 _ hmem).2 rfl
  have hbody := @toList_replaceChar_name name rest hname
  rw [String.append_assoc]
  rcases hcs : rest.toList with _ | ⟨c, more⟩
  · -- the name is all of the body
    rw [hcs, List.map_nil] at hbody
    rw [macroHead?_constant, trim_before_name hname hbody (by simp)]
    · rfl
    · intro l r hcut
      rw [hbody, List.append_nil, cutChars_eq_none hparen] at hcut
      cases hcut
  · rw [hcs, List.map_cons] at hbody
    rw [EndsName, hcs] at hrest
    by_cases hc : c = '('
    · subst hc
      rw [if_neg (by decide)] at hbody
      have hcut := cutChars_append_cons hparen (more.map fun c => if c = '\t' then ' ' else c)
      rw [← hbody] at hcut
      rw [macroHead?_function hcut (hname.not_mem rfl), trim_ofList fun c hc => (hname.2 c hc).1,
        String.ofList_toList]
      rfl
    · -- a space, or a tab that became one
      have hblank : (if c = '\t' then ' ' else c) = ' ' := by
        simp only [List.head?_cons, List.mem_cons, Option.some.injEq, reduceCtorEq, hc, List.not_mem_nil,
          or_false, false_or] at hrest
        rcases hrest with rfl | rfl <;> rfl
      rw [hblank] at hbody
      rw [macroHead?_constant, trim_before_name hname hbody (by simp), if_neg (by simp [hc])]
      intro l r hcut
      exact mem_of_cutChars hparen (by decide) (hbody ▸ hcut)

end GirDoc.C

namespace GirDoc.Extract

open Text.Utf8

/-- **The text of a definition is the word that defines, a space and its body.** -/
theorem exists_definition_text {text : String} {found : List (Item String)} {item : Item String}
    (hfound : extract text = some found) (hitem : item ∈ found) (hkind : item.kind = .definition) :
    ∃ body, item.text = "#define " ++ body := by
  obtain ⟨spans, hspans, -⟩ := exists_spans ((encode text).takeWhile (· ≠ 0)) 1 _ 0 rfl (by simp [newlines])
  rw [extract, items_eq_of_spans rfl hspans] at hfound
  obtain ⟨bytes, hmem, hdecode⟩ := exists_mem_of_forall₂ (forall₂_of_mapM_eq_some hfound) hitem
  obtain ⟨span, -, rfl⟩ := List.mem_map.mp hmem
  obtain ⟨read, hread, rfl⟩ := Option.map_eq_some_iff.mp hdecode
  have htext := (decode?_eq_some_iff.mp hread).symm
  simp only [Span.item] at hkind htext
  rw [Span.text, hkind] at htext
  obtain ⟨-, body, -, hbody⟩ := exists_encode_of_append_cons (by decide : (32 : UInt8).toNat < 0x80)
    (htext.trans (List.append_assoc _ _ _))
  have hdefine : encode "#define " = 35 :: defineWord ++ [32] := by decide +kernel
  have hsame : encode read = encode ("#define " ++ body) := by
    rw [htext, encode_append, hdefine, ← hbody]
    rfl
  exact ⟨body, Option.some.inj ((decode?_eq_some_iff.mpr rfl).symm.trans (decode?_eq_some_iff.mpr hsame))⟩

end GirDoc.Extract
