import Mathlib.Data.List.Basic
import GirDoc.Proofs.Annotations
import GirDoc.Proofs.Text.Split

/-!
# The text of array options

The options of an array are shown one after the other, with nothing between the value of one and the name of the next.
So the text tells what stands between two equals signs (`pieces`), but not where in it the value ends:

* `shown_eq_iff` says that options have the same text exactly if they have the same pieces;
* `array_text_decodes_iff` says when a text can be decoded: if there is only one way to take different names from the
  ends of its pieces.
-/

namespace GirDoc.Annotations

/-- A word that is the name or the value of an option: not empty, and without an equals sign. -/
structure IsWord (s : String) : Prop where
  ne_empty : s ≠ ""
  noEquals : '=' ∉ s.toList

/-- The options of an array: words, with names that are all different. -/
@[ext] structure ArrayOptions where
  entries : List (String × String)
  nodup : (entries.map Prod.fst).Nodup
  isWord : ∀ e ∈ entries, IsWord e.1 ∧ IsWord e.2

/-- The text of options. -/
def written (entries : List (String × String)) : String := arrayOptions (entries.map fun e => (e.1, .text e.2))

/-- What stands between the equals signs, if `front` comes before the options: each piece but the last one ends with a
name, and before it stands the value of the option before. -/
def pieces (front : String) : List (String × String) → List String
  | [] => [front]
  | (name, value) :: rest => (front ++ name) :: pieces value rest

/-- A piece ends with a name, and there is a value before it. -/
def EndsIn (piece name : String) : Prop := ∃ value, IsWord value ∧ IsWord name ∧ piece = value ++ name

/-- Names that can be read off pieces: the first piece is the first name, and all but the last one end with the
others. -/
def Fits (pieces names : List String) : Prop :=
  names.head? = pieces.dropLast.head? ∧ List.Forall₂ EndsIn pieces.dropLast.tail names.tail

namespace ArrayOptions

/-- What the note of an array shows of its options. -/
def shown (a : ArrayOptions) : Value := (array (Argument.options a.entries).value).value

def names (a : ArrayOptions) : List String := a.entries.map Prod.fst

/-- The pieces of the text, from the first name to the last value. -/
def pieces (a : ArrayOptions) : List String := Annotations.pieces "" a.entries

theorem shown_eq (a : ArrayOptions) : a.shown = .text (written a.entries) := rfl

end ArrayOptions

/-! ## What the text tells -/

theorem written_cons (name value : String) (rest : List (String × String)) :
    written ((name, value) :: rest) = name ++ "=" ++ (value ++ written rest) := by
  simp [written, arrayOptions, Value.display, String.append_assoc]

theorem splitChars_written {front : String} {entries : List (String × String)} (hfront : '=' ∉ front.toList)
    (hentries : ∀ e ∈ entries, IsWord e.1 ∧ IsWord e.2) :
    Text.splitChars '=' (front ++ written entries).toList = (pieces front entries).map String.toList := by
  induction entries generalizing front with
  | nil =>
    have htext : (front ++ written []).toList = front.toList := by simp [written, arrayOptions]
    rw [htext, Text.splitChars_of_notMem hfront]
    rfl
  | cons e rest ih =>
    obtain ⟨name, value⟩ := e
    rw [List.forall_mem_cons] at hentries
    obtain ⟨⟨hname, hvalue⟩, hrest⟩ := hentries
    have htext : (front ++ written ((name, value) :: rest)).toList =
        (front ++ name).toList ++ '=' :: (value ++ written rest).toList := by
      simp [written_cons]
    have hpiece : '=' ∉ (front ++ name).toList := by simp [hfront, hname.noEquals]
    rw [htext, Text.splitChars_append_cons hpiece, ih hvalue.noEquals hrest]
    rfl

/-- Options have the same text exactly if they have the same pieces. -/
theorem shown_eq_iff (a b : ArrayOptions) : a.shown = b.shown ↔ a.pieces = b.pieces := by
  have hsplit : ∀ c : ArrayOptions, Text.splitChars '=' (written c.entries).toList = c.pieces.map String.toList := by
    intro c
    have hfront : '=' ∉ "".toList := by simp
    have h := splitChars_written hfront c.isWord
    rwa [String.empty_append] at h
  rw [a.shown_eq, b.shown_eq, Value.text.injEq, ← String.toList_inj, ← Text.splitChars_inj, hsplit, hsplit]
  exact (List.map_injective_iff.mpr fun _ _ => String.toList_inj.mp).eq_iff

/-! ## What it does not tell -/

/-- Pieces can be taken apart if the names in them are known. -/
theorem eq_of_pieces_eq {front front' : String} {entries entries' : List (String × String)}
    (h : pieces front entries = pieces front' entries') (hnames : entries.map Prod.fst = entries'.map Prod.fst) :
    front = front' ∧ entries = entries' := by
  induction entries generalizing front front' entries' with
  | nil =>
    cases entries' with
    | nil => exact ⟨List.singleton_inj.mp h, rfl⟩
    | cons e' rest' => simp at hnames
  | cons e rest ih =>
    cases entries' with
    | nil => simp at hnames
    | cons e' rest' =>
      obtain ⟨name, value⟩ := e
      obtain ⟨name', value'⟩ := e'
      obtain ⟨hpiece, hrest⟩ := List.cons.inj h
      obtain ⟨hname, hnames⟩ := List.cons.inj hnames
      obtain ⟨rfl, rfl⟩ := ih hrest hnames
      obtain rfl : name = name' := hname
      exact ⟨(String.append_left_inj name).mp hpiece, rfl⟩

theorem ArrayOptions.eq_of_names {a b : ArrayOptions} (h : a.pieces = b.pieces) (hnames : a.names = b.names) : a = b :=
  ArrayOptions.ext (eq_of_pieces_eq h hnames).2

theorem pieces_ne_nil (front : String) (entries : List (String × String)) : pieces front entries ≠ [] := by
  cases entries <;> simp [pieces]

theorem dropLast_pieces_cons (front name value : String) (rest : List (String × String)) :
    (pieces front ((name, value) :: rest)).dropLast = (front ++ name) :: (pieces value rest).dropLast :=
  List.dropLast_cons_of_ne_nil (pieces_ne_nil value rest)

theorem forall₂_endsIn {front : String} {entries : List (String × String)} (hfront : IsWord front)
    (hentries : ∀ e ∈ entries, IsWord e.1 ∧ IsWord e.2) :
    List.Forall₂ EndsIn (pieces front entries).dropLast (entries.map Prod.fst) := by
  induction entries generalizing front with
  | nil => exact .nil
  | cons e rest ih =>
    obtain ⟨name, value⟩ := e
    rw [List.forall_mem_cons] at hentries
    obtain ⟨⟨hname, hvalue⟩, hrest⟩ := hentries
    rw [dropLast_pieces_cons]
    exact .cons ⟨front, hfront, hname, rfl⟩ (ih hvalue hrest)

/-- The names of options can be read off their pieces. -/
theorem ArrayOptions.fits_names (a : ArrayOptions) : Fits a.pieces a.names := by
  obtain ⟨entries, hnodup, hwords⟩ := a
  cases entries with
  | nil => exact ⟨rfl, .nil⟩
  | cons e rest =>
    obtain ⟨name, value⟩ := e
    rw [List.forall_mem_cons] at hwords
    unfold Fits pieces names
    rw [dropLast_pieces_cons]
    exact ⟨by simp, forall₂_endsIn hwords.1.2 hwords.2⟩

/-- Names taken from the ends of pieces leave values before them. -/
theorem exists_entries {front : String} {entries : List (String × String)} {names : List String} (hfront : IsWord front)
    (hentries : ∀ e ∈ entries, IsWord e.1 ∧ IsWord e.2)
    (h : List.Forall₂ EndsIn (pieces front entries).dropLast names) :
    ∃ front' entries', IsWord front' ∧ (∀ e ∈ entries', IsWord e.1 ∧ IsWord e.2) ∧
      pieces front' entries' = pieces front entries ∧ entries'.map Prod.fst = names := by
  induction entries generalizing front names with
  | nil =>
    cases h
    exact ⟨front, [], hfront, by simp, rfl, rfl⟩
  | cons e rest ih =>
    obtain ⟨name, value⟩ := e
    rw [List.forall_mem_cons] at hentries
    rw [dropLast_pieces_cons] at h
    cases h with
    | @cons _ newName _ newNames hends hrest =>
      obtain ⟨newFront, hnewFront, hnewName, hpiece⟩ := hends
      obtain ⟨newValue, newRest, hnewValue, hnewRest, hpieces, hnames⟩ := ih hentries.1.2 hentries.2 hrest
      refine ⟨newFront, (newName, newValue) :: newRest, hnewFront, ?_, ?_, ?_⟩
      · exact List.forall_mem_cons.mpr ⟨⟨hnewName, hnewValue⟩, hnewRest⟩
      · rw [pieces, pieces, hpieces, hpiece]
      · rw [List.map_cons, hnames]

theorem ArrayOptions.exists_of_fits {a : ArrayOptions} {names : List String} (hnodup : names.Nodup)
    (h : Fits a.pieces names) : ∃ b : ArrayOptions, b.pieces = a.pieces ∧ b.names = names := by
  obtain ⟨entries, hentries, hwords⟩ := a
  cases entries with
  | nil =>
    have hnil : names = [] := List.head?_eq_none_iff.mp h.1
    exact ⟨⟨[], by simp, by simp⟩, rfl, hnil.symm⟩
  | cons e rest =>
    obtain ⟨name, value⟩ := e
    rw [List.forall_mem_cons] at hwords
    unfold Fits pieces at h
    rw [dropLast_pieces_cons, String.empty_append, List.head?_cons] at h
    obtain ⟨hhead, htail⟩ := h
    obtain ⟨newNames, rfl⟩ := List.head?_eq_some_iff.mp hhead
    obtain ⟨newValue, newRest, hnewValue, hnewRest, hpieces, rfl⟩ := exists_entries hwords.1.2 hwords.2 htail
    refine ⟨⟨(name, newValue) :: newRest, hnodup, ?_⟩, ?_, rfl⟩
    · exact List.forall_mem_cons.mpr ⟨⟨hwords.1.1, hnewValue⟩, hnewRest⟩
    · exact congrArg (("" ++ name) :: ·) hpieces

/-- The text of options tells their pieces and nothing more. So they can be told from it exactly if no other names, all
different, can be read off the pieces. -/
theorem array_text_decodes_iff (a : ArrayOptions) :
    (∀ b : ArrayOptions, b.shown = a.shown ↔ b.pieces = a.pieces) ∧
      ((∀ b : ArrayOptions, b.shown = a.shown → b = a) ↔
        ∀ names : List String, names.Nodup → Fits a.pieces names → names = a.names) := by
  refine ⟨fun b => shown_eq_iff b a, fun h names hnodup hfits => ?_, fun h b hshown => ?_⟩
  · obtain ⟨b, hpieces, rfl⟩ := ArrayOptions.exists_of_fits hnodup hfits
    rw [h b ((shown_eq_iff b a).mpr hpieces)]
  · have hpieces := (shown_eq_iff b a).mp hshown
    have hfits : Fits a.pieces b.names := hpieces ▸ b.fits_names
    exact ArrayOptions.eq_of_names hpieces (h b.names b.nodup hfits)

/-- Two arrays with different options and the same text: `c` is the end of a value in one, and the start of a name in the
other. -/
theorem array_text_ambiguous :
    ∃ a b : ArrayOptions, a.entries = [("a", "b"), ("cd", "e")] ∧ b.entries = [("a", "bc"), ("d", "e")] ∧
      a.shown = b.shown ∧ a ≠ b := by
  have hword : ∀ s ∈ ["a", "b", "cd", "e", "bc", "d"], IsWord s := by
    intro s hs
    simp only [List.mem_cons, List.not_mem_nil, or_false] at hs
    rcases hs with rfl | rfl | rfl | rfl | rfl | rfl <;> exact ⟨by decide, by decide⟩
  refine ⟨⟨[("a", "b"), ("cd", "e")], by decide, ?_⟩, ⟨[("a", "bc"), ("d", "e")], by decide, ?_⟩, rfl, rfl, rfl, ?_⟩
  · simp [hword]
  · simp [hword]
  · intro h
    have hentries := congrArg ArrayOptions.entries h
    simp at hentries

end GirDoc.Annotations
