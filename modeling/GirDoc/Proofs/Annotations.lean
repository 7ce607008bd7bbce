import GirDoc.Annotations

/-!
# What stops the explanation of annotations

Annotations are explained one after the other. One that is unknown or has no meaning is reported and passed over, and
one whose argument cannot be read stops them all. Which ones do that is told by `Entry.failure?` from the name and
the shape of the argument alone; `tolerates_iff` says that these are the only ones that do any harm.
-/

namespace GirDoc.Annotations

/-- An argument as a comment gives it: nothing, words, or options with names. -/
inductive Argument where
  | nothing
  | words (items : List String)
  | options (entries : List (String × String))
  deriving DecidableEq

/-- The value of an argument. -/
def Argument.value : Argument → Value
  | nothing => .null
  | words items => .list (items.map .text)
  | options entries => .dict (entries.map fun e => (e.1, .text e.2))

/-- An annotation as a comment gives it. -/
structure Entry where
  name : String
  argument : Argument
  deriving DecidableEq

/-- The annotations that have a meaning whatever their argument is. -/
def plainNames : List String :=
  ["allow-none", "inout", "out", "in", "array", "closure", "nullable", "optional"]

namespace Entry

/-- Why the argument of an annotation cannot be read, if it cannot. -/
def failure? (a : Entry) : Option Failure :=
  match a.argument with
  | .nothing => if a.name ∈ ["transfer", "default", "not"] then some .notIndexable else none
  | .words [] => if a.name ∈ ["transfer", "default", "element-type"] then some .noFirstItem else none
  | .words (_ :: _) => none
  | .options [] => if a.name ∈ ["transfer", "default"] then some .noSuchKey else none
  | .options [_] => if a.name ∈ ["transfer", "default", "type", "not"] then some .noSuchKey else none
  | .options (_ :: _ :: _) => if a.name ∈ ["transfer", "default", "type"] then some .noSuchKey else none

/-- Whether an annotation is known and its argument has a meaning. -/
def IsKnown (a : Entry) : Prop :=
  a.name ∈ plainNames ∨
    match a.argument with
    | .words [] => False
    | .words (word :: rest) => a.name ∈ ["element-type", "type", "default"] ∨
        (a.name = "transfer" ∧ word ∈ ["none", "full", "floating", "container"]) ∨
        (a.name = "scope" ∧ word ∈ ["async", "call", "notified"]) ∨
        (a.name = "not" ∧ word = "nullable" ∧ rest = [])
    | _ => a.name = "element-type"

/-- Whether an annotation is unknown, or its argument has no meaning. To skip a parameter is known, though it has no
note. -/
def IsMalformed (a : Entry) : Prop := a.name ≠ "skip" ∧ ¬a.IsKnown

/-- The line that reports an annotation. -/
def line (a : Entry) : String := unknownLine a.name a.argument.value

end Entry

/-- What is found in annotations. -/
def report (entries : List Entry) : Report :=
  explainAll (entries.map fun a => (a.name, a.argument.value))

/-! ## One annotation -/

/-- The note of one annotation, the pair of words `not nullable` included. -/
def note? (a : Entry) : Except Failure (Option Note) := do
  match ← explain a.name a.argument.value with
  | some note => pure (some note)
  | none =>
    if ← isNotNullable a.name a.argument.value then
      pure (some
        { nick := "not nullable"
          help := "NULL is *not* OK, either for passing or returning" })
    else pure none

theorem report_skip {a : Entry} (h : a.name = "skip") (rest : List Entry) :
    report (a :: rest) = report rest := by
  simp [report, explainAll, h]

theorem report_cons {a : Entry} (h : a.name ≠ "skip") (rest : List Entry) :
    report (a :: rest) = match note? a with
      | .error e => .stopped e
      | .ok (some note) => (report rest).withNote note
      | .ok none => (report rest).withLine a.line := by
  unfold report note?
  rw [List.map_cons, explainAll, if_neg h]
  cases explain a.name a.argument.value with
  | error e => rfl
  | ok found =>
    cases found with
    | some note => rfl
    | none =>
      cases hnot : isNotNullable a.name a.argument.value with
      | error e => simp [bind, Except.bind]
      | ok b => cases b <;> simp [bind, Except.bind, pure, Except.pure, Entry.line]

/-- What an annotation can come to: its argument cannot be read, or it is known and has a note, or neither. -/
inductive Answers (a : Entry) : Except Failure (Option Note) → Prop
  | failed {e : Failure} (h : a.failure? = some e) : Answers a (.error e)
  | explained (h : a.failure? = none) (hknown : a.IsKnown) (note : Note) : Answers a (.ok (some note))
  | passedOver (h : a.failure? = none) (hknown : ¬a.IsKnown) : Answers a (.ok none)

theorem answers_of_plain {name : String} (h : name ∈ plainNames) (argument : Argument) :
    Answers ⟨name, argument⟩ (note? ⟨name, argument⟩) := by
  have hknown : Entry.IsKnown ⟨name, argument⟩ := Or.inl h
  simp only [plainNames, List.mem_cons, List.not_mem_nil, or_false] at h
  have hfailure : Entry.failure? ⟨name, argument⟩ = none := by
    unfold Entry.failure?
    rcases h with rfl | rfl | rfl | rfl | rfl | rfl | rfl | rfl <;> split <;> simp
  rcases h with rfl | rfl | rfl | rfl | rfl | rfl | rfl | rfl <;> exact .explained hfailure hknown _

theorem note?_of_explain_none {a : Entry} (h : explain a.name a.argument.value = .ok none) (hname : a.name ≠ "not") :
    note? a = .ok none := by
  simp [note?, h, isNotNullable, hname, bind, Except.bind, pure, Except.pure]

theorem transfer_eq_none {word : String} (h : word ∉ ["none", "full", "floating", "container"]) (rest : List Value) :
    transfer (.list (.text word :: rest)) = .ok none := by
  simp only [List.mem_cons, List.not_mem_nil, or_false, not_or] at h
  simp only [transfer, first, bind, Except.bind]
  split <;> simp_all [pure, Except.pure]

theorem scope_eq_none {word : String} (h : word ∉ ["async", "call", "notified"]) (rest : List Value) :
    scope (.list (.text word :: rest)) = .ok none := by
  simp only [List.mem_cons, List.not_mem_nil, or_false, not_or] at h
  unfold scope
  split <;> simp_all

theorem answers_transfer (argument : Argument) : Answers ⟨"transfer", argument⟩ (note? ⟨"transfer", argument⟩) := by
  rcases argument with _ | (_ | ⟨word, rest⟩) | (_ | ⟨o, _ | ⟨o', rest⟩⟩)
  · exact .failed rfl
  · exact .failed rfl
  · by_cases hword : word ∈ ["none", "full", "floating", "container"]
    · have hknown : Entry.IsKnown ⟨"transfer", .words (word :: rest)⟩ := .inr (.inr (.inl ⟨rfl, hword⟩))
      simp only [List.mem_cons, List.not_mem_nil, or_false] at hword
      rcases hword with rfl | rfl | rfl | rfl <;> exact .explained rfl hknown _
    · rw [note?_of_explain_none (a := ⟨"transfer", .words (word :: rest)⟩) (transfer_eq_none hword _) (by simp)]
      exact .passedOver rfl (by simpa [Entry.IsKnown, plainNames] using hword)
  all_goals exact .failed rfl

theorem answers_scope (argument : Argument) : Answers ⟨"scope", argument⟩ (note? ⟨"scope", argument⟩) := by
  rcases argument with _ | (_ | ⟨word, rest⟩) | (_ | ⟨o, _ | ⟨o', rest⟩⟩)
  case words.cons =>
    by_cases hword : word ∈ ["async", "call", "notified"]
    · have hknown : Entry.IsKnown ⟨"scope", .words (word :: rest)⟩ := .inr (.inr (.inr (.inl ⟨rfl, hword⟩)))
      simp only [List.mem_cons, List.not_mem_nil, or_false] at hword
      rcases hword with rfl | rfl | rfl <;> exact .explained rfl hknown _
    · rw [note?_of_explain_none (a := ⟨"scope", .words (word :: rest)⟩) (scope_eq_none hword _) (by simp)]
      exact .passedOver rfl (by simpa [Entry.IsKnown, plainNames] using hword)
  all_goals exact .passedOver rfl (by simp [Entry.IsKnown, plainNames])

theorem answers_elementType (argument : Argument) :
    Answers ⟨"element-type", argument⟩ (note? ⟨"element-type", argument⟩) := by
  rcases argument with _ | (_ | ⟨word, rest⟩) | (_ | ⟨o, _ | ⟨o', rest⟩⟩)
  case words.nil => exact .failed rfl
  all_goals exact .explained rfl (by simp [Entry.IsKnown, plainNames]) _

theorem answers_type (argument : Argument) : Answers ⟨"type", argument⟩ (note? ⟨"type", argument⟩) := by
  rcases argument with _ | (_ | ⟨word, rest⟩) | (_ | ⟨o, _ | ⟨o', rest⟩⟩)
  case words.cons => exact .explained rfl (by simp [Entry.IsKnown, plainNames]) _
  case options.cons.nil => exact .failed rfl
  case options.cons.cons => exact .failed rfl
  all_goals exact .passedOver rfl (by simp [Entry.IsKnown, plainNames])

theorem answers_default (argument : Argument) : Answers ⟨"default", argument⟩ (note? ⟨"default", argument⟩) := by
  rcases argument with _ | (_ | ⟨word, rest⟩) | (_ | ⟨o, _ | ⟨o', rest⟩⟩)
  case words.cons => exact .explained rfl (by simp [Entry.IsKnown, plainNames]) _
  all_goals exact .failed rfl

theorem answers_not (argument : Argument) : Answers ⟨"not", argument⟩ (note? ⟨"not", argument⟩) := by
  rcases argument with _ | (_ | ⟨word, _ | ⟨word', rest⟩⟩) | (_ | ⟨o, _ | ⟨o', rest⟩⟩)
  case nothing => exact .failed rfl
  case words.cons.nil =>
    by_cases hword : word = "nullable"
    · subst hword
      exact .explained rfl (by simp [Entry.IsKnown, plainNames]) _
    · have hnone : note? ⟨"not", .words [word]⟩ = .ok none := by
        simp [note?, explain, isNotNullable, Argument.value, count, first, Value.same, hword, bind, Except.bind, pure,
          Except.pure]
      rw [hnone]
      exact .passedOver rfl (by simpa [Entry.IsKnown, plainNames] using hword)
  case options.cons.nil => exact .failed rfl
  all_goals
    refine .passedOver rfl (by simp [Entry.IsKnown, plainNames])

/-- The annotations that look at their argument. -/
def readingNames : List String := ["transfer", "scope", "element-type", "type", "default", "not"]

theorem answers_of_reading {name : String} (h : name ∈ readingNames) (argument : Argument) :
    Answers ⟨name, argument⟩ (note? ⟨name, argument⟩) := by
  simp only [readingNames, List.mem_cons, List.not_mem_nil, or_false] at h
  rcases h with rfl | rfl | rfl | rfl | rfl | rfl
  · exact answers_transfer argument
  · exact answers_scope argument
  · exact answers_elementType argument
  · exact answers_type argument
  · exact answers_default argument
  · exact answers_not argument

theorem answers_of_unknown {name : String} (hplain : name ∉ plainNames) (hreading : name ∉ readingNames)
    (argument : Argument) : Answers ⟨name, argument⟩ (note? ⟨name, argument⟩) := by
  have hknown : ¬Entry.IsKnown ⟨name, argument⟩ := by
    simp only [readingNames, List.mem_cons, List.not_mem_nil, or_false, not_or] at hreading
    simp only [Entry.IsKnown, hplain, false_or]
    split <;> simp [hreading]
  simp only [plainNames, readingNames, List.mem_cons, List.not_mem_nil, or_false, not_or] at hplain hreading
  have hnone : explain name argument.value = .ok none := by
    unfold explain
    split <;> simp_all
  rw [note?_of_explain_none (a := ⟨name, argument⟩) hnone hreading.2.2.2.2.2]
  refine .passedOver ?_ hknown
  unfold Entry.failure?
  split <;> simp [hreading]

theorem answers_note? (a : Entry) : Answers a (note? a) := by
  by_cases hplain : a.name ∈ plainNames
  · exact answers_of_plain hplain a.argument
  by_cases hreading : a.name ∈ readingNames
  · exact answers_of_reading hreading a.argument
  · exact answers_of_unknown hplain hreading a.argument

/-! ## All annotations -/

/-- What is found in annotations and in those after them, if nothing stops the first ones. -/
def Report.followedBy (r next : Report) : Report := ⟨r.notes ++ next.notes, r.printed ++ next.printed, next.failure⟩

theorem Report.followedBy_assoc (r s t : Report) : (r.followedBy s).followedBy t = r.followedBy (s.followedBy t) := by
  simp [followedBy]

theorem failure?_of_skip {a : Entry} (h : a.name = "skip") : a.failure? = none := by
  unfold Entry.failure?
  split <;> simp [h]

theorem not_isKnown_of_skip {a : Entry} (h : a.name = "skip") : ¬a.IsKnown := by
  simp only [Entry.IsKnown, plainNames, h]
  split <;> simp

/-- An annotation whose argument cannot be read stops what comes after it. -/
theorem report_of_failure {a : Entry} {e : Failure} (h : a.failure? = some e) (rest : List Entry) :
    report (a :: rest) = .stopped e := by
  have hskip : a.name ≠ "skip" := by
    intro hname
    rw [failure?_of_skip hname] at h
    cases h
  have hanswers := answers_note? a
  rw [report_cons hskip]
  generalize note? a = answer at hanswers
  cases hanswers with
  | failed he => rw [Option.some.inj (he.symm.trans h)]
  | explained hnone => cases h.symm.trans hnone
  | passedOver hnone => cases h.symm.trans hnone

theorem report_of_isKnown {a : Entry} (h : a.failure? = none) (hknown : a.IsKnown) :
    ∃ note, ∀ rest, report (a :: rest) = (report rest).withNote note := by
  have hskip : a.name ≠ "skip" := fun hname => not_isKnown_of_skip hname hknown
  have hanswers := answers_note? a
  have hcons := fun rest => report_cons hskip rest
  generalize note? a = answer at hanswers hcons
  cases hanswers with
  | failed he => cases h.symm.trans he
  | explained _ _ note => exact ⟨note, hcons⟩
  | passedOver _ hnot => exact absurd hknown hnot

theorem report_of_isMalformed {a : Entry} (h : a.failure? = none) (hmalformed : a.IsMalformed)
    (rest : List Entry) : report (a :: rest) = (report rest).withLine a.line := by
  have hanswers := answers_note? a
  rw [report_cons hmalformed.1]
  generalize note? a = answer at hanswers
  cases hanswers with
  | failed he => cases h.symm.trans he
  | explained _ hknown => exact absurd hknown hmalformed.2
  | passedOver => rfl

/-- What one annotation adds does not depend on those after it. -/
theorem report_cons_of_none {a : Entry} (h : a.failure? = none) (rest : List Entry) :
    report (a :: rest) = (report [a]).followedBy (report rest) := by
  by_cases hskip : a.name = "skip"
  · rw [report_skip hskip, report_skip hskip]
    rfl
  by_cases hknown : a.IsKnown
  · obtain ⟨note, hnote⟩ := report_of_isKnown h hknown
    rw [hnote, hnote]
    rfl
  · rw [report_of_isMalformed h ⟨hskip, hknown⟩, report_of_isMalformed h ⟨hskip, hknown⟩]
    rfl

/-- Annotations that can all be read are explained apart from those after them. -/
theorem report_append {front : List Entry} (h : ∀ a ∈ front, a.failure? = none) (back : List Entry) :
    report (front ++ back) = (report front).followedBy (report back) := by
  induction front with
  | nil => rfl
  | cons a front ih =>
    rw [List.forall_mem_cons] at h
    rw [List.cons_append, report_cons_of_none h.1, report_cons_of_none h.1 front, ih h.2, Report.followedBy_assoc]

/-- The first annotation whose argument cannot be read decides how reading fails. -/
theorem failure_report (entries : List Entry) :
    (report entries).failure = entries.findSome? Entry.failure? := by
  induction entries with
  | nil => rfl
  | cons a rest ih =>
    cases h : a.failure? with
    | some e =>
      rw [report_of_failure h, List.findSome?_cons, h]
      rfl
    | none =>
      rw [report_cons_of_none h, List.findSome?_cons, h]
      exact ih

/-! ## Tolerance -/

/-- No annotation does harm: none stops the others, one that is malformed is reported and passed over, and one that is
known adds a note of its own between those of the others. -/
structure Tolerates (entries : List Entry) : Prop where
  failure : (report entries).failure = none
  passesOver : ∀ before a after, entries = before ++ a :: after → a.IsMalformed →
    (report entries).notes = (report (before ++ after)).notes ∧
      (report entries).printed = (report before).printed ++ a.line :: (report after).printed
  explains : ∀ before a after, entries = before ++ a :: after → a.IsKnown →
    ∃ note, (report [a]).notes = [note] ∧
      (report entries).notes = (report before).notes ++ note :: (report after).notes ∧
      (report entries).printed = (report (before ++ after)).printed

theorem tolerates_of_readable {entries : List Entry} (h : ∀ a ∈ entries, a.failure? = none) :
    Tolerates entries := by
  constructor
  · rw [failure_report, List.findSome?_eq_none_iff]
    exact h
  · rintro before a after rfl hmalformed
    rw [List.forall_mem_append, List.forall_mem_cons] at h
    obtain ⟨hbefore, ha, -⟩ := h
    rw [report_append hbefore, report_append hbefore, report_of_isMalformed ha hmalformed]
    exact ⟨rfl, rfl⟩
  · rintro before a after rfl hknown
    rw [List.forall_mem_append, List.forall_mem_cons] at h
    obtain ⟨hbefore, ha, -⟩ := h
    obtain ⟨note, hnote⟩ := report_of_isKnown ha hknown
    rw [report_append hbefore, report_append hbefore, hnote, hnote]
    exact ⟨note, rfl, rfl, rfl⟩

/-- Annotations are explained without harm exactly if the argument of each can be read; else the first one that cannot
be read decides how the reading fails. -/
theorem tolerates_iff (entries : List Entry) :
    (Tolerates entries ↔ ∀ a ∈ entries, a.failure? = none) ∧
      (report entries).failure = entries.findSome? Entry.failure? := by
  refine ⟨⟨fun h => ?_, tolerates_of_readable⟩, failure_report entries⟩
  have hfailure := h.failure
  rwa [failure_report, List.findSome?_eq_none_iff] at hfailure

/-- An annotation of the ownership without an argument takes the notes of its neighbours with it. -/
theorem not_tolerates_transfer :
    ¬Tolerates [⟨"in", .nothing⟩, ⟨"transfer", .nothing⟩, ⟨"nullable", .nothing⟩] := by
  intro h
  exact absurd h.failure (by decide)

end GirDoc.Annotations
