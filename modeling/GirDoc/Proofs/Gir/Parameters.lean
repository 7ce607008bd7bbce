import GirDoc.Gir.Format
import GirDoc.Proofs.Gir.Changes
import GirDoc.Proofs.Gir.Elements
import GirDoc.Proofs.Gir.Hierarchy
import GirDoc.Proofs.Gir.Signatures

/-!
# What becomes of parameters

A function of C has its parameters, and its element describes them in the same order. From then on each parameter of C
has the direction of the one in its place. Those that go in are passed by callers in other languages, and those that
are set are items of the result there.

* `start_pairParameters` gives each parameter what the one in its place has, and leaves all other symbols alone. It
  fails exactly if there are too few of these.
* `start_notePassed` keeps those that a caller passes, in order.
* `Updated` says all that updating a function does to its symbols.
* `start_formatReturn` says which items of the result are shown in which language.
* Together they say that no parameter gets lost (`parameters_conserved`).
-/

namespace GirDoc.Gir

open Session Xml

variable {x : Index} {n p r : Node} {s t t' : Session} {id i d : SymbolId} {y : Symbol}

/-! ## Changing symbols -/

/-- One symbol was changed, and all others are as they were. -/
structure Sets (s t : Session) (id : SymbolId) (y : Symbol) : Prop where
  index : t.index = s.index
  there : t.database.get? id = some y
  others : ∀ j, j ≠ id → t.database.get? j = s.database.get? j

theorem Sets.trans {y' : Symbol} (h : Sets s t id y) (h' : Sets t t' id y') : Sets s t' id y' where
  index := h'.index.trans h.index
  there := h'.there
  others j hj := (h'.others j hj).trans (h.others j hj)

theorem start_changeSymbol (hid : s.database.get? id = some y) (f : Symbol → Symbol) :
    ∃ t, (changeSymbol id f).start s = (.ok (), t) ∧ Sets s t id (f y) := by
  refine ⟨{ s with database := s.database.modify id f }, rfl, rfl, ?_, fun j hj => ?_⟩
  · show (s.database.modify id f).get? id = _
    rw [Database.get?_modify, if_pos rfl, hid]
    rfl
  · show (s.database.modify id f).get? j = _
    rw [Database.get?_modify, if_neg hj.symm]

theorem start_setAttribute (hid : s.database.get? id = some y) (htakes : y.takesAttributes) (key : String)
    (a : Attribute) : ∃ t, (setAttribute id key a).start s = (.ok (), t) ∧ Sets s t id (y.setAttribute key a) := by
  obtain ⟨t, hchange, hsets⟩ := start_changeSymbol hid (·.setAttribute key a)
  refine ⟨t, ?_, hsets⟩
  rw [setAttribute, Attempt.start_bind_ok (start_symbol hid)]
  simp only [htakes]
  exact hchange

theorem attributeValue_setAttribute (y : Symbol) (key : String) (v : Value) :
    (y.setAttribute key (.value v)).attributeValue key = v := by
  simp only [Symbol.attributeValue, Symbol.setAttribute, Value.lookup_put, if_pos]

theorem lookup_filter_ne_isNone {entries : List (String × Value)} {key : String} (h : (entries.lookup key).isNone)
    (word : String) : ((entries.filter fun e => e.1 ≠ word).lookup key).isNone := by
  rw [Option.isNone_iff_eq_none, List.lookup_eq_none_iff] at h ⊢
  exact fun e he => h e (List.mem_of_mem_filter he)

theorem takesAttributes_dropPlain (htakes : y.takesAttributes) (word : String) :
    (y.dropPlain word).takesAttributes := by
  rw [Symbol.takesAttributes, Bool.and_eq_true] at htakes ⊢
  exact ⟨lookup_filter_ne_isNone htakes.1 word, htakes.2⟩

/-! ## Pairing -/

/-- What becomes of a parameter of C: it has the name of the type and the direction that the one in its place has. -/
def paired (x : Index) (p : Node) (y : Symbol) : Symbol :=
  (y.setAttribute "gi_name" (.value ((parameterSymbol x p).attributeValue "gi_name"))).setAttribute "direction"
    (.value ((parameterSymbol x p).attributeValue "direction"))

theorem attributeValue_direction (x : Index) (p : Node) :
    (parameterSymbol x p).attributeValue "direction" = .text (directionOf p) := rfl

theorem start_pairParameter (hd : s.database.get? d = some (parameterSymbol x p)) (hi : s.database.get? i = some y)
    (htakes : y.takesAttributes) :
    ∃ t, (pairParameter (some i) (some d)).start s = (.ok (), t) ∧ Sets s t i (paired x p y) := by
  obtain ⟨t, hname, hsets⟩ := start_setAttribute hi htakes "gi_name"
    (.value ((parameterSymbol x p).attributeValue "gi_name"))
  obtain ⟨t', hdirection, hsets'⟩ := start_setAttribute hsets.there htakes "direction"
    (.value ((parameterSymbol x p).attributeValue "direction"))
  refine ⟨t', ?_, hsets.trans hsets'⟩
  rw [pairParameter, Attempt.start_bind_ok (Attempt.start_need_some _ _ _), Attempt.start_bind_ok (start_symbol hd),
    Attempt.start_bind_ok (Attempt.start_need_some _ _ _), Attempt.start_bind_ok hname]
  exact hdirection

/-- **Each parameter gets what the one in its place has, and other symbols stay as they are.** This fails exactly if
there are too few of those, after all of them were used. -/
theorem start_pairParameters {ps : List Node} {described ids : List SymbolId}
    (hdescribed : List.Forall₂ (fun p d => s.database.get? d = some (parameterSymbol x p) ∧ d ∉ ids) ps described)
    (hids : ∀ i ∈ ids, ∃ y, s.database.get? i = some y ∧ y.takesAttributes) (hnodup : ids.Nodup) :
    ∃ t, (pairParameters (ids.map some) described).start s =
        (if ids.length ≤ ps.length then .ok () else .error .outOfRange, t) ∧ t.index = s.index ∧
      (∀ e ∈ ps.zip ids, ∃ y, s.database.get? e.2 = some y ∧ t.database.get? e.2 = some (paired x e.1 y)) ∧
      ∀ j, j ∉ ids → t.database.get? j = s.database.get? j := by
  induction ids generalizing s ps described with
  | nil =>
    refine ⟨s, ?_, rfl, by simp, fun _ _ => rfl⟩
    simp only [List.length_nil, Nat.zero_le, if_true]
    rfl
  | cons i ids ih =>
    cases hdescribed with
    | nil => exact ⟨s, rfl, rfl, by simp, fun _ _ => rfl⟩
    | @cons p d ps described hd hrest =>
      obtain ⟨y, hy, htakes⟩ := hids i List.mem_cons_self
      rw [List.nodup_cons] at hnodup
      obtain ⟨t, hfirst, hsets⟩ := start_pairParameter hd.1 hy htakes
      have hother {j : SymbolId} (hj : j ∈ ids) : t.database.get? j = s.database.get? j :=
        hsets.others j fun heq => hnodup.1 (heq ▸ hj)
      -- the parameters that are left, and the symbols that describe them, are still as they were
      have hleft : ∀ j ∈ ids, ∃ y, t.database.get? j = some y ∧ y.takesAttributes := fun j hj => by
        rw [hother hj]
        exact hids j (List.mem_cons_of_mem _ hj)
      have hkept : List.Forall₂ (fun p d => t.database.get? d = some (parameterSymbol x p) ∧ d ∉ ids) ps described := by
        refine hrest.imp fun p d h => ?_
        rw [List.mem_cons, not_or] at h
        exact ⟨(hsets.others d h.2.1).trans h.1, h.2.2⟩
      obtain ⟨t', hpairs, hindex, hpaired, hothers⟩ := ih hkept hleft hnodup.2
      refine ⟨t', ?_, hindex.trans hsets.index, fun e he => ?_, fun j hj => ?_⟩
      · simp only [List.length_cons, Nat.add_le_add_iff_right]
        exact (Attempt.start_bind_ok hfirst).trans hpairs
      · rcases List.mem_cons.mp he with rfl | he
        · exact ⟨y, hy, (hothers i hnodup.1).trans hsets.there⟩
        · obtain ⟨z, hz, hz'⟩ := hpaired e he
          exact ⟨z, (hother (List.of_mem_zip he).2) ▸ hz, hz'⟩
      · rw [List.mem_cons, not_or] at hj
        rw [hothers j hj.2, hsets.others j hj.1]

/-- A parameter of C has the direction that an element says. -/
def HasDirection (s : Session) (p : Node) (i : SymbolId) : Prop :=
  ∃ y, s.database.get? i = some y ∧ y.takesAttributes ∧ y.attributeValue "direction" = .text (directionOf p)

theorem hasDirection_of_paired (htakes : y.takesAttributes) (h : t.database.get? i = some (paired x p y)) :
    HasDirection t p i :=
  ⟨_, h, htakes, (attributeValue_setAttribute _ _ _).trans (attributeValue_direction x p)⟩

/-! ## Passing -/

theorem start_filterM {α : Type} {f : α → Doc Bool} {keep : α → Bool} {items : List α}
    (h : ∀ a ∈ items, (f a).start s = (.ok (keep a), s)) :
    (items.filterM f).start s = (.ok (items.filter keep), s) := by
  have haux (kept : List α) :
      (items.filterAuxM f kept).start s = (.ok ((items.filter keep).reverse ++ kept), s) := by
    induction items generalizing kept with
    | nil => rfl
    | cons a rest ih =>
      have hrest := ih fun a ha => h a (List.mem_cons_of_mem _ ha)
      rw [List.filterAuxM, Attempt.start_bind_ok (h a List.mem_cons_self), hrest]
      cases hkeep : keep a <;> simp [hkeep]
  rw [List.filterM, Attempt.start_bind_ok (haux [])]
  simp

/-- A caller passes what is in a place. -/
def isPassed (t : Session) (slot : SymbolSlot) : Bool :=
  match slot.bind t.database.get? with
  | some y => y.attributeValue "direction" == .text "in" || y.attributeValue "direction" == .text "inout"
  | none => false

/-- Of parameters with their elements those that a caller passes: those that go in, without the instance of a
method. -/
def passedAmong (isMethod : Bool) (pairs : List (Node × SymbolId)) : List SymbolId :=
  ((pairs.drop (if isMethod then 1 else 0)).filter fun e => directionOf e.1 ∈ ["in", "inout"]).map Prod.snd

theorem beq_text (a b : String) : ((Value.text a == Value.text b) : Bool) = (a == b) := rfl

theorem HasDirection.isPassed (h : HasDirection t p i) :
    isPassed t (some i) = decide (directionOf p ∈ ["in", "inout"]) := by
  obtain ⟨y, hy, -, hdirection⟩ := h
  simp only [Gir.isPassed, Option.bind_some, hy, hdirection, beq_text, List.mem_cons, List.not_mem_nil, or_false]
  rw [Bool.decide_or]
  rfl

theorem filter_isPassed {ps : List Node} {ids : List SymbolId} (h : List.Forall₂ (HasDirection t) ps ids) :
    (ids.map some).filter (isPassed t) = (passedAmong false (ps.zip ids)).map some := by
  induction h with
  | nil => rfl
  | cons hfirst _ ih =>
    rw [List.map_cons, List.filter_cons, hfirst.isPassed, ih]
    simp only [passedAmong, Bool.false_eq_true, if_false, List.drop_zero, List.zip_cons_cons, List.filter_cons]
    split <;> rfl

theorem start_attributeOf (htakes : y.takesAttributes) (key : String) (s : Session) :
    (Session.attributeOf y key).start s = (.ok (y.attributeValue key), s) := by
  rw [Session.attributeOf, if_pos htakes]
  rfl

theorem exists_hasDirection {ps : List Node} {ids : List SymbolId} (h : List.Forall₂ (HasDirection t) ps ids)
    (hi : i ∈ ids) : ∃ p, HasDirection t p i := by
  induction h with
  | nil => cases hi
  | cons hfirst _ ih =>
    rcases List.mem_cons.mp hi with rfl | hi
    · exact ⟨_, hfirst⟩
    · exact ih hi

/-- **The parameters that a caller passes are those that go in.** -/
theorem start_passedParameters {ps : List Node} {ids : List SymbolId} (h : List.Forall₂ (HasDirection t) ps ids)
    (isMethod : Bool) : (passedParameters isMethod (ids.map some)).start t =
      (.ok ((passedAmong isMethod (ps.zip ids)).map some), t) := by
  let k := if isMethod then 1 else 0
  have hown : (if isMethod then (ids.map some).drop 1 else ids.map some) = (ids.drop k).map some := by
    cases isMethod <;> simp [k]
  have hpairs : passedAmong isMethod (ps.zip ids) = passedAmong false ((ps.drop k).zip (ids.drop k)) := by
    rw [passedAmong, List.zip, List.drop_zipWith]
    rfl
  have hdrop : List.Forall₂ (HasDirection t) (ps.drop k) (ids.drop k) := List.forall₂_drop k h
  rw [passedParameters, hown, hpairs, ← filter_isPassed hdrop]
  refine start_filterM fun slot hslot => ?_
  obtain ⟨i, hi, rfl⟩ := List.mem_map.mp hslot
  obtain ⟨p, y, hy, htakes, -⟩ := exists_hasDirection hdrop hi
  have hsymbol : (symbolIn (some i)).start t = (.ok y, t) := start_symbol hy
  rw [Attempt.start_bind_ok hsymbol, Attempt.start_bind_ok (start_attributeOf htakes _ t), isPassed,
    Option.bind_some, hy]
  rfl

/-- What a caller passes is noted. -/
theorem start_notePassed {ps : List Node} {ids : List SymbolId} (hid : t.database.get? id = some y)
    (htakes : y.takesAttributes) (h : List.Forall₂ (HasDirection t) ps ids) :
    ∃ t', (notePassed id (ids.map some)).start t = (.ok (), t') ∧ Sets t t' id
      (y.setAttribute "parameters" (.symbols ((passedAmong y.isMethod (ps.zip ids)).map some))) := by
  obtain ⟨t', hset, hsets⟩ := start_setAttribute hid htakes "parameters"
    (.symbols ((passedAmong y.isMethod (ps.zip ids)).map some))
  refine ⟨t', ?_, hsets⟩
  rw [notePassed, Attempt.start_bind_ok (start_symbol hid), Attempt.start_bind_ok (start_passedParameters h y.isMethod)]
  exact hset

/-! ## Functions -/

/-- A function of C, with its parameters. Introspection can say something of all of them. -/
structure IsFunction (db : Database) (id : SymbolId) (ids : List SymbolId) : Prop where
  function : ∃ f, db.get? id = some f ∧ f.takesAttributes ∧ f.parameters = ids.map some
  parameter : ∀ i ∈ ids, ∃ y, db.get? i = some y ∧ y.takesAttributes
  distinct : (id :: ids).Nodup

/-- What is noted of a function at first: whether it is a method, and its names. -/
def markFunction (id : SymbolId) (name : String) (n : Node) : Doc Unit := do
  debug ("Updating function " ++ (← symbol id).displayed)
  changeSymbol id fun s => { s.dropPlain "is_method" with isMethod := n.tag.endsWith "method" }
  let _ ← addNames name n

/-- What is noted of the result of a function. -/
def noteResult (id : SymbolId) (n : Node) (result : List SymbolSlot) : Doc Unit := do
  changeSymbol id fun s => { s.dropPlain "return_value" with returnValue := result }
  if (n.attribute? "throws").isSome then changeSymbol id fun s => { s.dropPlain "throws" with throws := true }

/-- What is noted of the parameters of a function, and of those that a caller passes. -/
def noteParameters (id : SymbolId) (n : Node) (described : List SymbolId) : Doc Unit := do
  let f ← symbol id
  let parameters := if (n.attribute? "throws").isSome then f.parameters.dropLast else f.parameters
  pairParameters parameters described
  notePassed id parameters

theorem updateFunction_eq (id : SymbolId) (name : String) (n : Node) : updateFunction id name n = (do
    markFunction id name n
    let signature ← createSignature n
    noteResult id n signature.2
    noteParameters id n signature.1) := by
  unfold updateFunction markFunction noteResult noteParameters
  cases (n.attribute? "throws").isSome
  all_goals simp only [bind_assoc, pure_bind, Bool.false_eq_true, if_true, if_false]

/-- A function that is marked. -/
def marked (n : Node) (f : Symbol) : Symbol := { f.dropPlain "is_method" with isMethod := n.tag.endsWith "method" }

/-- A function with its result. -/
def noted (n : Node) (result : List SymbolSlot) (f : Symbol) : Symbol :=
  if (n.attribute? "throws").isSome then
    { (f.dropPlain "return_value").dropPlain "throws" with returnValue := result, throws := true }
  else { f.dropPlain "return_value" with returnValue := result }

theorem takesAttributes_marked (htakes : y.takesAttributes) (n : Node) : (marked n y).takesAttributes :=
  takesAttributes_dropPlain htakes "is_method"

theorem takesAttributes_noted (htakes : y.takesAttributes) (n : Node) (result : List SymbolSlot) :
    (noted n result y).takesAttributes := by
  have htakes' := takesAttributes_dropPlain htakes "return_value"
  unfold noted
  split
  · exact takesAttributes_dropPlain htakes' "throws"
  · exact htakes'

@[simp] theorem parameters_noted (n : Node) (result : List SymbolSlot) (f : Symbol) :
    (noted n result f).parameters = f.parameters := by
  unfold noted
  split <;> rfl

@[simp] theorem isMethod_noted (n : Node) (result : List SymbolSlot) (f : Symbol) :
    (noted n result f).isMethod = f.isMethod := by
  unfold noted
  split <;> rfl

@[simp] theorem returnValue_noted (n : Node) (result : List SymbolSlot) (f : Symbol) :
    (noted n result f).returnValue = result := by
  unfold noted
  split <;> rfl

/-- The names of symbols stay as they are. -/
theorem allows_names : C.Allows fun s t => t.names = s.names where
  refl _ := rfl
  trans h h' := h'.trans h
  log _ _ := rfl
  quoted _ _ := rfl
  leftOut _ _ := rfl
  add _ _ := rfl
  change _ _ _ _ := rfl
  request _ _ _ _ _ := rfl

theorem start_markFunction (hid : s.database.get? id = some y) {parts : List String} (hparts : nameParts n = .ok parts)
    (name : String) : ∃ t, (markFunction id name n).start s = (.ok (), t) ∧ Sets s t id (marked n y) ∧
      t.names = withNames s.names n name parts := by
  have hdebug (message : String) :
      (debug message).start s = (.ok (), { s with log := s.log ++ [.debug message] }) := rfl
  let s₁ : Session := { s with log := s.log ++ [.debug ("Updating function " ++ y.displayed)] }
  obtain ⟨t, hchange, hsets⟩ := start_changeSymbol (s := s₁) hid
    fun s => { s.dropPlain "is_method" with isMethod := n.tag.endsWith "method" }
  have hnames : t.names = s₁.names := by
    refine C.Leads.of_start (R := fun s t => t.names = s.names) (C.leads_changeSymbol allows_names id ?_) hchange
    exact fun _ => rfl
  refine ⟨{ t with names := withNames t.names n name parts }, ?_, ⟨hsets.index, hsets.there, hsets.others⟩, ?_⟩
  · rw [markFunction, Attempt.start_bind_ok (start_symbol hid), Attempt.start_bind_ok (hdebug _),
      Attempt.start_bind_ok hchange, addNames, hparts]
    rfl
  · show withNames t.names n name parts = _
    rw [hnames]

theorem start_noteResult (hid : s.database.get? id = some y) (n : Node) (result : List SymbolSlot) :
    ∃ t, (noteResult id n result).start s = (.ok (), t) ∧ Sets s t id (noted n result y) := by
  obtain ⟨t, hresult, hsets⟩ := start_changeSymbol hid
    fun s => { s.dropPlain "return_value" with returnValue := result }
  rw [noteResult, Attempt.start_bind_ok hresult, noted]
  split
  · obtain ⟨t', hthrows, hsets'⟩ := start_changeSymbol hsets.there
      fun s => { s.dropPlain "throws" with throws := true }
    exact ⟨t', hthrows, hsets.trans hsets'⟩
  · exact ⟨t, rfl, hsets⟩

theorem leads_pairParameters {R : Session → Session → Prop} (h : C.Allows R) (slots : List SymbolSlot)
    (described : List SymbolId) : C.Leads R (pairParameters slots described) := by
  induction slots generalizing described with
  | nil => exact h.pure _
  | cons slot rest ih =>
    refine h.bind ?_ fun _ => ih _
    refine h.bind (h.need _ _) fun d => h.bind (C.leads_symbol h d) fun _ => h.bind (h.need _ _) fun id => ?_
    exact h.bind (leads_setAttribute h id _ _) fun _ => leads_setAttribute h id _ _

theorem leads_noteResult {R : Session → Session → Prop} (h : C.Allows R) (id : SymbolId) (n : Node)
    (result : List SymbolSlot) : C.Leads R (noteResult id n result) := by
  refine h.bind (C.leads_changeSymbol h id fun _ => rfl) fun _ => ?_
  split
  · exact C.leads_changeSymbol h id fun _ => rfl
  · exact h.pure _

theorem leads_noteParameters {R : Session → Session → Prop} (h : C.Allows R) (id : SymbolId) (n : Node)
    (described : List SymbolId) : C.Leads R (noteParameters id n described) :=
  h.bind (C.leads_symbol h id) fun _ => h.bind (leads_pairParameters h _ _) fun _ => leads_notePassed h id _

/-- The parameters that the element of a function describes: all but that for the error of one that throws. -/
def ownIds (n : Node) (ids : List SymbolId) : List SymbolId :=
  if (n.attribute? "throws").isSome then ids.dropLast else ids

/-- As many parameters as the element of a function describes, and one more at the end if it throws. -/
def CountsMatch (n : Node) (ids : List SymbolId) : Prop :=
  ids.length = (describedNodes n).length + if (n.attribute? "throws").isSome then 1 else 0

variable {ids : List SymbolId}

theorem ownIds_sublist (n : Node) (ids : List SymbolId) : (ownIds n ids).Sublist ids := by
  unfold ownIds
  split
  · exact List.dropLast_sublist ids
  · exact List.Sublist.refl ids

theorem length_ownIds (h : CountsMatch n ids) : (ownIds n ids).length = (describedNodes n).length := by
  unfold CountsMatch at h
  unfold ownIds
  split
  · next hthrows => rw [List.length_dropLast, h, if_pos hthrows, Nat.add_sub_cancel]
  · next hthrows => rw [h, if_neg hthrows, Nat.add_zero]

/-- The parameter for the error is paired with nothing. -/
theorem zip_ownIds (h : CountsMatch n ids) : (describedNodes n).zip (ownIds n ids) = (describedNodes n).zip ids := by
  have hlength := length_ownIds h
  unfold ownIds at hlength ⊢
  split
  · next hthrows =>
    rw [if_pos hthrows] at hlength
    have hne : ids ≠ [] := by
      rintro rfl
      simp [CountsMatch, hthrows] at h
    conv_rhs => rw [← List.dropLast_append_getLast hne, ← List.append_nil (describedNodes n)]
    rw [List.zip_append hlength.symm, List.zip_nil_left, List.append_nil]
  · rfl

theorem zip_take_length (ps : List Node) (ids : List SymbolId) : (ps.take ids.length).zip ids = ps.zip ids := by
  have htake : (ps.zip ids).take ids.length = (ps.take ids.length).zip ids := by
    rw [List.zip, List.take_zipWith, List.take_length]
  rw [← htake, List.take_of_length_le]
  rw [List.length_zip]
  exact Nat.min_le_right _ _

/-- The parameters of a function have the directions of those in their places. -/
theorem forall₂_hasDirection {ps : List Node} (hlength : ids.length ≤ ps.length)
    (htakes : ∀ i ∈ ids, ∃ y, s.database.get? i = some y ∧ y.takesAttributes)
    (h : ∀ e ∈ ps.zip ids, ∃ y, s.database.get? e.2 = some y ∧ t.database.get? e.2 = some (paired x e.1 y)) :
    List.Forall₂ (HasDirection t) (ps.take ids.length) ids := by
  rw [List.forall₂_iff_zip, zip_take_length, List.length_take, Nat.min_eq_left hlength]
  refine ⟨rfl, fun {p i} he => ?_⟩
  obtain ⟨y, hy, hpaired⟩ := h _ he
  obtain ⟨y', hy', hytakes⟩ := htakes i (List.of_mem_zip he).2
  cases hy.symm.trans hy'
  exact hasDirection_of_paired hytakes hpaired

/-- A function was marked and has its result, and the symbols of its signature were added. All other symbols are as they
were. -/
structure Signed (n r : Node) (id : SymbolId) (f : Symbol) (described : List SymbolId) (result : List SymbolSlot)
    (s t : Session) : Prop where
  index : t.index = s.index
  function : t.database.get? id = some (noted n result (marked n f))
  described : List.Forall₂ (fun p d => Made s t d (parameterSymbol s.index p)) (describedNodes n) described
  result : List.Forall₂ (Fills s t) (returnItems s.index r (setNodes n)) result
  kept : ∀ j y, j ≠ id → s.database.get? j = some y → t.database.get? j = some y

/-- What is left of updating a function once its signature was made. -/
theorem start_updateFunction_signed {f : Symbol} (hn : IsDescribed n)
    (hf : s.database.get? id = some f) (hr : n.child? (core "return-value") = some r) {parts : List String}
    (hparts : nameParts n = .ok parts) (name : String) :
    ∃ described result t, (updateFunction id name n).start s = (noteParameters id n described).start t ∧
      Signed n r id f described result s t ∧ t.names = withNames s.names n name parts := by
  obtain ⟨s₁, hmark, hsets₁, hnames₁⟩ := start_markFunction hf hparts name
  obtain ⟨described, result, s₂, hsignature, hgrows, hdescribed, hfills⟩ :=
    start_createSignature s₁ hn hr
  rw [hsets₁.index] at hdescribed hfills
  obtain ⟨t, hresult, hsets⟩ := start_noteResult (hgrows.kept _ _ hsets₁.there) n result
  -- what was made is not the function, so it was not there before the function was marked
  have hmade {j : SymbolId} {y : Symbol} (h : Made s₁ s₂ j y) : Made s t j y := by
    have hj : j ≠ id := h.ne hsets₁.there
    exact ⟨(hsets₁.others j hj).symm.trans h.fresh, (hsets.others j hj).trans h.there⟩
  refine ⟨described, result, t, ?_, ⟨?_, hsets.there, hdescribed.imp fun _ _ => hmade, ?_, fun j y hj hy => ?_⟩, ?_⟩
  · rw [updateFunction_eq, Attempt.start_bind_ok hmark, Attempt.start_bind_ok hsignature, Attempt.start_bind_ok hresult]
  · rw [hsets.index, hgrows.index, hsets₁.index]
  · refine hfills.imp fun e slot h => ?_
    cases h with
    | empty => exact .empty
    | made h => exact .made (hmade h)
  · rw [hsets.others j hj]
    exact hgrows.kept j y ((hsets₁.others j hj).trans hy)
  · rw [← hnames₁]
    exact ((leads_noteResult allows_names id n result).of_start hresult).trans
      ((leads_createSignature allows_names n).of_start hsignature)

/-- A function after it was updated. -/
def updatedFunction (n : Node) (ids : List SymbolId) (result : List SymbolSlot) (f : Symbol) : Symbol :=
  (noted n result (marked n f)).setAttribute "parameters"
    (.symbols ((passedAmong (n.tag.endsWith "method") ((describedNodes n).zip (ownIds n ids))).map some))

/-- What updating a function does: all symbols but the function and its own parameters are as they were. -/
structure Updated (n r : Node) (name : String) (id : SymbolId) (ids : List SymbolId) (s t : Session) : Prop where
  index : t.index = s.index
  names : ∃ parts, nameParts n = .ok parts ∧ t.names = withNames s.names n name parts
  function : ∃ f result, s.database.get? id = some f ∧ t.database.get? id = some (updatedFunction n ids result f) ∧
    List.Forall₂ (Fills s t) (returnItems s.index r (setNodes n)) result
  parameter : ∀ e ∈ (describedNodes n).zip (ownIds n ids), ∃ y, s.database.get? e.2 = some y ∧
    t.database.get? e.2 = some (paired s.index e.1 y)
  kept : ∀ j y, j ≠ id → j ∉ ownIds n ids → s.database.get? j = some y → t.database.get? j = some y

/-- **Updating a function.** It fails exactly if the function has more parameters than its element describes. -/
theorem start_updateFunction_cases (hn : IsDescribed n)
    (hfunction : IsFunction s.database id ids) (hr : n.child? (core "return-value") = some r) (name : String) :
    ∃ t, (updateFunction id name n).start s =
        (if (ownIds n ids).length ≤ (describedNodes n).length then .ok () else .error .outOfRange, t) ∧
      ((ownIds n ids).length ≤ (describedNodes n).length → Updated n r name id ids s t) := by
  obtain ⟨f, hf, htakes, hparameters⟩ := hfunction.function
  obtain ⟨hid, hnodup⟩ := List.nodup_cons.mp hfunction.distinct
  have hsub := (ownIds_sublist n ids).subset
  have hne {i : SymbolId} (hi : i ∈ ownIds n ids) : i ≠ id := fun heq => hid (heq ▸ hsub hi)
  obtain ⟨parts, hparts⟩ := nameParts_of_isSome hn.named
  obtain ⟨described, result, s₁, hstart, hsigned, hnames⟩ :=
    start_updateFunction_signed hn hf hr hparts name
  -- no symbol that was made is one of the parameters
  have hapart {j : SymbolId} {y : Symbol} (h : Made s s₁ j y) : j ∉ ownIds n ids := fun hmem => by
    obtain ⟨y', hy', -⟩ := hfunction.parameter j (hsub hmem)
    exact h.ne hy' rfl
  have hown : ∀ i ∈ ownIds n ids, ∃ y, s₁.database.get? i = some y ∧ y.takesAttributes := fun i hi => by
    obtain ⟨y, hy, hytakes⟩ := hfunction.parameter i (hsub hi)
    exact ⟨y, hsigned.kept i y (hne hi) hy, hytakes⟩
  obtain ⟨s₂, hpairs, hindex, hpaired, hothers⟩ := start_pairParameters
    (hsigned.described.imp fun _ _ hd => ⟨hd.there, hapart hd⟩) hown (hnodup.sublist (ownIds_sublist n ids))
  have hlist : (if (n.attribute? "throws").isSome then (noted n result (marked n f)).parameters.dropLast
      else (noted n result (marked n f)).parameters) = (ownIds n ids).map some := by
    rw [parameters_noted]
    show (if _ then f.parameters.dropLast else f.parameters) = _
    rw [hparameters, ownIds]
    split
    · rw [List.map_dropLast]
    · rfl
  have hparameters₁ : (noteParameters id n described).start s₁ = Attempt.start (do
      pairParameters ((ownIds n ids).map some) described
      notePassed id ((ownIds n ids).map some)) s₁ := by
    rw [noteParameters, Attempt.start_bind_ok (start_symbol hsigned.function)]
    simp only [hlist]
  by_cases hlength : (ownIds n ids).length ≤ (describedNodes n).length
  · rw [if_pos hlength] at hpairs ⊢
    have hid₂ := (hothers id fun hmem => hid (hsub hmem)).trans hsigned.function
    obtain ⟨t, hpassed, hsets⟩ := start_notePassed hid₂
      (takesAttributes_noted (takesAttributes_marked htakes n) n result) (forall₂_hasDirection hlength hown hpaired)
    have hrun : (noteParameters id n described).start s₁ = (.ok (), t) := by
      rw [hparameters₁, Attempt.start_bind_ok hpairs, hpassed]
    refine ⟨t, hstart.trans hrun, fun _ => ⟨?_, ⟨parts, hparts, ?_⟩, ⟨f, result, hf, ?_, ?_⟩, fun e he => ?_,
      fun j y hj hmem hy => ?_⟩⟩
    · rw [hsets.index, hindex, hsigned.index]
    · rw [← hnames]
      exact (leads_noteParameters allows_names id n described).of_start hrun
    · rw [hsets.there, updatedFunction, zip_take_length, isMethod_noted]
      rfl
    · refine hsigned.result.imp fun e slot h => ?_
      cases h with
      | empty => exact .empty
      | made h => exact .made ⟨h.fresh, by rw [hsets.others _ (h.ne hf), hothers _ (hapart h), h.there]⟩
    · have hi := (List.of_mem_zip he).2
      obtain ⟨y, hy, -⟩ := hfunction.parameter e.2 (hsub hi)
      obtain ⟨y', hy', hpaired⟩ := hpaired e he
      cases (hsigned.kept _ y (hne hi) hy).symm.trans hy'
      exact ⟨y, hy, by rw [hsets.others _ (hne hi), hpaired]⟩
    · rw [hsets.others j hj, hothers j hmem, hsigned.kept j y hj hy]
  · rw [if_neg hlength] at hpairs ⊢
    exact ⟨s₂, (hstart.trans hparameters₁).trans (Attempt.start_bind_error hpairs), fun h => absurd h hlength⟩

/-- If the counts match, the parameters of a function that go in are noted as those that a caller passes, and its result
has the items that its element describes. -/
theorem start_updateFunction (hn : HasSignature n)
    (hfunction : IsFunction s.database id ids) (hcount : CountsMatch n ids)
    (hr : n.child? (core "return-value") = some r) (name : String) :
    ∃ s' t f, (updateFunction id name n).start s = (.ok (), t) ∧ t.database.get? id = some f ∧
      f.attributes.lookup "parameters" =
        some (.symbols ((passedAmong (n.tag.endsWith "method") ((describedNodes n).zip ids)).map some)) ∧
      List.Forall₂ (Fills s' t) (returnItems s.index r (outNodes n)) f.returnValue := by
  obtain ⟨t, hstart, hupdated⟩ := start_updateFunction_cases hn.toIsDescribed hfunction hr name
  have hlength := (length_ownIds hcount).le
  rw [if_pos hlength] at hstart
  obtain ⟨f, result, -, hf, hfills⟩ := (hupdated hlength).function
  refine ⟨s, t, _, hstart, hf, ?_, ?_⟩
  · rw [← zip_ownIds hcount]
    exact (Value.lookup_put _ _ _ _).trans (if_pos rfl)
  · show List.Forall₂ _ _ (noted n result (marked n f)).returnValue
    rw [returnValue_noted, ← hn.setNodes_eq]
    exact hfills

/-! ## Results -/

/-- What is returned, as an item of the result, unless it is nothing. -/
def returnedItem? (x : Index) (r : Node) : Option Value :=
  if statedName r = some "none" then none
  else some (.dict [("type", .text "ReturnItemSymbol"), ("tokens", Record.tokens (tokensOf x r)),
    ("attrs", .dict [("gi-extension", .dict [("gi_name", Record.optional (fullTypeName x r))])])])

/-- A parameter that is set, as an item of the result. -/
def outItem (x : Index) (p : Node) : Value :=
  .dict [("type", .text "ReturnItemSymbol"), ("tokens", Record.tokens (tokensOf x p)),
    ("name", Record.optional (p.attribute? "name"))]

/-- The items of a result: what is returned, unless it is nothing, and the parameters that are set. -/
def resultItems (x : Index) (r : Node) (outs : List Node) : List Value :=
  (returnedItem? x r).toList ++ outs.map (outItem x)

theorem start_inC (t : Session) : inC.start t = (.ok (decide (t.language = some "c")), t) := rfl

/-- Nothing is returned: C shows nothing, and other languages show the parameters that are set. -/
theorem start_formatReturn_void (t : Session) (others : List SymbolSlot) :
    (formatReturn (none :: others)).start t = (.ok (common "_format_return_value_symbol"
      [Record.writtenAll t.database (if t.language = some "c" ∨ others = [] then [none] else others)]), t) := by
  rw [formatReturn, List.head?_cons, Attempt.start_bind_ok (Attempt.start_need_some _ _ _)]
  simp only [pure_bind]
  rw [Attempt.start_bind_ok (start_inC t)]
  by_cases hc : t.language = some "c"
  · simp only [hc, true_or]
    rfl
  · simp only [hc, false_or]
    cases others with
    | nil => rfl
    | cons slot rest => rfl

/-- Something is returned: C shows that, and other languages show the parameters that are set after it. -/
theorem start_formatReturn_item (hid : t.database.get? id = some y) (htakes : y.takesAttributes)
    (hitem : (y.attributeValue "gi_name" == .text "none") = false) (others : List SymbolSlot) :
    (formatReturn (some id :: others)).start t = (.ok (common "_format_return_value_symbol"
      [Record.writtenAll t.database (if t.language = some "c" then [some id] else some id :: others)]), t) := by
  rw [formatReturn, List.head?_cons, Attempt.start_bind_ok (Attempt.start_need_some _ _ _)]
  refine (Attempt.start_bind_ok (start_symbol hid)).trans ?_
  refine (Attempt.start_bind_ok (start_attributeOf htakes _ t)).trans ?_
  simp only [hitem, pure_bind]
  rw [Attempt.start_bind_ok (start_inC t)]
  by_cases hc : t.language = some "c"
  · simp only [hc]
    rfl
  · simp only [hc]
    rfl

theorem written_outSymbol (hid : t.database.get? id = some (outSymbol x p))
    (hname : (p.attribute? "name").isSome) : Record.written t.database (some id) = outItem x p := by
  obtain ⟨name, hname⟩ := Option.isSome_iff_exists.mp hname
  rw [Record.written, Record.writtenWithin, hid]
  simp only [outSymbol, outItem, hname]
  rfl

theorem returnedSymbol?_eq_some (h : fullTypeName x r ≠ some "none") : returnedSymbol? x r =
    some { kind := .returnItem, tokens := tokensOf x r, attributes := [nameAttribute (fullTypeName x r)] } := if_neg h

theorem written_returned (hid : t.database.get? id = some y) (hy : returnedSymbol? x r = some y) :
    Record.written t.database (some id) = .dict [("type", .text "ReturnItemSymbol"),
      ("tokens", Record.tokens (tokensOf x r)),
      ("attrs", .dict [("gi-extension", .dict [("gi_name", Record.optional (fullTypeName x r))])])] := by
  rw [returnedSymbol?] at hy
  split at hy
  · cases hy
  · cases hy
    rw [Record.written, Record.writtenWithin, hid]
    rfl

/-- What is shown of a result in a language. -/
def shownItems (x : Index) (r : Node) (outs : List Node) (language : Option String) : List Value :=
  if language = some "c" then [(returnedItem? x r).getD .null]
  else if (resultItems x r outs).isEmpty then [.null] else resultItems x r outs

theorem map_written_outs {outs : List Node} {others : List SymbolSlot}
    (hnamed : ∀ p ∈ outs, (p.attribute? "name").isSome)
    (h : List.Forall₂ (Fills s t) (outs.map fun p => some (outSymbol x p)) others) :
    others.map (Record.written t.database) = outs.map (outItem x) := by
  induction outs generalizing others with
  | nil =>
    cases h
    rfl
  | cons p outs ih =>
    obtain ⟨slot, others, hfirst, hrest, rfl⟩ := List.forall₂_cons_left_iff.mp h
    cases hfirst with
    | made hmade =>
      rw [List.map_cons, List.map_cons, written_outSymbol hmade.there (hnamed p List.mem_cons_self),
        ih (fun p hp => hnamed p (List.mem_cons_of_mem _ hp)) hrest]

theorem optional_beq_none {name : Option String} (h : name ≠ some "none") :
    (Record.optional name == .text "none") = false := by
  cases name with
  | none => rfl
  | some name =>
    rw [Record.optional, beq_text, beq_eq_false_iff_ne]
    exact fun heq => h (congrArg some heq)

/-- **Which items of a result are shown.** -/
theorem start_formatReturn {outs : List Node} {slots : List SymbolSlot}
    (hvoid : fullTypeName x r = some "none" ↔ statedName r = some "none")
    (hnamed : ∀ p ∈ outs, (p.attribute? "name").isSome)
    (h : List.Forall₂ (Fills s t) (returnItems x r outs) slots) :
    (formatReturn slots).start t =
      (.ok (common "_format_return_value_symbol" [.list (shownItems x r outs t.language)]), t) := by
  obtain ⟨first, others, hfirst, hrest, rfl⟩ := List.forall₂_cons_left_iff.mp h
  have hothers := map_written_outs hnamed hrest
  by_cases hnone : fullTypeName x r = some "none"
  · have hitem : returnedItem? x r = none := if_pos (hvoid.mp hnone)
    rw [returnedSymbol?, if_pos hnone] at hfirst
    cases hfirst
    rw [start_formatReturn_void, shownItems, resultItems, hitem, Option.toList_none, List.nil_append, ← hothers,
      Record.writtenAll]
    by_cases hc : t.language = some "c"
    · rw [if_pos (.inl hc), if_pos hc]
      rfl
    · cases others with
      | nil => rw [if_pos (.inr rfl), if_neg hc]; rfl
      | cons slot rest => rw [if_neg (by simp [hc]), if_neg hc]; rfl
  · have hsymbol := returnedSymbol?_eq_some hnone
    rw [hsymbol] at hfirst
    cases hfirst with
    | @made id _ hmade =>
      have hitem : returnedItem? x r = some (Record.written t.database (some id)) := by
        rw [written_returned hmade.there hsymbol]
        exact if_neg fun hstated => hnone (hvoid.mpr hstated)
      rw [start_formatReturn_item hmade.there rfl (optional_beq_none hnone), shownItems, resultItems, hitem,
        Option.toList_some, ← hothers, Record.writtenAll]
      by_cases hc : t.language = some "c"
      · rw [if_pos hc, if_pos hc]
        rfl
      · rw [if_neg hc, if_neg hc]
        rfl

/-! ## No parameter gets lost -/

/-- The parameters of C with their elements, as callers in other languages see them: without the instance of a
method. -/
def callerPairs (n : Node) (ids : List SymbolId) : List (Node × SymbolId) :=
  if n.tag.endsWith "method" then (parameterNodes n).zip ids.tail else (describedNodes n).zip ids

/-- The instance of a method is its first parameter. -/
theorem passedAmong_described (hn : HasSignature n) (ids : List SymbolId) :
    passedAmong (n.tag.endsWith "method") ((describedNodes n).zip ids) =
      ((callerPairs n ids).filter fun e => directionOf e.1 ∈ ["in", "inout"]).map Prod.snd := by
  unfold passedAmong callerPairs
  by_cases hmethod : n.tag.endsWith "method" = true
  · obtain ⟨p, hp⟩ := Option.isSome_iff_exists.mp (hn.instanced hmethod)
    rw [if_pos hmethod, if_pos hmethod, describedNodes, hp, List.zip, List.drop_zipWith, List.drop_one, List.drop_one]
    rfl
  · rw [if_neg hmethod, if_neg hmethod, List.drop_zero]

theorem returnedItem?_getD_eq_null_iff (x : Index) (r : Node) :
    (returnedItem? x r).getD .null = .null ↔ statedName r = some "none" := by
  unfold returnedItem?
  split
  · next h => simp [h]
  · next h => simp [h]

/-- No item of a result is empty. -/
theorem null_not_mem_resultItems (x : Index) (r : Node) (outs : List Node) : .null ∉ resultItems x r outs := by
  rw [resultItems, List.mem_append, not_or]
  constructor
  · unfold returnedItem?
    split <;> simp
  · simp [outItem]

/-- **No parameter gets lost.** A function of C has as many parameters as its element describes, and one more at the
end if it throws. Then updating it succeeds. The parameters noted for callers are those that go in, other than the
instance of a method, in order. Other languages show what is returned, unless its type is that of nothing, and after
it one item for each parameter that is set, in order, with its name and its type; they show one empty place if that
would be nothing. C shows what is returned alone. -/
theorem parameters_conserved (s : Session) (id : SymbolId) (name : String) (n : Node) (ids : List SymbolId)
    (hnone : ∀ space, s.index.class? (space ++ ".none") = none) (hn : HasSignature n)
    (hfunction : IsFunction s.database id ids) (hcount : CountsMatch n ids) :
    ∃ t f r, (updateFunction id name n).start s = (.ok (), t) ∧ t.database.get? id = some f ∧
      n.child? (core "return-value") = some r ∧
      f.attributes.lookup "parameters" = some (.symbols
        (((callerPairs n ids).filter fun e => directionOf e.1 ∈ ["in", "inout"]).map fun e => some e.2)) ∧
      ∀ language, ∃ shown,
        ((do setLanguage language; formatReturn f.returnValue).start t).1 =
          .ok (common "_format_return_value_symbol" [.list shown]) ∧
        (language = some "c" →
          shown = [(returnedItem? s.index r).getD .null] ∧ (shown = [.null] ↔ statedName r = some "none")) ∧
        (language ≠ some "c" →
          (shown = [.null] ↔ resultItems s.index r (outNodes n) = []) ∧
          (resultItems s.index r (outNodes n) ≠ [] → shown = resultItems s.index r (outNodes n))) := by
  obtain ⟨r, hr, htyped⟩ := hn.returns
  obtain ⟨s', t, f, hstart, hf, hpassed, hfills⟩ := start_updateFunction hn hfunction hcount hr name
  have hvoid := fullTypeName_eq_none_iff hnone htyped
  have hnamed : ∀ p ∈ outNodes n, (p.attribute? "name").isSome := fun p hp =>
    hn.parameterNamed p (List.mem_append_right _ (List.mem_of_mem_filter hp))
  refine ⟨t, f, r, hstart, hf, hr, ?_, fun language => ⟨shownItems s.index r (outNodes n) language, ?_, ?_, ?_⟩⟩
  · rw [hpassed, passedAmong_described hn, List.map_map]
    rfl
  · -- choosing a language leaves the symbols alone
    let u : Session := { t with language, localizesTitles := language.isSome, voice := voiceOf language }
    have hfills' : List.Forall₂ (Fills s' u) (returnItems s.index r (outNodes n)) f.returnValue :=
      hfills.imp fun _ _ h => h.later ⟨rfl, fun _ _ hy => hy⟩
    have hset : (setLanguage language).start t = (.ok (), u) := rfl
    rw [Attempt.start_bind_ok hset, start_formatReturn hvoid hnamed hfills']
  · intro hc
    have hshown : shownItems s.index r (outNodes n) language = [(returnedItem? s.index r).getD .null] := if_pos hc
    rw [hshown, ← returnedItem?_getD_eq_null_iff s.index r]
    exact ⟨rfl, List.singleton_inj⟩
  · intro hc
    have hnull := null_not_mem_resultItems s.index r (outNodes n)
    rw [shownItems, if_neg hc]
    split
    · next hempty => simp [List.isEmpty_iff.mp hempty]
    · next hitems =>
      rw [List.isEmpty_iff] at hitems
      refine ⟨⟨fun heq => ?_, fun heq => absurd heq hitems⟩, fun _ => rfl⟩
      rw [heq] at hnull
      exact absurd (List.mem_singleton_self _) hnull

/-- The element of a parameter of a type. -/
def parameterOf (tag name type : String) (attributes : List (String × String)) : Element :=
  .mk (core tag) (("name", name) :: attributes) [.mk (core "type") [("name", type)] []]

/-- What the method `measure` returns: nothing. -/
def measureReturn : Element := .mk (core "return-value") [] [.mk (core "type") [("name", "none")] []]

/-- A method that returns nothing and may throw, with parameters of all directions. -/
def measure : Node where
  element := .mk (core "method") [("name", "measure"), (c "identifier", "n_measure"), ("throws", "1")]
    [measureReturn, .mk (core "parameters") [] [parameterOf "instance-parameter" "self" "A" [],
      parameterOf "parameter" "width" "int" [("direction", "out")], parameterOf "parameter" "unit" "utf8" [],
      parameterOf "parameter" "frame" "B" [("direction", "inout")]]]
  ancestors := [.mk (core "class") [("name", "A")] [], .mk (core "namespace") [("name", "N")] []]

/-- A session with three classes, and a function of five parameters, the last of which is for the error. -/
def measureSession : Session where
  environment := {}
  index := threeClasses
  database :=
    { symbols := #[{ kind := .function, parameters := [some 1, some 2, some 3, some 4, some 5] },
        { kind := .parameter }, { kind := .parameter }, { kind := .parameter }, { kind := .parameter },
        { kind := .parameter }]
      keys := []
      sound := fun _ _ h => by cases h }

theorem class?_none_threeClasses (space : String) : threeClasses.class? (space ++ ".none") = none := by
  have hlast : (space ++ ".none").toList.getLast? = some 'e' := by
    rw [String.toList_append, show ".none".toList = ['.', 'n', 'o', 'n', 'e'] by decide]
    simp
  rw [Index.class?, List.lookup_eq_none_iff]
  intro e he
  rw [bne_iff_ne]
  intro heq
  rw [heq] at hlast
  simp only [threeClasses, List.mem_cons, List.not_mem_nil, or_false] at he
  rcases he with rfl | rfl | rfl <;> revert hlast <;> decide

theorem parameters_conserved_measure :
    HasSignature measure ∧
    IsFunction measureSession.database 0 [1, 2, 3, 4, 5] ∧ CountsMatch measure [1, 2, 3, 4, 5] ∧
    ∃ t f, (updateFunction 0 "n_measure" measure).start measureSession = (.ok (), t) ∧ t.database.get? 0 = some f ∧
      f.attributes.lookup "parameters" = some (.symbols [some 3, some 4]) ∧
      ((do setLanguage (some "python"); formatReturn f.returnValue).start t).1 =
        .ok (common "_format_return_value_symbol" [.list [
          .dict [("type", .text "ReturnItemSymbol"),
            ("tokens", .list [Record.link (.named (some "int")), .text "*"]), ("name", .text "width")],
          .dict [("type", .text "ReturnItemSymbol"),
            ("tokens", .list [Record.link (.named (some "NB")), .text "*"]), ("name", .text "frame")]]]) := by
  have hn : HasSignature measure := by decide +kernel
  have hfunction : IsFunction measureSession.database 0 [1, 2, 3, 4, 5] := by
    refine ⟨⟨_, rfl, rfl, rfl⟩, fun i hi => ?_, by decide⟩
    simp only [List.mem_cons, List.not_mem_nil, or_false] at hi
    rcases hi with rfl | rfl | rfl | rfl | rfl <;> exact ⟨_, rfl, rfl⟩
  have hcount : CountsMatch measure [1, 2, 3, 4, 5] := by
    unfold CountsMatch
    decide +kernel
  have hpairs : ((callerPairs measure [1, 2, 3, 4, 5]).filter fun e => directionOf e.1 ∈ ["in", "inout"]).map
      (fun e => some e.2) = [some 3, some 4] := by
    decide +kernel
  obtain ⟨t, f, r, hstart, hf, hr, hpassed, hshown⟩ := parameters_conserved measureSession 0 "n_measure" measure
    [1, 2, 3, 4, 5] class?_none_threeClasses hn hfunction hcount
  have hr' : measure.child? (core "return-value") = some ⟨measureReturn, measure.element :: measure.ancestors⟩ := rfl
  obtain rfl := Option.some.inj (hr.symm.trans hr')
  obtain ⟨shown, hformat, -, hother⟩ := hshown (some "python")
  rw [(hother (by decide)).2 (List.cons_ne_nil _ _)] at hformat
  rw [hpairs] at hpassed
  exact ⟨hn, hfunction, hcount, t, f, hstart, hf, hpassed, hformat⟩

end GirDoc.Gir
