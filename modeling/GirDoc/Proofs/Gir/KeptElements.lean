import GirDoc.Proofs.Gir.Exploration

/-!
# Under which names elements are kept

A file is read into a table of elements. Every element that C identifies is kept under its identifier and every
type under its name, and members of types under the name of the type around them, a mark for the kind of the
member, and their own name.

* `keptOf` lists what a document puts into the table, and `kept_of_reading` says that a reading puts in that of
  its files, one after the other. A later element takes the place of an earlier one of the same name.
* `Orderly` is what keeps names apart: names have no colons, and no two members of one kind and one type share a
  name. Then a member is found under its own name, and under no other that is made like it. Only a signal that is
  called like its type may be hidden, by a class that is read after it (`node?_eq_member_iff`).
-/

namespace GirDoc

/-! ## Tables -/

namespace Value

variable {κ α : Type} [DecidableEq κ] {entries new : List (κ × α)} {key : κ} {value : α}

theorem lookup_putAll_of_not_mem (h : key ∉ new.map Prod.fst) :
    (putAll entries new).lookup key = entries.lookup key := by
  induction new generalizing entries with
  | nil => rfl
  | cons e rest ih =>
    rw [List.map_cons, List.mem_cons, not_or] at h
    show (putAll (put entries e.1 e.2) rest).lookup key = _
    rw [ih h.2, lookup_put, if_neg h.1]

/-- What was put under a key last is found. -/
theorem exists_lookup_putAll (h : key ∈ new.map Prod.fst) :
    ∃ value, (key, value) ∈ new ∧ (putAll entries new).lookup key = some value := by
  have hsome : (new.reverse.lookup key).isSome := by
    rw [isSome_lookup, List.map_reverse, List.mem_reverse]
    exact h
  obtain ⟨value, hvalue⟩ := Option.isSome_iff_exists.mp hsome
  refine ⟨value, List.mem_reverse.mp (mem_of_lookup hvalue), ?_⟩
  rw [lookup_putAll, hvalue, Option.some_or]

/-- A key is found if all that was put under it is the same. -/
theorem lookup_putAll_of_unique (hmem : (key, value) ∈ new) (hunique : ∀ e ∈ new, e.1 = key → e.2 = value) :
    (putAll entries new).lookup key = some value := by
  induction new generalizing entries with
  | nil => cases hmem
  | cons e rest ih =>
    show (putAll (put entries e.1 e.2) rest).lookup key = _
    -- what is put under the key later on takes the place of this, and is the same
    by_cases hrest : key ∈ rest.map Prod.fst
    · obtain ⟨e', he', hkey⟩ := List.mem_map.mp hrest
      refine ih ?_ fun e'' he'' => hunique e'' (List.mem_cons_of_mem _ he'')
      rw [← hkey, ← hunique e' (List.mem_cons_of_mem _ he') hkey]
      exact he'
    · rw [lookup_putAll_of_not_mem hrest, lookup_put]
      rcases List.mem_cons.mp hmem with rfl | hmem
      · exact if_pos rfl
      · exact absurd (List.mem_map_of_mem hmem) hrest

end Value

namespace Gir

open Xml

/-! ## Members -/

/-- The kinds of members of types that are kept. -/
inductive MemberKind where
  | signal
  | property
  | virtualMethod
  deriving DecidableEq

namespace MemberKind

/-- All kinds, in the order in which their symbols are made. -/
def all : List MemberKind := [signal, property, virtualMethod]

theorem mem_all (k : MemberKind) : k ∈ all := by cases k <;> decide

/-- What the elements of a kind are called. -/
def tag : MemberKind → String
  | signal => glib "signal"
  | property => core "property"
  | virtualMethod => core "virtual-method"

/-- The mark in the names of members of a kind. -/
def mark : MemberKind → String
  | signal => "::"
  | property => ":"
  | virtualMethod => ":::"

end MemberKind

/-- The name of the type around an element. -/
def ownerName (n : Node) : String := spelled (n.parent?.bind typeName?)

/-! ## What a document puts in -/

/-- An element that C identifies. -/
def identifiedEntries (n : Node) : List (String × Node) :=
  ((n.ownAttribute? (c "identifier")).map (·, n)).toList

/-- An element with a type name; a class is also kept under its name twice. -/
def typedEntries (n : Node) : List (String × Node) :=
  if n.tag = core "type" || n.tag = core "array" then []
  else (n.ownAttribute? (c "type")).elim [] fun name =>
    (name, n) :: if isClass n then [(name ++ "::" ++ name, n)] else []

/-- A member of a kind. -/
def memberEntries (k : MemberKind) (n : Node) : List (String × Node) :=
  if n.tag = k.tag then ((n.attribute? "name").map (ownerName n ++ k.mark ++ ·, n)).toList else []

/-- The members of all kinds among elements. -/
def allMemberEntries (below : List Node) : List (String × Node) :=
  below.flatMap (memberEntries .property) ++ (below.flatMap (memberEntries .signal) ++
    below.flatMap (memberEntries .virtualMethod))

/-- What the elements of a document are kept under, in the order in which they are put in. -/
def keptOf (root : Element) : List (String × Node) :=
  let below := (⟨root, []⟩ : Node).descendants
  below.flatMap identifiedEntries ++ (below.flatMap typedEntries ++ allMemberEntries below)

/-! ## Reading -/

/-- A step that succeeds puts entries into the table of elements. -/
def Puts (m : Read Unit) (entries : List (String × Node)) : Prop :=
  ∀ r r', m.start r = (.ok (), r') → r'.index.nodes = Value.putAll r.index.nodes entries

variable {m m' : Read Unit} {entries entries' : List (String × Node)} {n : Node}

theorem puts_done : Puts (pure ()) [] := by
  intro r r' h
  cases h
  rfl

theorem puts_change {f : Index → Index} (h : ∀ x, (f x).nodes = Value.putAll x.nodes entries) :
    Puts (change f) entries := by
  intro r r' hr
  cases hr
  exact h r.index

theorem Puts.seq (h : Puts m entries) (h' : Puts m' entries') : Puts (do m; m') (entries ++ entries') := by
  intro r r' hr
  obtain ⟨_, r₁, hm, hm'⟩ := Attempt.start_bind_eq_ok hr
  rw [h' r₁ r' hm', h r r₁ hm, Value.putAll_append]

theorem Puts.forM {α : Type} {f : α → Read Unit} {entriesOf : α → List (String × Node)} {items : List α}
    (h : ∀ a ∈ items, Puts (f a) (entriesOf a)) : Puts (items.forM f) (items.flatMap entriesOf) := by
  induction items with
  | nil => exact puts_done
  | cons a rest ih =>
    exact (h a List.mem_cons_self).seq (ih fun b hb => h b (List.mem_cons_of_mem _ hb))

/-- What is needed first puts nothing in. -/
theorem puts_need {α : Type} {e : Fault} {a : Option α} {k : α → Read Unit}
    (h : ∀ b, a = some b → Puts (k b) entries) : Puts (Attempt.need e a >>= k) entries := by
  intro r r' hr
  cases a with
  | none => cases hr
  | some b => exact h b rfl r r' hr

theorem puts_readIdentified (n : Node) : Puts (readIdentified n) (identifiedEntries n) := by
  rw [readIdentified, identifiedEntries]
  cases n.ownAttribute? (c "identifier") with
  | none => exact puts_done
  | some name => exact puts_change fun x => rfl

theorem puts_readClass (lead name : String) (n : Node) (htype : (n.attribute? (c "type")).isSome) :
    Puts (readClass lead name n htype) [(name ++ "::" ++ name, n)] := by
  intro r r' hr
  obtain ⟨parts, -, hr⟩ := Attempt.start_ofExcept_bind_eq_ok hr
  have hputs : Puts (do
      change fun x => { x.putClass (".".intercalate parts) n htype with
        typeFunctions := insertNew x.typeFunctions (n.attribute? (glib "get-type"))
        nodes := Value.put x.nodes (name ++ "::" ++ name) n }
      let own ← required n (c "symbol-prefix")
      change fun x => { x with macroNames := (classMacros lead own).foldl insertNew x.macroNames })
      ([(name ++ "::" ++ name, n)] ++ []) :=
    (puts_change fun x => rfl).seq (puts_need fun own _ => puts_change fun x => rfl)
  exact hputs r r' hr

theorem puts_readTyped (lead : String) (n : Node) : Puts (readTyped lead n) (typedEntries n) := by
  rw [readTyped, typedEntries]
  split
  · exact puts_done
  · split
    · next hnone =>
      rw [hnone]
      exact puts_done
    · next name hname =>
      have hput : Puts (change (·.putNode name n)) [(name, n)] := puts_change fun x => rfl
      simp only [hname, Option.elim_some]
      by_cases hclass : isClass n = true
      · rw [if_pos hclass, if_pos hclass]
        exact hput.seq (puts_readClass lead name n _)
      · rw [if_neg hclass, if_neg hclass]
        exact hput.seq puts_done

theorem puts_readMember (k : MemberKind) (n : Node) : Puts (readMember k.tag k.mark n) (memberEntries k n) := by
  rw [readMember, memberEntries]
  by_cases htag : n.tag = k.tag
  · rw [if_neg (not_not.mpr htag), if_pos htag]
    refine puts_need fun name hname => ?_
    rw [hname]
    exact puts_change fun x => rfl
  · rw [if_pos htag, if_neg htag]
    exact puts_done

/-- **What reading the elements of a document puts in.** -/
theorem puts_readElements (root : Element) : Puts (readElements ⟨root, []⟩) (keptOf root) := by
  refine puts_need fun space _ => puts_need fun _ _ => puts_need fun lead _ => ?_
  refine (Puts.forM fun n _ => puts_readIdentified n).seq ?_
  refine (Puts.forM fun n _ => puts_readTyped lead n).seq ?_
  refine (Puts.forM fun n _ => puts_readMember .property n).seq ?_
  refine (Puts.forM fun n _ => puts_readMember .signal n).seq ?_
  exact Puts.forM fun n _ => puts_readMember .virtualMethod n

/-- What the document in a file puts in, if it can be read. -/
def fileKept (l : Sources) (p : String) : List (String × Node) :=
  (readDocument l.files p).toOption.elim [] keptOf

/-- The elements in files. -/
def elementsOf (l : Sources) (files : List String) : List Node :=
  files.flatMap fun p => (readDocument l.files p).toOption.elim [] fun root => (⟨root, []⟩ : Node).descendants

theorem puts_readAll (l : Sources) (files : List String) :
    Puts (readAll l files) (files.flatMap (fileKept l)) := by
  refine Puts.forM fun p _ r r' hr => ?_
  obtain ⟨root, hroot, hr⟩ := Attempt.start_ofExcept_bind_eq_ok hr
  rw [fileKept, hroot]
  exact puts_readElements root r r' hr

/-- An index holds what is in some of the files `girs`, read one after the other. -/
structure Holds (l : Sources) (girs files : List String) (x : Index) : Prop where
  subset : files ⊆ girs
  nodes : x.nodes = Value.putAll [] (files.flatMap (fileKept l))

/-- **A reading puts in what is in its files**, one after the other. -/
theorem kept_of_reading {l : Sources} {girs : List String} {r : Reading} (hgirs : Collection l girs)
    (hread : (readSources l).run { index := .empty } = some (.ok (), r)) : ∃ files, Holds l girs files r.index := by
  obtain ⟨files, opened, r', hrun, hvisited, -⟩ := run_sources hgirs l.listed { index := .empty } hgirs.listed
  cases hrun.symm.trans hread
  refine ⟨files, hvisited.files_subset, ?_⟩
  have hnotes := (hgirs.notes_readAll hvisited.files_subset).run { index := .empty }
  rw [hvisited.index]
  exact puts_readAll l files _ _ hnotes

/-! ## The names of one element -/

/-- An element is kept under a name. -/
inductive KeptUnder (n : Node) : String → Prop where
  | identified {key : String} (h : n.ownAttribute? (c "identifier") = some key) : KeptUnder n key
  | typed {key : String} (h : n.ownAttribute? (c "type") = some key) : KeptUnder n key
  | ofClass {name : String} (hclass : isClass n = true) (h : n.ownAttribute? (c "type") = some name) :
    KeptUnder n (name ++ "::" ++ name)
  | member {name : String} (k : MemberKind) (htag : n.tag = k.tag) (h : n.attribute? "name" = some name) :
    KeptUnder n (ownerName n ++ k.mark ++ name)

theorem keptUnder_of_mem_typedEntries {e : String × Node} (h : e ∈ typedEntries n) :
    e.2 = n ∧ KeptUnder n e.1 := by
  rw [typedEntries] at h
  split at h
  · cases h
  · cases htype : n.ownAttribute? (c "type") with
    | none =>
      rw [htype] at h
      cases h
    | some name =>
      rw [htype, Option.elim_some, List.mem_cons] at h
      rcases h with rfl | h
      · exact ⟨rfl, .typed htype⟩
      · split at h
        · next hclass =>
          rw [List.mem_singleton.mp h]
          exact ⟨rfl, .ofClass hclass htype⟩
        · cases h

/-- What is kept as a member. -/
structure IsMember (k : MemberKind) (name key : String) (m : Node) : Prop where
  tag : m.tag = k.tag
  named : m.attribute? "name" = some name
  key_eq : key = ownerName m ++ k.mark ++ name

theorem mem_memberEntries {k : MemberKind} {e : String × Node} :
    e ∈ memberEntries k n ↔ e.2 = n ∧ ∃ name, IsMember k name e.1 n := by
  rw [memberEntries]
  split
  · next htag =>
    rw [Option.mem_toList, Option.map_eq_some_iff]
    constructor
    · rintro ⟨name, hname, rfl⟩
      exact ⟨rfl, name, htag, hname, rfl⟩
    · rintro ⟨rfl, name, hmember⟩
      exact ⟨name, hmember.named, Prod.ext hmember.key_eq.symm rfl⟩
  · next htag =>
    constructor
    · intro h
      cases h
    · rintro ⟨-, name, hmember⟩
      exact absurd hmember.tag htag

theorem mem_allMemberEntries {below : List Node} {e : String × Node} :
    e ∈ allMemberEntries below ↔ e.2 ∈ below ∧ ∃ k name, IsMember k name e.1 e.2 := by
  have hkind (k : MemberKind) :
      e ∈ below.flatMap (memberEntries k) ↔ e.2 ∈ below ∧ ∃ name, IsMember k name e.1 e.2 := by
    simp only [List.mem_flatMap, mem_memberEntries]
    constructor
    · rintro ⟨n, hn, rfl, hmember⟩
      exact ⟨hn, hmember⟩
    · rintro ⟨hn, hmember⟩
      exact ⟨e.2, hn, rfl, hmember⟩
  simp only [allMemberEntries, List.mem_append, hkind]
  constructor
  · rintro (⟨hn, hmember⟩ | ⟨hn, hmember⟩ | ⟨hn, hmember⟩) <;> exact ⟨hn, _, hmember⟩
  · rintro ⟨hn, k, hmember⟩
    cases k with
    | property => exact Or.inl ⟨hn, hmember⟩
    | signal => exact Or.inr (Or.inl ⟨hn, hmember⟩)
    | virtualMethod => exact Or.inr (Or.inr ⟨hn, hmember⟩)

theorem keptUnder_of_mem_keptOf {root : Element} {e : String × Node} (h : e ∈ keptOf root) :
    e.2 ∈ (⟨root, []⟩ : Node).descendants ∧ KeptUnder e.2 e.1 := by
  simp only [keptOf, List.mem_append] at h
  rcases h with h | h | h
  · obtain ⟨n, hn, he⟩ := List.mem_flatMap.mp h
    rw [identifiedEntries, Option.mem_toList, Option.map_eq_some_iff] at he
    obtain ⟨name, hname, rfl⟩ := he
    exact ⟨hn, .identified hname⟩
  · obtain ⟨n, hn, he⟩ := List.mem_flatMap.mp h
    obtain ⟨rfl, hkept⟩ := keptUnder_of_mem_typedEntries he
    exact ⟨hn, hkept⟩
  · obtain ⟨hn, k, name, hmember⟩ := mem_allMemberEntries.mp h
    exact ⟨hn, hmember.key_eq ▸ .member k hmember.tag hmember.named⟩

/-- A class is kept under its name twice. -/
theorem mem_keptOf_class {root : Element} {name : String} (hn : n ∈ (⟨root, []⟩ : Node).descendants)
    (hclass : isClass n = true) (htype : n.ownAttribute? (c "type") = some name) :
    (name ++ "::" ++ name, n) ∈ keptOf root := by
  have hentry : (name ++ "::" ++ name, n) ∈ typedEntries n := by
    have htag : ¬ (n.tag = core "type" || n.tag = core "array") = true := by
      simp only [isClass, Bool.or_eq_true, decide_eq_true_eq] at hclass ⊢
      rcases hclass with h | h <;> rw [h] <;> decide
    rw [typedEntries, if_neg htag, htype, Option.elim_some, if_pos hclass]
    exact List.mem_cons_of_mem _ (List.mem_singleton_self _)
  exact List.mem_append_right _ (List.mem_append_left _ (List.mem_flatMap.mpr ⟨n, hn, hentry⟩))

/-! ## Names that are kept apart -/

theorem takeWhile_append_colon {a x : List Char} (ha : ':' ∉ a) :
    (a ++ ':' :: x).takeWhile (fun char => decide (char ≠ ':')) = a := by
  rw [List.takeWhile_append_of_pos, List.takeWhile_cons_of_neg (by simp), List.append_nil]
  intro char hchar
  exact decide_eq_true fun heq => ha (heq ▸ hchar)

/-- The name of a member can be taken apart, if there are no colons in its parts. -/
theorem eq_of_marked {a a' b b' : String} {k k' : MemberKind} (ha : ':' ∉ a.toList) (ha' : ':' ∉ a'.toList)
    (hb : ':' ∉ b.toList) (hb' : ':' ∉ b'.toList) (h : a ++ k.mark ++ b = a' ++ k'.mark ++ b') :
    a = a' ∧ k = k' ∧ b = b' := by
  have hlist := congrArg String.toList h
  simp only [String.toList_append, List.append_assoc] at hlist
  -- the marks have different numbers of colons, and there are no others
  have hk : k = k' := by
    have hcount := congrArg (List.count ':') hlist
    simp only [List.count_append, List.count_eq_zero_of_not_mem ha, List.count_eq_zero_of_not_mem ha',
      List.count_eq_zero_of_not_mem hb, List.count_eq_zero_of_not_mem hb', Nat.zero_add, Nat.add_zero] at hcount
    cases k <;> cases k' <;> first | rfl | exact absurd hcount (by decide)
  subst hk
  obtain ⟨rest, hmark⟩ : ∃ rest, k.mark.toList = ':' :: rest := by
    cases k
    · exact ⟨[':'], by decide⟩
    · exact ⟨[], by decide⟩
    · exact ⟨[':', ':'], by decide⟩
  rw [hmark] at hlist
  have hfirst : a.toList = a'.toList := by
    have htake := congrArg (List.takeWhile fun char => decide (char ≠ ':')) hlist
    rwa [List.cons_append, List.cons_append, takeWhile_append_colon ha, takeWhile_append_colon ha'] at htake
  rw [hfirst] at hlist
  have hsecond := List.append_cancel_left (List.append_cancel_left hlist)
  exact ⟨String.toList_inj.mp hfirst, rfl, String.toList_inj.mp hsecond⟩

theorem mem_of_marked (a b : String) (k : MemberKind) : ':' ∈ (a ++ k.mark ++ b).toList := by
  have hmark : ':' ∈ k.mark.toList := by cases k <;> decide
  simp [String.toList_append, hmark]

/-- Elements whose names are kept apart. -/
@[mk_iff]
structure Orderly (nodes : List Node) : Prop where
  /-- There are no colons in identifiers and names of types. -/
  plain : ∀ n ∈ nodes, ∀ key ∈ [c "identifier", c "type", glib "type-name"],
    ∀ value ∈ n.attribute? key, ':' ∉ value.toList
  /-- Nor are there in names of members and of the types around them. -/
  plainMembers : ∀ m ∈ nodes, ∀ k ∈ MemberKind.all, m.tag = k.tag →
    ':' ∉ (ownerName m).toList ∧ ∀ name ∈ m.attribute? "name", ':' ∉ name.toList
  /-- No two members of one kind and one type share a name. -/
  distinct : ∀ k ∈ MemberKind.all, ((nodes.filter fun m => decide (m.tag = k.tag)).map fun m =>
    (ownerName m, m.attribute? "name")).Nodup

instance (nodes : List Node) : Decidable (Orderly nodes) := decidable_of_iff' _ (orderly_iff nodes)

variable {nodes : List Node} {m m' : Node} {k : MemberKind} {name : String}

/-- Two members of one kind, one type and one name are one. -/
theorem Orderly.eq_of_isMember {k' : MemberKind} {name' key : String} (h : Orderly nodes) (hm : m ∈ nodes)
    (hm' : m' ∈ nodes) (hmember : IsMember k name key m) (hmember' : IsMember k' name' key m') : m' = m := by
  obtain ⟨howner, hplain⟩ := h.plainMembers m hm k k.mem_all hmember.tag
  obtain ⟨howner', hplain'⟩ := h.plainMembers m' hm' k' k'.mem_all hmember'.tag
  obtain ⟨hown, rfl, rfl⟩ := eq_of_marked howner howner' (hplain _ hmember.named) (hplain' _ hmember'.named)
    (hmember.key_eq.symm.trans hmember'.key_eq)
  refine List.inj_on_of_nodup_map (h.distinct k k.mem_all) ?_ ?_ ?_
  · exact List.mem_filter.mpr ⟨hm', decide_eq_true hmember'.tag⟩
  · exact List.mem_filter.mpr ⟨hm, decide_eq_true hmember.tag⟩
  · rw [hmember.named, hmember'.named, hown]

/-- A class has the name of a type. -/
def IsClassCalled (name : String) (n : Node) : Prop := isClass n = true ∧ n.ownAttribute? (c "type") = some name

/-- **Among orderly elements, only a member itself is kept under its name**, or a class if the member is a signal that
is called like the class. -/
theorem Orderly.eq_of_keptUnder {key : String} (h : Orderly nodes) (hm : m ∈ nodes) (hm' : m' ∈ nodes)
    (hmember : IsMember k name key m) (hkept : KeptUnder m' key) :
    m' = m ∨ k = .signal ∧ name = ownerName m ∧ IsClassCalled name m' := by
  obtain ⟨howner, hplain⟩ := h.plainMembers m hm k k.mem_all hmember.tag
  have hcolon : ':' ∈ key.toList := hmember.key_eq ▸ mem_of_marked _ _ _
  -- identifiers and names of types have no colon, so that only names with a mark are left
  cases hkept with
  | identified hid => exact absurd hcolon (h.plain m' hm' _ (by simp) _ (Node.attribute?_of_own hid))
  | typed htype => exact absurd hcolon (h.plain m' hm' _ (by simp) _ (Node.attribute?_of_own htype))
  | @ofClass type hclass htype =>
    have htypePlain := h.plain m' hm' _ (by simp) _ (Node.attribute?_of_own htype)
    -- the name of a class twice reads like that of a signal
    have hsignal : type ++ MemberKind.signal.mark ++ type = ownerName m ++ k.mark ++ name := hmember.key_eq
    obtain ⟨hown, rfl, rfl⟩ := eq_of_marked htypePlain howner htypePlain (hplain _ hmember.named) hsignal
    exact Or.inr ⟨rfl, hown, hclass, htype⟩
  | member k' htag' hname' => exact Or.inl (h.eq_of_isMember hm hm' hmember ⟨htag', hname', rfl⟩)

/-- A member is kept under no name with a mark but its own. -/
theorem Orderly.eq_ownerName {owner : String} (h : Orderly nodes) (hm : m ∈ nodes) (htag : m.tag = k.tag)
    (howner : ':' ∉ owner.toList) (hname : m.attribute? "name" = some name)
    (hkept : KeptUnder m (owner ++ k.mark ++ name)) : owner = ownerName m := by
  obtain ⟨hown, hplain⟩ := h.plainMembers m hm k k.mem_all htag
  have hcolon := mem_of_marked owner name k
  generalize hkey : owner ++ k.mark ++ name = key at hkept hcolon
  cases hkept with
  | identified hid => exact absurd hcolon (h.plain m hm _ (by simp) _ (Node.attribute?_of_own hid))
  | typed htype => exact absurd hcolon (h.plain m hm _ (by simp) _ (Node.attribute?_of_own htype))
  | @ofClass type hclass htype =>
    -- a member is no class
    simp only [isClass, Bool.or_eq_true, decide_eq_true_iff] at hclass
    rw [htag] at hclass
    cases k <;> exact absurd hclass (by decide)
  | @member name' k' htag' hname' =>
    exact (eq_of_marked howner hown (hplain _ hname) (hplain _ hname') hkey).1

/-! ## Members in the table -/

theorem mem_allDescendants_of_mem_children (hm : m ∈ n.children) : ∀ {es outer : List Element},
    n ∈ allDescendants outer es → m ∈ allDescendants outer es
  | [], _, h => by simp [allDescendants] at h
  | .mk _ _ children _ :: rest, outer, h => by
    rw [allDescendants, withDescendants, List.mem_append, List.mem_cons] at h ⊢
    rcases h with (rfl | hbelow) | hrest
    · obtain ⟨e, he, rfl⟩ := List.mem_map.mp hm
      exact Or.inl (Or.inr (mem_allDescendants.mpr ⟨e, he, Or.inl rfl⟩))
    · exact Or.inl (Or.inr (mem_allDescendants_of_mem_children hm hbelow))
    · exact Or.inr (mem_allDescendants_of_mem_children hm hrest)

/-- The type around a member is the one that it is a member of. -/
theorem ownerName_of_mem_children (hm : m ∈ n.children) : ownerName m = spelled (typeName? n) := by
  obtain ⟨e, -, rfl⟩ := List.mem_map.mp hm
  rfl

theorem mem_childrenOf : m ∈ n.childrenOf k.tag ↔ m ∈ n.children ∧ m.tag = k.tag := by
  rw [Node.childrenOf, List.mem_filter, beq_iff_eq]

variable {l : Sources} {files girs : List String}

theorem mem_elementsOf {p : String} {root : Element} (hp : p ∈ files) (hroot : readDocument l.files p = .ok root)
    (hn : n ∈ (⟨root, []⟩ : Node).descendants) : n ∈ elementsOf l files := by
  refine List.mem_flatMap.mpr ⟨p, hp, ?_⟩
  rw [hroot]
  exact hn

theorem mem_toOption_elim {α : Type} {document : Except Fault Element} {f : Element → List α} {a : α} :
    a ∈ document.toOption.elim [] f ↔ ∃ root, document = .ok root ∧ a ∈ f root := by
  cases document <;> simp [Except.toOption]

theorem of_mem_fileKept {e : String × Node} (h : e ∈ files.flatMap (fileKept l)) :
    ∃ p ∈ files, ∃ root, readDocument l.files p = .ok root ∧ e.2 ∈ (⟨root, []⟩ : Node).descendants ∧
      KeptUnder e.2 e.1 := by
  obtain ⟨p, hp, he⟩ := List.mem_flatMap.mp h
  obtain ⟨root, hroot, he⟩ := mem_toOption_elim.mp he
  exact ⟨p, hp, root, hroot, keptUnder_of_mem_keptOf he⟩

variable {x : Index} {key : String}

theorem Holds.of_node? (h : Holds l girs files x) (hn : x.node? key = some n) :
    ∃ p ∈ files, ∃ root, readDocument l.files p = .ok root ∧ n ∈ (⟨root, []⟩ : Node).descendants ∧
      KeptUnder n key := by
  have hmem := Value.mem_of_lookup hn
  rw [h.nodes] at hmem
  rcases Value.mem_of_mem_putAll hmem with hnone | hkept
  · cases hnone
  · exact of_mem_fileKept hkept

theorem Holds.mem_elements (h : Holds l girs files x) (hn : x.node? key = some n) : n ∈ elementsOf l girs := by
  obtain ⟨p, hp, root, hroot, hdesc, -⟩ := h.of_node? hn
  exact mem_elementsOf (h.subset hp) hroot hdesc

/-! ## Signals called like their types -/

/-- A signal that is called like its type is hidden: a class of that name is in files that were read last, in which the
signal is not. -/
def Hidden (l : Sources) (files : List String) (k : MemberKind) (m : Node) : Prop :=
  k = .signal ∧ m.attribute? "name" = some (ownerName m) ∧
    ∃ last, last <:+ files ∧ m ∉ elementsOf l last ∧ ∃ n ∈ elementsOf l last, IsClassCalled (ownerName m) n

theorem exists_of_mem_elementsOf (h : n ∈ elementsOf l files) :
    ∃ p ∈ files, ∃ root, readDocument l.files p = .ok root ∧ n ∈ (⟨root, []⟩ : Node).descendants := by
  obtain ⟨p, hp, hn⟩ := List.mem_flatMap.mp h
  exact ⟨p, hp, mem_toOption_elim.mp hn⟩

/-- Files can be cut after the last one that an element is in. -/
theorem exists_last_file (h : n ∈ elementsOf l files) : ∃ before p root after, files = before ++ p :: after ∧
    readDocument l.files p = .ok root ∧ n ∈ (⟨root, []⟩ : Node).descendants ∧ n ∉ elementsOf l after := by
  induction files with
  | nil => cases h
  | cons p rest ih =>
    by_cases hrest : n ∈ elementsOf l rest
    · obtain ⟨before, q, root, after, rfl, hroot, hdesc, hlast⟩ := ih hrest
      exact ⟨p :: before, q, root, after, rfl, hroot, hdesc, hlast⟩
    · obtain ⟨q, hq, root, hroot, hdesc⟩ := exists_of_mem_elementsOf h
      rcases List.mem_cons.mp hq with rfl | hq
      · exact ⟨[], q, root, rest, rfl, hroot, hdesc, hrest⟩
      · exact absurd (mem_elementsOf hq hroot hdesc) hrest

/-- A hidden signal is not what is found. -/
theorem Hidden.lookup_ne (h : Hidden l files k m) (hmember : IsMember k name key m) :
    (Value.putAll [] (files.flatMap (fileKept l))).lookup key ≠ some m := by
  obtain ⟨rfl, hname, last, ⟨before, rfl⟩, hnot, n, hn, hclass, htype⟩ := h
  obtain rfl := Option.some.inj (hmember.named.symm.trans hname)
  obtain ⟨p, hp, root, hroot, hdesc⟩ := exists_of_mem_elementsOf hn
  have hkey : key ∈ (last.flatMap (fileKept l)).map Prod.fst := by
    refine List.mem_map.mpr ⟨(key, n), List.mem_flatMap.mpr ⟨p, hp, ?_⟩, rfl⟩
    rw [fileKept, hroot, hmember.key_eq]
    exact mem_keptOf_class hdesc hclass htype
  rw [List.flatMap_append, Value.putAll_append]
  obtain ⟨n', hn', hlookup⟩ := Value.exists_lookup_putAll hkey
  rw [hlookup]
  intro heq
  obtain ⟨q, hq, root', hroot', hdesc', -⟩ := of_mem_fileKept hn'
  exact hnot (Option.some.inj heq ▸ mem_elementsOf hq hroot' hdesc')

/-- A member that is not hidden is found: in the last file that it is in, members are noted after classes, and nothing
of its name is noted in the files after that. -/
theorem Orderly.lookup_of_not_hidden (h : Orderly (elementsOf l girs)) (hfiles : files ⊆ girs)
    (hm : m ∈ elementsOf l files) (hmember : IsMember k name key m) (hshown : ¬ Hidden l files k m) :
    (Value.putAll [] (files.flatMap (fileKept l))).lookup key = some m := by
  obtain ⟨before, p, root, after, rfl, hroot, hdesc, hlast⟩ := exists_last_file hm
  have hall {q : String} {root' : Element} (hq : q ∈ before ++ p :: after) (hroot' : readDocument l.files q = .ok root')
      {m' : Node} (hdesc' : m' ∈ (⟨root', []⟩ : Node).descendants) : m' ∈ elementsOf l girs :=
    mem_elementsOf (hfiles hq) hroot' hdesc'
  have hp : p ∈ before ++ p :: after := by simp
  have hafter : key ∉ (after.flatMap (fileKept l)).map Prod.fst := by
    intro hkey
    obtain ⟨⟨_, m'⟩, he, rfl⟩ := List.mem_map.mp hkey
    obtain ⟨q, hq, root', hroot', hdesc', hkept⟩ := of_mem_fileKept he
    have hq' : q ∈ before ++ p :: after := List.mem_append_right _ (List.mem_cons_of_mem _ hq)
    have hmem := mem_elementsOf hq hroot' hdesc'
    rcases h.eq_of_keptUnder (hall hp hroot hdesc) (hall hq' hroot' hdesc') hmember hkept with rfl | ⟨rfl, rfl, hclass⟩
    · exact hlast hmem
    · exact hshown ⟨rfl, hmember.named, after, ⟨before ++ [p], by simp⟩, hlast, m', hmem, hclass⟩
  rw [List.flatMap_append, List.flatMap_cons, Value.putAll_append, Value.putAll_append,
    Value.lookup_putAll_of_not_mem hafter, fileKept, hroot]
  show (Value.putAll _ (_ ++ (_ ++ allMemberEntries _))).lookup key = some m
  rw [Value.putAll_append, Value.putAll_append]
  refine Value.lookup_putAll_of_unique (mem_allMemberEntries.mpr ⟨hdesc, k, name, hmember⟩) fun e he hkey => ?_
  obtain ⟨hdesc', k', name', hmember'⟩ := mem_allMemberEntries.mp he
  exact h.eq_of_isMember (hall hp hroot hdesc) (hall hp hroot hdesc') hmember (hkey ▸ hmember')

/-- **A member of a type of the table is found under a name with its mark exactly if that is its own**, unless it is a
signal that is hidden. -/
theorem node?_eq_member_iff (h : Holds l girs files x) (horder : Orderly (elementsOf l girs))
    (hn : x.node? key = some n) (hm : m ∈ n.childrenOf k.tag) (hname : m.attribute? "name" = some name)
    {owner : String} (howner : ':' ∉ owner.toList) :
    x.node? (owner ++ k.mark ++ name) = some m ↔ owner = spelled (typeName? n) ∧ ¬ Hidden l files k m := by
  obtain ⟨hchild, htag⟩ := mem_childrenOf.mp hm
  obtain ⟨p, hp, root, hroot, hdesc, -⟩ := h.of_node? hn
  have hbelow : m ∈ (⟨root, []⟩ : Node).descendants := mem_allDescendants_of_mem_children hchild hdesc
  have hmem : m ∈ elementsOf l girs := mem_elementsOf (h.subset hp) hroot hbelow
  rw [← ownerName_of_mem_children hchild, Index.node?, h.nodes]
  constructor
  · intro hfound
    obtain ⟨-, -, -, -, -, hkept⟩ := h.of_node? (by rw [Index.node?, h.nodes, hfound])
    obtain rfl := horder.eq_ownerName hmem htag howner hname hkept
    exact ⟨rfl, fun hhidden => hhidden.lookup_ne ⟨htag, hname, rfl⟩ hfound⟩
  · rintro ⟨rfl, hshown⟩
    exact horder.lookup_of_not_hidden h.subset (mem_elementsOf hp hroot hbelow) ⟨htag, hname, rfl⟩ hshown

end Gir

end GirDoc
