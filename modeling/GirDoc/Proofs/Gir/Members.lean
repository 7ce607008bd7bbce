import GirDoc.Gir.Hierarchy
import GirDoc.Proofs.Gir.Changes
import GirDoc.Proofs.Gir.KeptElements

/-!
# The symbols of members

Resolving a structure makes a symbol of each signal, property and virtual method of its type. The symbol is named
for the registered name of the type. The element of the member is kept under the name that C has for the type, if
there is one.

* `made_createMembers` says which symbols are made: one for each member, in order, and each is kept under its name
  (`MadeOf`).
* So the element is found under the name of the symbol if both names of the type are the same, and only then
  (`members_found_again_iff`). Only a signal that is called like its type may be hidden by a class that is read later.
-/

namespace GirDoc.Gir

open Session Xml

open C (Leads HasName leads_note leads_symbol start_requestPlain_of_key start_requestPlain_of_filtered)

/-! ## What lasts -/

/-- What lasts from one session to a later one: names lead where they led, and to symbols that have them if they
did before, and the index is the same. -/
structure Lasts (s t : Session) : Prop where
  found : ∀ name id, s.database.find? name = some id → t.database.find? name = some id
  named : s.database.KeysNamed → t.database.KeysNamed
  index : t.index = s.index

theorem Lasts.refl (s : Session) : Lasts s s := ⟨fun _ _ => id, id, rfl⟩

theorem Lasts.trans {s t t' : Session} (h : Lasts s t) (h' : Lasts t t') : Lasts s t' where
  found name id hfind := h'.found name id (h.found name id hfind)
  named := h'.named ∘ h.named
  index := h'.index.trans h.index

theorem allowsMembers_lasts : AllowsMembers Lasts where
  refl := Lasts.refl
  trans := Lasts.trans
  log _ _ := ⟨fun _ _ => id, id, rfl⟩
  quoted _ _ := ⟨fun _ _ => id, id, rfl⟩
  leftOut _ _ := ⟨fun _ _ => id, id, rfl⟩
  add _ x := ⟨fun _ _ => id, fun h => h.add x, rfl⟩
  change _ id _ hf := ⟨fun _ _ h => h, fun h => h.modify id hf, rfl⟩
  request _ name r _ _ := ⟨fun _ _ => Database.find?_serve_of_find? r, fun h => h.serve name r, rfl⟩
  names _ _ := ⟨fun _ _ => id, id, rfl⟩
  comments _ _ := ⟨fun _ _ => id, id, rfl⟩

variable {α β : Type} {s t : Session} {owner : Option String} {k : MemberKind} {n m : Node} {id : SymbolId}

/-- A step that succeeds gives `a`, and leaves what lasts. -/
def Keeps (a : α) (step : Doc α) : Prop := ∀ s b t, step.start s = (.ok b, t) → b = a ∧ Lasts s t

theorem keeps_pure (a : α) : Keeps a (pure a) := by
  intro s b t h
  cases h
  exact ⟨rfl, Lasts.refl s⟩

theorem Keeps.after {a : α} {step : Doc β} {next : β → Doc α} (hstep : Leads Lasts step)
    (hnext : ∀ b, Keeps a (next b)) : Keeps a (step >>= next) := by
  intro s a' t h
  obtain ⟨b, t₁, hfirst, hrest⟩ := Attempt.start_bind_eq_ok h
  obtain ⟨heq, hlasts⟩ := hnext b t₁ a' t hrest
  exact ⟨heq, (hstep.of_start hfirst).trans hlasts⟩

/-! ## One member -/

/-- A step that succeeds gives the symbol of a name. -/
def Gives (name : String) (step : Doc SymbolId) : Prop :=
  ∀ s id t, step.start s = (.ok id, t) → t.database.find? name = some id

theorem Gives.after {name : String} {step : Doc β} {next : β → Doc SymbolId} (h : ∀ b, Gives name (next b)) :
    Gives name (step >>= next) := by
  intro s id t hstart
  obtain ⟨b, t₁, -, hrest⟩ := Attempt.start_bind_eq_ok hstart
  exact h b t₁ id t hrest

/-- A symbol that is requested is still the symbol of its name after what follows. -/
theorem gives_request {kind : SymbolKind} {details : List Detail} {name : String} {next : SymbolId → Doc SymbolId}
    (hkey : Request.key? { kind, details := details ++ [.language "c"] } = some (.text name))
    (hnext : ∀ id, Keeps id (next id)) :
    Gives name (requestFiltered kind details >>= fun slot => Attempt.need .noSuchPart slot >>= next) := by
  intro s id t h
  obtain ⟨slot, t₁, hslot, hrest⟩ := Attempt.start_bind_eq_ok h
  cases slot with
  | none => cases hrest
  | some id₁ =>
    obtain ⟨rfl, hlasts⟩ := hnext id₁ t₁ id t hrest
    -- there is a symbol, so that the request was not left out
    have hplain := start_requestPlain_of_filtered hslot
    rw [start_requestPlain_of_key s hkey] at hplain
    cases hplain
    exact hlasts.found _ _ (s.database.find?_serve name _)

/-- The symbol of a member of a kind. -/
def createMember (owner : Option String) : MemberKind → Node → Doc SymbolId
  | .signal => createSignal owner
  | .property => createProperty owner
  | .virtualMethod => createVfunction owner

/-- A symbol was made of a member: it is kept under the name of the member in its type. -/
def MadeOf (owner : Option String) (k : MemberKind) (m : Node) (id : SymbolId) (t : Session) : Prop :=
  ∃ name, m.attribute? "name" = some name ∧ t.database.find? (memberName owner k.mark name) = some id

theorem MadeOf.lasts (h : MadeOf owner k m id s) (hst : Lasts s t) : MadeOf owner k m id t := by
  obtain ⟨name, hname, hfind⟩ := h
  exact ⟨name, hname, hst.found _ _ hfind⟩

theorem madeOf_named {next : String → Doc SymbolId}
    (hnext : ∀ name, Gives (memberName owner k.mark name) (next name))
    (h : (Attempt.need .missingKey (m.attribute? "name") >>= next).start s = (.ok id, t)) :
    MadeOf owner k m id t := by
  cases hname : m.attribute? "name" with
  | none =>
    rw [hname] at h
    cases h
  | some name =>
    rw [hname] at h
    exact ⟨name, hname, hnext name s id t h⟩

theorem leads_createMember (owner : Option String) (k : MemberKind) (m : Node) :
    Leads Lasts (createMember owner k m) := by
  have h := allowsMembers_lasts.toAllows
  cases k with
  | signal => exact leads_createSignal h owner m
  | property => exact leads_createProperty h owner m
  | virtualMethod => exact leads_createVfunction h owner m

theorem madeOf_createMember (h : (createMember owner k m).start s = (.ok id, t)) : MadeOf owner k m id t := by
  have hall := allowsMembers_lasts.toAllows
  cases k with
  | signal =>
    refine madeOf_named (fun name => .after fun _ => ?_) h
    refine gives_request (key?_member owner (by decide) name rfl) fun id => ?_
    exact .after (leads_setContent hall id _ _) fun _ => .after (leads_notePassed hall id _) fun _ => keeps_pure id
  | property =>
    refine madeOf_named (fun name => .after fun _ => .after fun _ => ?_) h
    refine gives_request (key?_member owner (by decide) name rfl) fun id => ?_
    exact .after (leads_setContent hall id _ _) fun _ => keeps_pure id
  | virtualMethod =>
    refine madeOf_named (fun name => .after fun _ => ?_) h
    refine gives_request (key?_member owner (by decide) name rfl) fun id => ?_
    exact .after (leads_notePassed hall id _) fun _ => keeps_pure id

/-! ## All members -/

/-- Symbols are made of members one after the other. -/
theorem made_mapM {next : Node → SymbolId → Doc SymbolSlot} (hnext : ∀ m id, Keeps (some id) (next m id)) :
    ∀ {items : List Node} {s t : Session} {slots : List SymbolSlot},
    (items.mapM fun m => createMember owner k m >>= next m).start s = (.ok slots, t) →
    Lasts s t ∧ ∃ ids, slots = ids.map some ∧ List.Forall₂ (fun m id => MadeOf owner k m id t) items ids
  | [], s, t, slots, h => by
    cases h
    exact ⟨Lasts.refl s, [], rfl, .nil⟩
  | m :: rest, s, t, slots, h => by
    rw [List.mapM_cons] at h
    obtain ⟨slot, t₂, hfirst, h⟩ := Attempt.start_bind_eq_ok h
    obtain ⟨others, t₃, hrest, h⟩ := Attempt.start_bind_eq_ok h
    cases h
    obtain ⟨id, t₁, hmember, hafter⟩ := Attempt.start_bind_eq_ok hfirst
    obtain ⟨rfl, hlasts⟩ := hnext m id t₁ slot t₂ hafter
    obtain ⟨hlasts', ids, rfl, hids⟩ := made_mapM hnext hrest
    -- the symbol of the first member is still there when those of the others are made
    have hmade : MadeOf owner k m id t := (madeOf_createMember hmember).lasts (hlasts.trans hlasts')
    have hfirst : Lasts s t₁ := (leads_createMember owner k m).of_start hmember
    exact ⟨hfirst.trans (hlasts.trans hlasts'), id :: ids, rfl, .cons hmade hids⟩

/-- The members of a type, in the order in which their symbols are made. -/
def members (n : Node) : List (MemberKind × Node) :=
  MemberKind.all.flatMap fun k => (n.childrenOf k.tag).map (k, ·)

theorem mem_members {e : MemberKind × Node} : e ∈ members n ↔ e.2 ∈ n.childrenOf e.1.tag := by
  simp only [members, List.mem_flatMap, List.mem_map]
  constructor
  · rintro ⟨k, -, m, hm, rfl⟩
    exact hm
  · exact fun hm => ⟨e.1, e.1.mem_all, e.2, hm, rfl⟩

/-- The symbols of a structure, when its own symbol is made: that, and those of its members. -/
def createMembers (n : Node) (parts : List String) (own : List SymbolSlot) : Doc (List SymbolSlot) := do
  let owner := n.attribute? (glib "type-name")
  let signals ← (n.childrenOf (glib "signal")).mapM fun m => do
    let id ← createSignal owner m
    debug ("Added signal symbol " ++ spelled (m.attribute? "name"))
    return some id
  let properties ← (n.childrenOf (core "property")).mapM fun m => do
    let id ← createProperty owner m
    debug ("Added property symbol " ++ spelled (m.attribute? "name"))
    return some id
  let parent ← structComment? n parts
  let methods ← (n.childrenOf (core "virtual-method")).mapM fun m => do
    let id ← createVfunction owner m
    debug ("Added vmethod symbol " ++ spelled (m.attribute? "name"))
    inheritComment parent id ((m.attribute? "name").getD "")
    return some id
  return own ++ signals ++ properties ++ methods

/-- **A symbol is made of each member.** -/
theorem made_createMembers {parts : List String} {own slots : List SymbolSlot}
    (h : (createMembers n parts own).start s = (.ok slots, t)) :
    Lasts s t ∧ ∃ ids, slots = own ++ ids.map some ∧
      List.Forall₂ (fun e id => MadeOf (n.attribute? (glib "type-name")) e.1 e.2 id t) (members n) ids := by
  have hall := allowsMembers_lasts
  obtain ⟨signals, t₁, hsignals, h⟩ := Attempt.start_bind_eq_ok h
  obtain ⟨properties, t₂, hproperties, h⟩ := Attempt.start_bind_eq_ok h
  obtain ⟨parent, t₃, hparent, h⟩ := Attempt.start_bind_eq_ok h
  obtain ⟨methods, t₄, hmethods, h⟩ := Attempt.start_bind_eq_ok h
  cases h
  obtain ⟨hlasts₁, ids₁, rfl, hids₁⟩ := made_mapM (k := .signal)
    (fun m id => .after (leads_note hall.toAllows _) fun _ => keeps_pure _) hsignals
  obtain ⟨hlasts₂, ids₂, rfl, hids₂⟩ := made_mapM (k := .property)
    (fun m id => .after (leads_note hall.toAllows _) fun _ => keeps_pure _) hproperties
  have hlasts₃ : Lasts t₂ t₃ := (leads_structComment? hall.toAllows n parts).of_start hparent
  obtain ⟨hlasts₄, ids₃, rfl, hids₃⟩ := made_mapM (k := .virtualMethod)
    (fun m id => .after (leads_note hall.toAllows _) fun _ =>
      .after (leads_inheritComment hall parent id _) fun _ => keeps_pure _) hmethods
  -- what was made for one kind is still there when all are made
  have hlasts₂₄ : Lasts t₂ t := hlasts₃.trans hlasts₄
  have hlasts₁₄ : Lasts t₁ t := hlasts₂.trans hlasts₂₄
  refine ⟨hlasts₁.trans hlasts₁₄, ids₁ ++ (ids₂ ++ ids₃), by simp [List.append_assoc], ?_⟩
  have hmembers : members n = (n.childrenOf (glib "signal")).map (MemberKind.signal, ·) ++
      ((n.childrenOf (core "property")).map (MemberKind.property, ·) ++
        (n.childrenOf (core "virtual-method")).map (MemberKind.virtualMethod, ·)) := by
    simp [members, MemberKind.all, MemberKind.tag]
  rw [hmembers]
  refine List.rel_append ?_ (List.rel_append ?_ ?_)
  · exact List.forall₂_map_left_iff.mpr (hids₁.imp fun _ _ h => h.lasts hlasts₁₄)
  · exact List.forall₂_map_left_iff.mpr (hids₂.imp fun _ _ h => h.lasts hlasts₂₄)
  · exact List.forall₂_map_left_iff.mpr hids₃

/-- The symbols that a structure itself gets, as a class or as an interface. -/
def createOwn (x : Symbol) (n : Node) (parts : List String) : Doc (List SymbolSlot) :=
  if n.tag = core "class" then do return [← createClass x (".".intercalate parts)]
  else if n.tag = core "interface" then do return [← createInterface x]
  else return []

theorem leads_createOwn (x : Symbol) (n : Node) (parts : List String) : Leads Lasts (createOwn x n parts) := by
  have hall := allowsMembers_lasts.toAllows
  unfold createOwn
  split
  · exact hall.bind (leads_createClass hall x _) fun _ => hall.pure _
  split
  · exact hall.bind (leads_createInterface hall x) fun _ => hall.pure _
  · exact hall.pure _

theorem length_createOwn {x : Symbol} {parts : List String} {own : List SymbolSlot}
    (h : (createOwn x n parts).start s = (.ok own, t)) : own.length ≤ 1 := by
  unfold createOwn at h
  split at h
  · obtain ⟨slot, _, -, h⟩ := Attempt.start_bind_eq_ok h
    cases h
    exact le_rfl
  split at h
  · obtain ⟨slot, _, -, h⟩ := Attempt.start_bind_eq_ok h
    cases h
    exact le_rfl
  · cases h
    exact Nat.zero_le 1

/-- The parts of resolving a structure. -/
theorem updateStruct_eq (id : SymbolId) (name : String) (n : Node) : updateStruct id name n = (do
    let x ← symbol id
    debug ("Updating record " ++ x.displayed)
    let parts ← addNames name n
    let own ← createOwn x n (structParts n parts)
    createMembers n (structParts n parts) own) := by
  unfold updateStruct createOwn
  refine bind_congr fun x => bind_congr fun _ => bind_congr fun parts => ?_
  dsimp only
  -- whatever the structure itself gets, its members come next
  split
  · simp only [bind_assoc, pure_bind, createMembers]
  split
  · simp only [bind_assoc, pure_bind, createMembers]
  · simp only [pure_bind, createMembers]

/-- **Resolving a structure makes its own symbol, if it has one, and a symbol of each member.** -/
theorem made_updateStruct {name : String} {slots : List SymbolSlot}
    (h : (updateStruct id name n).start s = (.ok slots, t)) :
    Lasts s t ∧ ∃ own ids, slots = own ++ ids.map some ∧ own.length ≤ 1 ∧
      List.Forall₂ (fun e id => MadeOf (n.attribute? (glib "type-name")) e.1 e.2 id t) (members n) ids := by
  have hall := allowsMembers_lasts
  rw [updateStruct_eq] at h
  obtain ⟨x, s₁, hx, h⟩ := Attempt.start_bind_eq_ok h
  obtain ⟨_, s₂, hdebug, h⟩ := Attempt.start_bind_eq_ok h
  obtain ⟨parts, s₃, hparts, h⟩ := Attempt.start_bind_eq_ok h
  obtain ⟨own, s₄, hown, h⟩ := Attempt.start_bind_eq_ok h
  obtain ⟨hlasts, ids, rfl, hids⟩ := made_createMembers h
  have hlasts₁ : Lasts s s₁ := (leads_symbol hall.toAllows id).of_start hx
  have hlasts₂ : Lasts s₁ s₂ := (leads_note hall.toAllows _).of_start hdebug
  have hlasts₃ : Lasts s₂ s₃ := (leads_addNames hall name n).of_start hparts
  have hlasts₄ : Lasts s₃ s₄ := (leads_createOwn x n _).of_start hown
  exact ⟨hlasts₁.trans (hlasts₂.trans (hlasts₃.trans (hlasts₄.trans hlasts))), own, ids, rfl,
    length_createOwn hown, hids⟩

/-! ## What other languages can use -/

theorem lookup_eq_none_of_colon {α : Type} {table : List (String × α)} {name : String} (hname : ':' ∈ name.toList)
    (h : ∀ key ∈ table.map Prod.fst, ':' ∉ key.toList) : table.lookup name = none := by
  rw [← Option.not_isSome_iff_eq_none, Value.isSome_lookup]
  exact fun hmem => h name hmem hname

/-- A member is no fundamental type. -/
theorem start_fundamental? {name : String} (hname : ':' ∈ name.toList) (t : Session) :
    (fundamental? (some name)).start t = (.ok none, t) := by
  have hnone : (fundamentalsOf t.voice).lookup name = none := by
    refine lookup_eq_none_of_colon hname ?_
    cases t.voice <;> decide
  rw [fundamental?, Attempt.start_bind_ok (Attempt.start_get t)]
  show (Except.ok ((fundamentalsOf t.voice).lookup name), t) = _
  rw [hnone]

/-- Other languages can use nothing that has no element. -/
theorem isIntrospectable_of_none {name : String} (hname : ':' ∈ name.toList) (hnode : t.index.node? name = none) :
    ((isIntrospectable (some name)).start t).1 = .ok false := by
  rw [isIntrospectable, Attempt.start_bind_ok (start_fundamental? hname t), Option.isSome_none,
    if_neg Bool.false_ne_true, Attempt.start_bind_ok (Attempt.start_get t)]
  dsimp only
  rw [hnode]
  rfl

/-- Whether other languages can use a member is asked of its element. -/
theorem isIntrospectable_of_node? {name own : String} (hname : ':' ∈ name.toList)
    (hnode : t.index.node? name = some m) (hown : m.attribute? "name" = some own) :
    ((isIntrospectable (some name)).start t).1 = .ok (decide (m.attribute? "introspectable" ≠ some "0")) := by
  rw [isIntrospectable, Attempt.start_bind_ok (start_fundamental? hname t), Option.isSome_none,
    if_neg Bool.false_ne_true, Attempt.start_bind_ok (Attempt.start_get t)]
  dsimp only
  rw [hnode]
  dsimp only
  split
  · -- the names of the member are noted first, which succeeds because it has one
    have hparts : nameParts m = .ok (outerNames m.ancestors ++ [own]) := by rw [nameParts, hown]
    rw [addNames, hparts]
    rfl
  · rfl

/-! ## Members found again -/

/-- The name of the symbol of a member. -/
def symbolName (n : Node) (k : MemberKind) (name : String) : String :=
  memberName (n.attribute? (glib "type-name")) k.mark name

/-- The symbol of a member of the type `n`: it has the name of the symbol of the member. The element of the member
is found under that name exactly if the registered name of the type is the one that it goes by and it is not hidden.
Then it is what says whether other languages can use the member. They can use nothing of which there is no element. -/
structure FoundAgain (l : Sources) (files : List String) (t : Session) (n : Node) (k : MemberKind) (m : Node)
    (id : SymbolId) (name : String) : Prop where
  named : m.attribute? "name" = some name
  hasName : HasName t id (symbolName n k name)
  found_iff : t.index.node? (symbolName n k name) = some m ↔
    spelled (n.attribute? (glib "type-name")) = spelled (typeName? n) ∧ ¬ Hidden l files k m
  usable : t.index.node? (symbolName n k name) = some m →
    ((isIntrospectable (some (symbolName n k name))).start t).1 =
      .ok (decide (m.attribute? "introspectable" ≠ some "0"))
  unusable : t.index.node? (symbolName n k name) = none →
    ((isIntrospectable (some (symbolName n k name))).start t).1 = .ok false

/-- There is no colon in the registered name of a type. -/
theorem Orderly.plain_registered {nodes : List Node} (h : Orderly nodes) (hn : n ∈ nodes) :
    ':' ∉ (spelled (n.attribute? (glib "type-name"))).toList := by
  cases htype : n.attribute? (glib "type-name") with
  | none => decide
  | some name => exact h.plain n hn _ (by simp) name htype

/-- **Members are found again by the names of their symbols exactly if their type goes by its registered name.**
After orderly files were read, resolving a structure makes a symbol of each signal, property and virtual method of
its type, in order. Only a signal that is called like its type may be hidden, if a class of that name is read after
it. -/
theorem members_found_again_iff (l : Sources) (girs : List String) (hgirs : Collection l girs)
    (horder : Orderly (elementsOf l girs)) :
    ∃ r files, (readSources l).run { index := .empty } = some (.ok (), r) ∧ Holds l girs files r.index ∧
      ∀ s key n id name slots t, s.index.nodes = r.index.nodes → s.database.KeysNamed →
        s.index.node? key = some n → (updateStruct id name n).start s = (.ok slots, t) →
        ∃ own ids, slots = own ++ ids.map some ∧ own.length ≤ 1 ∧
          List.Forall₂ (fun e id => ∃ name, FoundAgain l files t n e.1 e.2 id name) (members n) ids := by
  obtain ⟨_, _, r, hrun, -⟩ := run_sources hgirs l.listed { index := .empty } hgirs.listed
  obtain ⟨files, hread⟩ := kept_of_reading hgirs hrun
  refine ⟨r, files, hrun, hread, fun s key n id name slots t hindex hkeys hn hstart => ?_⟩
  have hholds : Holds l girs files s.index := ⟨hread.subset, hindex.trans hread.nodes⟩
  obtain ⟨hlasts, own, ids, hslots, hown, hmade⟩ := made_updateStruct hstart
  refine ⟨own, ids, hslots, hown, ?_⟩
  -- what is said of the symbols of the members is said of the elements that they were made of
  have hmembers : ∀ e ∈ members n, e.2 ∈ n.childrenOf e.1.tag := fun e => mem_members.mp
  refine ((List.forall₂_and_left _ _).mpr ⟨hmembers, hmade⟩).imp fun e id he => ?_
  obtain ⟨hm, name, hname, hfind⟩ := he
  have hplain := horder.plain_registered (hholds.mem_elements hn)
  have hcolon : ':' ∈ (symbolName n e.1 name).toList := mem_of_marked _ _ _
  exact ⟨name, hname, hlasts.named hkeys _ _ hfind,
    hlasts.index ▸ node?_eq_member_iff hholds horder hn hm hname hplain,
    fun hnode => isIntrospectable_of_node? hcolon hnode hname, isIntrospectable_of_none hcolon⟩

/-- The index of a document that includes no others. -/
def indexOf (root : Element) : Index := ((readElements ⟨root, []⟩).start { index := .empty }).2.index

theorem reading_alone {l : Sources} {p : String} {root : Element} (hlisted : l.listed = [p])
    (hroot : readDocument l.files p = .ok root) (hwell : WellFormed root)
    (hnone : root.childrenOf (core "include") = []) :
    Collection l [p] ∧ elementsOf l [p] = (⟨root, []⟩ : Node).descendants ∧
      ∃ r, (readSources l).run { index := .empty } = some (.ok (), r) ∧ r.index = indexOf root := by
  refine ⟨⟨hlisted ▸ List.Subset.refl _, fun p' hp' => ?_, fun p' hp' q hq => ?_⟩, ?_, ?_⟩
  · rw [List.mem_singleton.mp hp']
    exact ⟨root, hroot, hwell⟩
  · rw [List.mem_singleton.mp hp'] at hq
    obtain ⟨root', hroot', hq⟩ := hq
    cases hroot.symm.trans hroot'
    rw [hnone] at hq
    simp at hq
  · rw [elementsOf, List.flatMap_singleton, hroot]
    rfl
  · have hread := hwell.notes.run { index := .empty }
    have hfile : (l.readFile root).run { index := .empty } = some (.ok (), { index := indexOf root }) := by
      rw [readFile_eq, Follow.run_ofRead_bind_ok hread, hnone]
      rfl
    refine ⟨{ index := indexOf root }, ?_, rfl⟩
    rw [readSources, hlisted, Follow.run_forM_cons_ok]
    · rfl
    · rw [hroot]
      exact hfile

/-- A session with an index and the symbol of one structure. -/
def structSession (x : Index) (name : String) : Session where
  environment := {}
  database := (Database.empty.serve (.text name) { kind := .struct, details := [] }).1
  index := x

/-- Whether a document is well-formed and orderly and includes no others, and a type in it has a property of which a
symbol is made, and goes by its registered name. -/
def isResolved (name : String) : Except Fault Element → Bool
  | .ok root => WellFormed root ∧ (root.childrenOf (core "include")).isEmpty ∧
      Orderly (⟨root, []⟩ : Node).descendants ∧ ∃ n ∈ (indexOf root).node? name,
        ((updateStruct 0 name n).start (structSession (indexOf root) name)).1.isOk ∧
          (members n).map Prod.fst = [.property] ∧
          spelled (n.attribute? (glib "type-name")) = spelled (typeName? n)
  | .error _ => false

/-- A record with a property. -/
def recordSources : Sources where
  files := { files := [("/N-1.gir", Text.Utf8.encode <|
    "<repository xmlns='http://www.gtk.org/introspection/core/1.0' " ++
      "xmlns:c='http://www.gtk.org/introspection/c/1.0' xmlns:g='http://www.gtk.org/introspection/glib/1.0'>" ++
    "<namespace name='N' c:identifier-prefixes='N' c:symbol-prefixes='n'>" ++
    "<record name='R' c:type='NR' g:type-name='NR'><property name='p'><type/></property></record>" ++
    "</namespace></repository>")] }
  listed := ["/N-1.gir"]
  dataDirs := []

theorem isResolved_recordSources : isResolved "NR" (readDocument recordSources.files "/N-1.gir") = true := by
  decide +kernel

theorem members_found_again_record : ∃ s n slots t, Collection recordSources ["/N-1.gir"] ∧
    Orderly (elementsOf recordSources ["/N-1.gir"]) ∧ s.database.KeysNamed ∧ s.index.node? "NR" = some n ∧
    (updateStruct 0 "NR" n).start s = (.ok slots, t) ∧ (members n).map Prod.fst = [.property] ∧
    ∃ own ids, slots = own ++ ids.map some ∧
      List.Forall₂ (fun e id => ∃ name, HasName t id name ∧ t.index.node? name = some e.2) (members n) ids := by
  have hcheck := isResolved_recordSources
  cases hroot : readDocument recordSources.files "/N-1.gir" with
  | error e =>
    rw [hroot] at hcheck
    cases hcheck
  | ok root =>
    rw [hroot] at hcheck
    obtain ⟨hwell, hnone, horder, n, hn, hok, hkinds, hnames⟩ := of_decide_eq_true hcheck
    obtain ⟨hgirs, helements, r, hrun, hindex⟩ := reading_alone rfl hroot hwell (List.isEmpty_iff.mp hnone)
    rw [← helements] at horder
    obtain ⟨r', files, hrun', -, hfound⟩ := members_found_again_iff recordSources ["/N-1.gir"] hgirs horder
    cases hrun.symm.trans hrun'
    have hkeys : (structSession (indexOf root) "NR").database.KeysNamed := Database.keysNamed_empty.serve "NR" _
    rcases hstart : (updateStruct 0 "NR" n).start (structSession (indexOf root) "NR") with ⟨_ | slots, t⟩
    · rw [hstart] at hok
      cases hok
    obtain ⟨own, ids, hslots, -, hids⟩ :=
      hfound _ "NR" n 0 "NR" slots t (congrArg Index.nodes hindex.symm) hkeys hn hstart
    refine ⟨_, n, slots, t, hgirs, horder, hkeys, hn, hstart, hkinds, own, ids, hslots, ?_⟩
    have hproperty : ∀ e ∈ members n, e.1 = .property := fun e he =>
      List.mem_singleton.mp (hkinds ▸ List.mem_map_of_mem he)
    refine ((List.forall₂_and_left _ _).mpr ⟨hproperty, hids⟩).imp ?_
    rintro e id ⟨hkind, name, hfoundAgain⟩
    have hshown : ¬ Hidden recordSources files e.1 e.2 := fun hhidden => by cases hkind.symm.trans hhidden.1
    exact ⟨_, hfoundAgain.hasName, hfoundAgain.found_iff.mpr ⟨hnames, hshown⟩⟩

/-- A class that C knows by a name that is not its registered one. -/
def paramSpec : Element :=
  .mk (core "repository") [] [.mk (core "namespace")
    [("name", "GObject"), (c "identifier-prefixes", "G"), (c "symbol-prefixes", "g")] [.mk (core "class")
      [("name", "ParamSpec"), (c "symbol-prefix", "param_spec"), (c "type", "GParamSpec"),
        (glib "type-name", "GParam")]
      [.mk (core "virtual-method") [("name", "finalize")]
        [.mk (core "return-value") [] [.mk (core "type") [("name", "none"), (c "type", "void")] []]]]]]

/-- What comes of resolving the structure of the class. -/
def paramSpecResolved : Except Fault (List SymbolSlot) × Session :=
  (updateSymbol (some 0)).start (structSession (createHierarchies.start (indexOf paramSpec)).2 "GParamSpec")

/-- **A virtual method that is not found by the name of its symbol.** Its element is kept under another name, and
does not say that other languages cannot use it. Asked by the name of the symbol, they cannot. -/
theorem member_lost_paramSpec :
    paramSpecResolved.1.toOption = some [some 1, some 2] ∧
    (paramSpecResolved.2.database.get? 2).bind Symbol.uniqueName = some "GParam:::finalize" ∧
    (paramSpecResolved.2.index.node? "GParam:::finalize").isNone ∧
    ((isIntrospectable (some "GParam:::finalize")).start paramSpecResolved.2).1.toOption = some false ∧
    (paramSpecResolved.2.index.node? "GParamSpec:::finalize").map (fun m => (m.tag, m.attribute? "introspectable")) =
      some (core "virtual-method", none) := by
  decide +kernel

end GirDoc.Gir
