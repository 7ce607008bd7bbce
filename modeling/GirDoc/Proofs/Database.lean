import GirDoc.Database
import GirDoc.Proofs.Value.Dictionary

/-!
# Names in the symbol database

A request for a name leads to a symbol that has the name, and other names still lead where they led. All that is used
of how requests are served is in `Serves`. In a database where names lead to symbols that have them (`KeysNamed`),
requests and other changes keep that up. So the symbols of different names are different ones.
-/

namespace GirDoc.Database

variable {db : Database} {name name' : String} {id : SymbolId} {x : Symbol}

/-! ## Symbols -/

theorem get?_add_of_get? (x' : Symbol) (h : db.get? id = some x) : (db.add x').1.get? id = some x := by
  have hlt : id < db.symbols.size := (Array.getElem?_eq_some_iff.mp h).1
  show (db.symbols.push x')[id]? = some x
  rw [Array.getElem?_push_lt hlt, ← Array.getElem?_eq_getElem hlt]
  exact h

theorem get?_modify (db : Database) (id id' : SymbolId) (f : Symbol → Symbol) :
    (db.modify id' f).get? id = if id' = id then (db.get? id).map f else db.get? id :=
  Array.getElem?_modify

/-! ## Requests -/

/-- What is used of how a request for a name is served: the name leads to its symbol, which is as the request leaves it.
It is the symbol that the name led to before, or a new one. All other keys and symbols stay as they are. -/
structure Serves (db : Database) (name : String) (r : Request) (db' : Database) (id : SymbolId) : Prop where
  found : db'.find? name = some id
  applied : ∃ x, db'.get? id = some (r.applyTo (.text name) x)
  same : ∀ id', db.find? name = some id' → id' = id
  fresh : db.find? name = none → db.get? id = none
  others : ∀ key, key ≠ .text name → db'.keys.lookup key = db.keys.lookup key
  kept : ∀ id' x, id' ≠ id → db.get? id' = some x → db'.get? id' = some x

theorem serves_serve (db : Database) (name : String) (r : Request) :
    Serves db name r (db.serve (.text name) r).1 (db.serve (.text name) r).2 := by
  rw [serve]
  cases hkey : db.keys.lookup (.text name) with
  | some id =>
    have hlt : id < db.symbols.size := db.sound _ _ hkey
    refine ⟨hkey, ⟨db.symbols[id], ?_⟩, fun id' h => ?_, fun h => ?_, fun _ _ => rfl, fun id' x hne h => ?_⟩
    · simp [get?, modify, Array.getElem_modify, hlt]
    · exact Option.some.inj (h.symm.trans hkey)
    · cases h.symm.trans hkey
    · exact (get?_modify db id' id _).trans ((if_neg (Ne.symm hne)).trans h)
  | none =>
    refine ⟨(find?_bindKey _ name name _).trans (if_pos rfl), ⟨{ kind := r.kind }, ?_⟩, fun id' h => ?_, fun _ => ?_,
      fun key hne => ?_, fun id' x _ h => get?_add_of_get? _ h⟩
    · simp [get?, insert, bindKey, add]
    · cases h.symm.trans hkey
    · exact Array.getElem?_eq_none (Nat.le_refl _)
    · exact (Value.lookup_put _ _ _ _).trans (if_neg hne)

/-- A symbol that the name did not lead to is not that of the request. -/
theorem Serves.ne {r : Request} {db' : Database} {id' : SymbolId} (h : Serves db name r db' id')
    (hne : db.find? name ≠ some id) (hget : db.get? id = some x) : id ≠ id' := by
  rintro rfl
  -- the symbol of the request was there under its name, or it was not there at all
  cases hfind : db.find? name with
  | some id' => exact hne (hfind.trans (congrArg some (h.same id' hfind)))
  | none => cases (h.fresh hfind).symm.trans hget

/-- A request gives the symbol of its key as the request leaves it. -/
theorem get?_serve_applyTo (db : Database) (name : String) (r : Request) :
    ∃ x, (db.serve (.text name) r).1.get? (db.serve (.text name) r).2 = some (r.applyTo (.text name) x) :=
  (db.serves_serve name r).applied

/-- A request gives a symbol that has the name of its key. -/
theorem get?_serve (db : Database) (name : String) (r : Request) :
    ∃ x, (db.serve (.text name) r).1.get? (db.serve (.text name) r).2 = some x ∧
      x.uniqueName = some name := by
  obtain ⟨x, hx⟩ := db.get?_serve_applyTo name r
  exact ⟨_, hx, rfl⟩

/-- A request makes no difference to other names. -/
theorem find?_serve_of_ne (db : Database) (r : Request) (hne : name ≠ name') :
    (db.serve (.text name') r).1.find? name = db.find? name :=
  (db.serves_serve name' r).others _ fun h => hne (SymbolKey.text.inj h)

/-- A request leaves its symbol under its name. -/
theorem find?_serve (db : Database) (name : String) (r : Request) :
    (db.serve (.text name) r).1.find? name = some (db.serve (.text name) r).2 :=
  (db.serves_serve name r).found

/-- A name that leads to a symbol leads to it after each request. -/
theorem find?_serve_of_find? (r : Request) (h : db.find? name = some id) :
    (db.serve (.text name') r).1.find? name = some id := by
  by_cases hname : name = name'
  · -- a request for a name that leads to a symbol changes that symbol
    subst hname
    rw [find?_serve, (db.serves_serve name r).same id h]
  · rw [find?_serve_of_ne db r hname, h]

/-- Other symbols stay as they are on a request. -/
theorem get?_serve_of_ne (r : Request) (hne : db.find? name ≠ some id) (h : db.get? id = some x) :
    (db.serve (.text name) r).1.get? id = some x :=
  (db.serves_serve name r).kept id x ((db.serves_serve name r).ne hne h) h

/-! ## Symbols that no key leads to -/

/-- A symbol that no key leads to: no request changes it. -/
structure HasItem (db : Database) (id : SymbolId) (x : Symbol) : Prop where
  get : db.get? id = some x
  unkeyed : ∀ key, db.keys.lookup key ≠ some id

theorem hasItem_add (db : Database) (x : Symbol) : (db.add x).1.HasItem (db.add x).2 x where
  get := Array.getElem?_push_size
  unkeyed key hkey := Nat.lt_irrefl _ (db.sound key _ hkey)

theorem HasItem.add (h : db.HasItem id x) (x' : Symbol) : (db.add x').1.HasItem id x where
  get := get?_add_of_get? x' h.get
  unkeyed := h.unkeyed

theorem HasItem.serve (h : db.HasItem id x) (name : String) (r : Request) :
    (db.serve (.text name) r).1.HasItem id x where
  get := get?_serve_of_ne r (h.unkeyed _) h.get
  unkeyed := by
    have hserves := db.serves_serve name r
    intro key hkey
    by_cases hname : key = .text name
    · subst hname
      exact hserves.ne (h.unkeyed _) h.get (Option.some.inj (hkey.symm.trans hserves.found))
    · rw [hserves.others key hname] at hkey
      exact h.unkeyed key hkey

/-! ## Names lead to symbols that have them -/

/-- Every name leads to a symbol that has it. -/
def KeysNamed (db : Database) : Prop :=
  ∀ name id, db.find? name = some id → ∃ x, db.get? id = some x ∧ x.uniqueName = some name

theorem keysNamed_empty : KeysNamed empty := by
  intro name id h
  cases h

theorem KeysNamed.add (h : KeysNamed db) (x' : Symbol) : KeysNamed (db.add x').1 := by
  intro name id hfind
  obtain ⟨x, hx, hname⟩ := h name id hfind
  exact ⟨x, get?_add_of_get? x' hx, hname⟩

theorem KeysNamed.modify (h : KeysNamed db) (id' : SymbolId) {f : Symbol → Symbol}
    (hf : ∀ x, (f x).uniqueName = x.uniqueName) : KeysNamed (db.modify id' f) := by
  intro name id hfind
  obtain ⟨x, hx, hname⟩ := h name id hfind
  rw [get?_modify, hx]
  split
  · exact ⟨f x, rfl, (hf x).trans hname⟩
  · exact ⟨x, rfl, hname⟩

theorem KeysNamed.serve (h : KeysNamed db) (name : String) (r : Request) :
    KeysNamed (db.serve (.text name) r).1 := by
  intro name' id hfind
  by_cases hname : name' = name
  · subst hname
    rw [find?_serve, Option.some.injEq] at hfind
    exact hfind ▸ get?_serve db name' r
  · rw [find?_serve_of_ne db r hname] at hfind
    obtain ⟨x, hx, hx'⟩ := h name' id hfind
    refine ⟨x, get?_serve_of_ne r (fun hsame => ?_) hx, hx'⟩
    -- a symbol has one name only
    obtain ⟨y, hy, hy'⟩ := h name id hsame
    cases hx.symm.trans hy
    exact hname (Option.some.inj (hx'.symm.trans hy'))

end GirDoc.Database
