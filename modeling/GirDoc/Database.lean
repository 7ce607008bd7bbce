import GirDoc.Symbol

/-!
# The symbol database

All symbols by number, and those that were requested by key, in the order in which the keys first came.
A request for a key that is taken gives the symbol of that key, whatever its kind; requests without a name
share one symbol.

How requests are served is not a matter of this library. `serve` is one way to do it, and what is proved of requests
rests only on the properties of it that `Serves` lists (Proofs/Database).
-/

namespace GirDoc

/-- The symbols of a run. -/
structure Database where
  symbols : Array Symbol
  keys : List (SymbolKey × SymbolId)
  /-- Every key leads to a symbol. -/
  sound : ∀ key id, keys.lookup key = some id → id < symbols.size

namespace Database

/-- The database without symbols. -/
def empty : Database where
  symbols := #[]
  keys := []
  sound _ _ h := by cases h

instance : Inhabited Database := ⟨empty⟩

/-- The symbol of a number. -/
def get? (db : Database) (id : SymbolId) : Option Symbol := db.symbols[id]?

/-- The number of the symbol of a name. -/
def find? (db : Database) (name : String) : Option SymbolId := db.keys.lookup (.text name)

/-- The symbol of a name. -/
def symbol? (db : Database) (name : String) : Option Symbol := (db.find? name).bind db.get?

/-- Adds a symbol without a name. -/
def add (db : Database) (s : Symbol) : Database × SymbolId :=
  ({ db with
      symbols := db.symbols.push s
      sound := fun key id h => by
        rw [Array.size_push]
        exact Nat.lt_succ_of_lt (db.sound key id h) },
    db.symbols.size)

/-- Changes a symbol. -/
def modify (db : Database) (id : SymbolId) (f : Symbol → Symbol) : Database :=
  { db with
    symbols := db.symbols.modify id f
    sound := fun key id' h => by
      rw [Array.size_modify]
      exact db.sound key id' h }

/-- Gives a symbol a key; it replaces one of that key. -/
def bindKey (db : Database) (key : SymbolKey) (id : Fin db.symbols.size) : Database :=
  { db with
    keys := Value.put db.keys key id
    sound := fun key' id' h => by
      rw [Value.lookup_put] at h
      split at h
      · exact Option.some.inj h ▸ id.isLt
      · exact db.sound key' id' h }

/-- Adds a symbol under a key. -/
def insert (db : Database) (key : SymbolKey) (s : Symbol) : Database × SymbolId :=
  let added := db.add s
  (added.1.bindKey key ⟨added.2, by simp [added, add]⟩, added.2)

/-- Serves a request: the symbol of that key, or a new one, with the details set. -/
def serve (db : Database) (key : SymbolKey) (r : Request) : Database × SymbolId :=
  match db.keys.lookup key with
  | some id => (db.modify id (r.applyTo key), id)
  | none => db.insert key (r.applyTo key { kind := r.kind })

theorem find?_bindKey (db : Database) (name name' : String) (id : Fin db.symbols.size) :
    (db.bindKey (.text name) id).find? name' = if name' = name then some id.val else db.find? name' := by
  simp [find?, bindKey, Value.lookup_put]

end Database

end GirDoc
