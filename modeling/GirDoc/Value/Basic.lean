import GirDoc.Text.Quoted

/-!
# Values

The dynamic values that annotations, settings and records hold: null, truth values, numbers, texts,
lists and dictionaries. A dictionary keeps its entries in the order in which its keys first came.
-/

namespace GirDoc

/-- A dynamic value. A `real` is a number that is no integer, kept as it was written. -/
inductive Value where
  | null
  | bool (b : Bool)
  | int (n : Int)
  | real (written : String)
  | text (s : String)
  | list (items : List Value)
  | dict (entries : List (String × Value))
  deriving Inhabited, Repr

namespace Value

/-! ## Identity -/

mutual

/-- Whether two values are the same, also in the order of the entries of dictionaries. -/
def identical : Value → Value → Bool
  | null, null => true
  | bool a, bool b => a == b
  | int a, int b => a == b
  | real a, real b => a == b
  | text a, text b => a == b
  | list a, list b => identicalItems a b
  | dict a, dict b => identicalEntries a b
  | _, _ => false

/-- Whether two lists have the same items. -/
def identicalItems : List Value → List Value → Bool
  | [], [] => true
  | v :: rest, v' :: rest' => identical v v' && identicalItems rest rest'
  | _, _ => false

/-- Whether two dictionaries have the same entries. -/
def identicalEntries : List (String × Value) → List (String × Value) → Bool
  | [], [] => true
  | (key, v) :: rest, (key', v') :: rest' => key == key' && identical v v' && identicalEntries rest rest'
  | _, _ => false

end

instance : BEq Value := ⟨identical⟩

/-! ## Dictionaries -/

/-- Looks a key up in the entries of a dictionary. -/
def lookup (key : String) (entries : List (String × Value)) : Option Value :=
  entries.lookup key

/-- Sets a key: its place is kept if it is there already, else it comes last. -/
def put {κ α : Type} [DecidableEq κ] (entries : List (κ × α)) (key : κ) (value : α) : List (κ × α) :=
  match entries with
  | [] => [(key, value)]
  | (k, v) :: rest => if k = key then (key, value) :: rest else (k, v) :: put rest key value

/-- A dictionary built from pairs: a repeated key keeps its first place and takes its last value. -/
def ofPairs {α : Type} (pairs : List (String × α)) : List (String × α) :=
  pairs.foldl (fun entries (key, value) => put entries key value) []

/-- What is looked up after `put`. -/
theorem lookup_put {κ α : Type} [DecidableEq κ] (entries : List (κ × α)) (key key' : κ) (value : α) :
    (put entries key value).lookup key' =
      if key' = key then some value else entries.lookup key' := by
  induction entries with
  | nil =>
    by_cases h : key' = key
    · simp [put, h]
    · have hb : (key' == key) = false := by simp [h]
      simp [put, List.lookup_cons, h, hb]
  | cons e rest ih =>
    obtain ⟨k, v⟩ := e
    by_cases hk : k = key
    · subst hk
      by_cases h : key' = k
      · simp [put, h]
      · have hb : (key' == k) = false := by simp [h]
        simp [put, List.lookup_cons, h, hb]
    · by_cases h : key' = k
      · subst h
        simp [put, hk]
      · have hb : (key' == k) = false := by simp [h]
        simp [put, hk, List.lookup_cons, hb, ih]

/-- The keys after an entry was put: a new key comes last. -/
theorem keys_put {κ α : Type} [DecidableEq κ] (entries : List (κ × α)) (key : κ) (value : α) :
    (put entries key value).map Prod.fst =
      if key ∈ entries.map Prod.fst then entries.map Prod.fst
      else entries.map Prod.fst ++ [key] := by
  induction entries with
  | nil => rfl
  | cons e rest ih =>
    obtain ⟨k, v⟩ := e
    rw [put]
    split
    · next h => simp [h]
    · next h =>
      simp only [List.map_cons, ih, List.mem_cons, Ne.symm h, false_or]
      split <;> rfl

theorem nodup_keys_put {κ α : Type} [DecidableEq κ] {entries : List (κ × α)}
    (h : (entries.map Prod.fst).Nodup) (key : κ) (value : α) :
    ((put entries key value).map Prod.fst).Nodup := by
  rw [keys_put]
  split
  · exact h
  · next hk =>
    rw [List.nodup_append]
    refine ⟨h, by simp, fun a ha b hb => ?_⟩
    rw [List.mem_singleton] at hb
    exact fun he => hk (hb ▸ he ▸ ha)

/-- Every entry after one was put is that one or an old one. -/
theorem mem_of_mem_put {κ α : Type} [DecidableEq κ] {entries : List (κ × α)} {key : κ} {value : α} {e : κ × α}
    (h : e ∈ put entries key value) : e = (key, value) ∨ e ∈ entries := by
  induction entries with
  | nil => exact Or.inl (List.mem_singleton.mp h)
  | cons e' rest ih =>
    obtain ⟨k, v⟩ := e'
    rw [put] at h
    split at h
    · rcases List.mem_cons.mp h with he | he
      · exact Or.inl he
      · exact Or.inr (List.mem_cons_of_mem _ he)
    · rcases List.mem_cons.mp h with he | he
      · exact Or.inr (he ▸ List.mem_cons_self)
      · exact (ih he).imp_right (List.mem_cons_of_mem _)

/-! ## Truth -/

/-- Whether a value counts as true: null, zero, and what is empty do not. -/
def truthy : Value → Bool
  | null => false
  | bool b => b
  | int n => n != 0
  | real written =>
    (written.toList.takeWhile fun c => c != 'e' && c != 'E').any fun c => c.isDigit && c != '0'
  | text s => !s.isEmpty
  | list items => !items.isEmpty
  | dict entries => !entries.isEmpty

/-! ## Text of a value -/

mutual

/-- The text of a value inside another one: texts stand between quotes. -/
def inner : Value → String
  | null => "None"
  | bool true => "True"
  | bool false => "False"
  | int n => toString n
  | real written => written
  | text s => Text.Quoted.encode s
  | list items => "[" ++ ", ".intercalate (innerItems items) ++ "]"
  | dict entries => "\x7b" ++ ", ".intercalate (innerEntries entries) ++ "\x7d"

/-- The texts of list items. -/
def innerItems : List Value → List String
  | [] => []
  | v :: rest => inner v :: innerItems rest

/-- The texts of dictionary entries. -/
def innerEntries : List (String × Value) → List String
  | [] => []
  | (key, v) :: rest => (Text.Quoted.encode key ++ ": " ++ inner v) :: innerEntries rest

end

/-- The text of a value on its own: a text is itself. -/
def display : Value → String
  | text s => s
  | v => inner v

end Value

end GirDoc
