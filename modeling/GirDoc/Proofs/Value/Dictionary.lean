import GirDoc.Value.Basic

/-!
# Dictionaries as lists of pairs

What `put` does to the entries of a dictionary and to their keys, for one entry and for many one after the
other (`putAll`), and how the entries of a dictionary are found by their keys.
-/

namespace GirDoc.Value

variable {κ α : Type} [DecidableEq κ]

theorem mem_keys_put {entries : List (κ × α)} {key k : κ} {value : α} :
    k ∈ (put entries key value).map Prod.fst ↔ k ∈ entries.map Prod.fst ∨ k = key := by
  rw [keys_put]
  split
  · next h => exact ⟨Or.inl, fun hk => hk.elim id fun he => he ▸ h⟩
  · simp

/-- An entry with a new key goes behind all others. -/
theorem put_of_not_mem {entries : List (κ × α)} {key : κ} (value : α) (h : key ∉ entries.map Prod.fst) :
    put entries key value = entries ++ [(key, value)] := by
  induction entries with
  | nil => rfl
  | cons e rest ih =>
    rw [List.map_cons, List.mem_cons, not_or] at h
    rw [put, if_neg (Ne.symm h.1), ih h.2]
    rfl

/-- To put an entry that is there already changes nothing. -/
theorem put_eq_self {entries : List (κ × α)} {key : κ} {value : α} (h : entries.lookup key = some value) :
    put entries key value = entries := by
  induction entries with
  | nil => cases h
  | cons e rest ih =>
    obtain ⟨k, v⟩ := e
    rw [List.lookup_cons] at h
    by_cases hk : k = key
    · subst hk
      rw [beq_self_eq_true] at h
      cases h
      rw [put, if_pos rfl]
    · rw [beq_eq_false_iff_ne.mpr (Ne.symm hk)] at h
      rw [put, if_neg hk, ih h]

theorem put_put (entries : List (κ × α)) (key : κ) (value : α) :
    put (put entries key value) key value = put entries key value :=
  put_eq_self ((lookup_put _ _ _ _).trans (if_pos rfl))

theorem mem_of_lookup {entries : List (κ × α)} {key : κ} {value : α}
    (h : entries.lookup key = some value) : (key, value) ∈ entries := by
  induction entries with
  | nil => cases h
  | cons e rest ih =>
    obtain ⟨k, v⟩ := e
    rw [List.lookup_cons] at h
    split at h
    · next hk =>
      cases h
      rw [eq_of_beq hk]
      exact List.mem_cons_self
    · exact List.mem_cons_of_mem _ (ih h)

theorem isSome_lookup {entries : List (κ × α)} {key : κ} :
    (entries.lookup key).isSome ↔ key ∈ entries.map Prod.fst := by
  induction entries with
  | nil => simp
  | cons e rest ih =>
    rw [List.lookup_cons, List.map_cons, List.mem_cons, ← ih]
    by_cases h : key = e.1
    · simp [h]
    · simp [h, beq_eq_false_iff_ne.mpr h]

theorem lookup_of_mem {entries : List (κ × α)} (hkeys : (entries.map Prod.fst).Nodup) {key : κ}
    {value : α} (h : (key, value) ∈ entries) : entries.lookup key = some value := by
  induction entries with
  | nil => cases h
  | cons e rest ih =>
    obtain ⟨k, v⟩ := e
    rw [List.map_cons, List.nodup_cons] at hkeys
    rw [List.lookup_cons]
    rcases List.mem_cons.mp h with he | he
    · cases he
      simp
    · have hne : key ≠ k := by
        rintro rfl
        exact hkeys.1 (List.mem_map.mpr ⟨_, he, rfl⟩)
      rw [beq_eq_false_iff_ne.mpr hne]
      exact ih hkeys.2 he

/-! ## Many entries -/

/-- Puts entries one after the other. -/
def putAll (entries new : List (κ × α)) : List (κ × α) :=
  new.foldl (fun entries e => put entries e.1 e.2) entries

theorem putAll_append (entries new new' : List (κ × α)) :
    putAll entries (new ++ new') = putAll (putAll entries new) new' :=
  List.foldl_append

theorem mem_keys_putAll {entries new : List (κ × α)} {k : κ} :
    k ∈ (putAll entries new).map Prod.fst ↔ k ∈ entries.map Prod.fst ∨ k ∈ new.map Prod.fst := by
  induction new generalizing entries with
  | nil => simp [putAll]
  | cons e rest ih =>
    show k ∈ (putAll (put entries e.1 e.2) rest).map Prod.fst ↔ _
    rw [ih, mem_keys_put, List.map_cons, List.mem_cons, or_assoc]

/-- The entry put last counts, and the old one if none was put. -/
theorem lookup_putAll (entries new : List (κ × α)) (k : κ) :
    (putAll entries new).lookup k = (new.reverse.lookup k).or (entries.lookup k) := by
  induction new generalizing entries with
  | nil => rfl
  | cons e rest ih =>
    show (putAll (put entries e.1 e.2) rest).lookup k = _
    rw [ih, lookup_put, List.reverse_cons, List.lookup_append, Option.or_assoc, List.lookup_cons, List.lookup_nil]
    congr 1
    by_cases h : k = e.1
    · simp [h]
    · simp [h, beq_eq_false_iff_ne.mpr h]

theorem mem_of_mem_putAll {entries new : List (κ × α)} {e : κ × α} (h : e ∈ putAll entries new) :
    e ∈ entries ∨ e ∈ new := by
  induction new generalizing entries with
  | nil => exact Or.inl h
  | cons e' rest ih =>
    rcases ih h with hput | hrest
    · rcases mem_of_mem_put hput with rfl | hold
      · exact Or.inr List.mem_cons_self
      · exact Or.inl hold
    · exact Or.inr (List.mem_cons_of_mem _ hrest)

end GirDoc.Value
