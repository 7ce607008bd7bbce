import Mathlib.Data.Finset.Card

/-!
# What remains to be done

Recursions that follow references end because each step does something that was not done before: it opens a
file, or finds a name. What remains of all that can be done never gets more (`remaining_le`), it gets less with
every such step (`remaining_lt`), and as long as it does not get less nothing new was done
(`subset_of_remaining_eq`).
-/

namespace GirDoc

variable {α : Type} [DecidableEq α] {all old new : List α}

/-- How many of `all` are not yet among `done`. -/
def remaining (all done : List α) : Nat := (all.toFinset \ done.toFinset).card

theorem remaining_le_length (all done : List α) : remaining all done ≤ all.length :=
  (Finset.card_le_card Finset.sdiff_subset).trans (List.toFinset_card_le all)

theorem sdiff_subset_of_subset (h : old ⊆ new) :
    all.toFinset \ new.toFinset ⊆ all.toFinset \ old.toFinset := by
  intro a ha
  simp only [Finset.mem_sdiff, List.mem_toFinset] at ha ⊢
  exact ⟨ha.1, fun hold => ha.2 (h hold)⟩

theorem remaining_le (h : old ⊆ new) : remaining all new ≤ remaining all old :=
  Finset.card_le_card (sdiff_subset_of_subset h)

theorem remaining_lt (h : old ⊆ new) {a : α} (ha : a ∈ all) (hnew : a ∈ new) (hold : a ∉ old) :
    remaining all new < remaining all old := by
  refine Finset.card_lt_card
    ((Finset.ssubset_iff_of_subset (sdiff_subset_of_subset h)).mpr ⟨a, ?_, ?_⟩)
  · simp [ha, hold]
  · simp [hnew]

theorem subset_of_remaining_eq (h : old ⊆ new) (hall : ∀ a ∈ new, a ∈ old ∨ a ∈ all)
    (heq : remaining all new = remaining all old) : new ⊆ old := by
  intro a ha
  by_contra hold
  exact (remaining_lt h ((hall a ha).resolve_left hold) ha hold).ne heq

end GirDoc
