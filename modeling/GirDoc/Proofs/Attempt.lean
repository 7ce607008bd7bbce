import GirDoc.Attempt

/-!
# Running attempts

What an attempt leaves, step by step: one lemma for each way in which attempts are made. An attempt made of
two is taken apart with `start_bind_ok` and `start_bind_error`.
-/

namespace GirDoc.Attempt

variable {σ τ α β : Type}

@[simp] theorem start_pure (a : α) (s : σ) : (pure a : Attempt σ α).start s = (.ok a, s) := rfl

@[simp] theorem start_throw (e : Fault) (s : σ) :
    (throw e : Attempt σ α).start s = (.error e, s) := rfl

@[simp] theorem start_get (s : σ) : (get : Attempt σ σ).start s = (.ok s, s) := rfl

@[simp] theorem start_set (t s : σ) : (set t : Attempt σ PUnit).start s = (.ok ⟨⟩, t) := rfl

@[simp] theorem start_modify (f : σ → σ) (s : σ) :
    (modify f : Attempt σ PUnit).start s = (.ok ⟨⟩, f s) := rfl

theorem start_bind (m : Attempt σ α) (f : α → Attempt σ β) (s : σ) :
    (m >>= f).start s = match m.start s with
      | (.ok a, t) => (f a).start t
      | (.error e, t) => (.error e, t) := by
  show ExceptT.bindCont f (m.start s).1 (m.start s).2 = _
  rcases m.start s with ⟨_ | a, t⟩ <;> rfl

theorem start_bind_ok {m : Attempt σ α} {f : α → Attempt σ β} {s t : σ} {a : α}
    (h : m.start s = (.ok a, t)) : (m >>= f).start s = (f a).start t := by
  rw [start_bind, h]

theorem start_bind_error {m : Attempt σ α} {f : α → Attempt σ β} {s t : σ} {e : Fault}
    (h : m.start s = (.error e, t)) : (m >>= f).start s = (.error e, t) := by
  rw [start_bind, h]

/-- An attempt made of two succeeds only if both do. -/
theorem start_bind_eq_ok {m : Attempt σ α} {f : α → Attempt σ β} {s t : σ} {b : β}
    (h : (m >>= f).start s = (.ok b, t)) :
    ∃ a t₁, m.start s = (.ok a, t₁) ∧ (f a).start t₁ = (.ok b, t) := by
  rw [start_bind] at h
  rcases hm : m.start s with ⟨_ | a, t₁⟩
  · rw [hm] at h
    cases h
  · rw [hm] at h
    exact ⟨a, t₁, rfl, h⟩

/-- A result made of two is there only if both are. -/
theorem exists_of_bind_eq_ok {x : Except Fault α} {f : α → Except Fault β} {b : β} (h : x >>= f = .ok b) :
    ∃ a, x = .ok a ∧ f a = .ok b := by
  cases x with
  | error e => cases h
  | ok a => exact ⟨a, rfl, h⟩

@[simp] theorem start_ofExcept (r : Except Fault α) (s : σ) :
    (ofExcept r : Attempt σ α).start s = (r, s) := by
  cases r <;> rfl

/-- What follows a result is done if the result is there, in the session before it. -/
theorem start_ofExcept_bind_eq_ok {r : Except Fault α} {f : α → Attempt σ β} {s t : σ} {b : β}
    (h : (ofExcept r >>= f).start s = (.ok b, t)) : ∃ a, r = .ok a ∧ (f a).start s = (.ok b, t) := by
  cases r with
  | ok a => exact ⟨a, rfl, h⟩
  | error e => cases h

@[simp] theorem start_need_some (e : Fault) (a : α) (s : σ) :
    (need e (some a) : Attempt σ α).start s = (.ok a, s) := rfl

@[simp] theorem start_need_none (e : Fault) (s : σ) :
    (need e none : Attempt σ α).start s = (.error e, s) := rfl

theorem start_forM_cons_ok {f : α → Attempt σ PUnit} {a : α} {rest : List α} {s t : σ}
    (h : (f a).start s = (.ok ⟨⟩, t)) : ((a :: rest).forM f).start s = (rest.forM f).start t :=
  start_bind_ok h

/-- An attempt that gives something came to its end. -/
theorem start_of_toOption {m : Attempt σ α} {a : α} {s : σ} (h : (m.start s).1.toOption = some a) :
    ∃ t, m.start s = (.ok a, t) := by
  rcases hstart : m.start s with ⟨e | b, t⟩
  · rw [hstart] at h
    cases h
  · rw [hstart] at h
    cases h
    exact ⟨t, rfl⟩

/-- An attempt on a part of the state leaves the rest alone. -/
theorem start_onPart (get : σ → τ) (set : τ → σ → σ) (m : Attempt τ α) (s : σ) :
    (onPart get set m).start s = ((m.start (get s)).1, set (m.start (get s)).2 s) := rfl

end GirDoc.Attempt
