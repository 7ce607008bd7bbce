import Mathlib.Data.List.Perm.Subperm
import Mathlib.Data.List.Nodup
import Mathlib.Logic.Relation
import GirDoc.Proofs.Attempt

/-!
# Descents

A descent goes through a node and all below it: entering a node changes the state and gives the nodes to go
on with. Nodes may lead back to nodes above them, so a descent need not come to an end.

* `within d n s` is what a descent comes to if `d` levels are enough. `Ends` says of a list of nodes that some
  number is enough for all of them, one after the other.
* `ComesTo ns s b` says that the descent through the nodes `ns` comes to `b`, after it is through with all that
  comes before, and `Below a b` that the descent from `a` goes down to `b` on the next level.
* `Circles` says that a node is entered again below itself in a state that looks the same.

How states look to a descent is the relation `same` of `Tame`. States grow, and only so often. Then a descent
ends if and only if it does not go round in circles (`Tame.ends_iff`), and the number of levels that is enough
is known beforehand (`Tame.isSome_runAll`): a way down that is longer meets a node twice while nothing grows.
-/

namespace GirDoc.Descent

open Relation

variable {N σ : Type}

/-! ## Outcomes -/

/-- What a descent comes to: its result, and the state that it leaves. -/
abbrev Outcome (σ : Type) := Except Fault Unit × σ

/-- Goes through nodes up to the first fault; `none` as soon as a node has no outcome. -/
def runAll (f : N → σ → Option (Outcome σ)) : List N → σ → Option (Outcome σ)
  | [], s => some (.ok (), s)
  | n :: rest, s => match f n s with
    | some (.ok (), t) => runAll f rest t
    | outcome => outcome

/-- What the descent from a node comes to if `d` levels are enough. -/
def within (enter : N → Attempt σ (List N)) : (d : Nat) → N → σ → Option (Outcome σ)
  | 0, _, _ => none
  | d + 1, n, s => match (enter n).start s with
    | (.ok next, t) => runAll (within enter d) next t
    | (.error e, t) => some (.error e, t)

theorem runAll_append (f : N → σ → Option (Outcome σ)) (ns ms : List N) (s : σ) :
    runAll f (ns ++ ms) s = match runAll f ns s with
      | some (.ok (), t) => runAll f ms t
      | outcome => outcome := by
  induction ns generalizing s with
  | nil => rfl
  | cons n rest ih =>
    rw [List.cons_append, runAll, runAll]
    rcases f n s with _ | ⟨_ | _, t⟩
    · rfl
    · rfl
    · exact ih t

theorem runAll_mono {f g : N → σ → Option (Outcome σ)} (h : ∀ n s o, f n s = some o → g n s = some o)
    {ns : List N} {s : σ} {o : Outcome σ} (ho : runAll f ns s = some o) : runAll g ns s = some o := by
  induction ns generalizing s with
  | nil => exact ho
  | cons n rest ih =>
    rw [runAll] at ho ⊢
    rcases hn : f n s with _ | ⟨_ | _, t⟩
    · rw [hn] at ho
      cases ho
    · rw [hn] at ho
      rw [h n s _ hn]
      exact ho
    · rw [hn] at ho
      rw [h n s _ hn]
      exact ih ho

/-- The first node that has no outcome. -/
theorem exists_of_runAll_eq_none {f : N → σ → Option (Outcome σ)} {ns : List N} {s : σ}
    (h : runAll f ns s = none) :
    ∃ before m after t, ns = before ++ m :: after ∧ runAll f before s = some (.ok (), t) ∧
      f m t = none := by
  induction ns generalizing s with
  | nil => cases h
  | cons n rest ih =>
    rw [runAll] at h
    rcases hn : f n s with _ | ⟨_ | _, t⟩
    · exact ⟨[], n, rest, s, rfl, rfl, hn⟩
    · rw [hn] at h
      cases h
    · rw [hn] at h
      obtain ⟨before, m, after, u, rfl, hbefore, hm⟩ := ih h
      refine ⟨n :: before, m, after, u, rfl, ?_, hm⟩
      rw [runAll, hn]
      exact hbefore

variable {enter : N → Attempt σ (List N)}

theorem within_succ {d : Nat} {n : N} {s : σ} {o : Outcome σ} (h : within enter d n s = some o) :
    within enter (d + 1) n s = some o := by
  induction d generalizing n s o with
  | zero => cases h
  | succ d ih =>
    rw [within] at h ⊢
    rcases hn : (enter n).start s with ⟨_ | next, t⟩
    · rw [hn] at h
      exact h
    · rw [hn] at h
      exact runAll_mono (fun n s o => ih) h

/-- More levels change nothing where fewer are enough. -/
theorem within_mono {d d' : Nat} (hd : d ≤ d') {n : N} {s : σ} {o : Outcome σ}
    (h : within enter d n s = some o) : within enter d' n s = some o := by
  induction hd with
  | refl => exact h
  | step _ ih => exact within_succ ih

/-- The descent through nodes ends. -/
def Ends (enter : N → Attempt σ (List N)) (ns : List N) (s : σ) : Prop :=
  ∃ d, (runAll (within enter d) ns s).isSome

/-! ## The way down -/

/-- The descent through nodes comes to one of them in a state, when it is through with those before. -/
def ComesTo (enter : N → Attempt σ (List N)) (ns : List N) (s : σ) (b : N × σ) : Prop :=
  ∃ before after d, ns = before ++ b.1 :: after ∧ runAll (within enter d) before s = some (.ok (), b.2)

/-- From one node in a state, the descent goes down to another in another state. -/
def Below (enter : N → Attempt σ (List N)) (a b : N × σ) : Prop :=
  ∃ next s, (enter a.1).start a.2 = (.ok next, s) ∧ ComesTo enter next s b

theorem isSome_within_of_comesTo {ns : List N} {s : σ} {b : N × σ} {d : Nat}
    (hb : ComesTo enter ns s b) (h : (runAll (within enter d) ns s).isSome) :
    (within enter d b.1 b.2).isSome := by
  obtain ⟨before, after, d₀, rfl, hbefore⟩ := hb
  rw [runAll_append] at h
  -- what comes before `b` has one outcome, whatever number of levels is enough for it
  have hsame : runAll (within enter d) before s = some (.ok (), b.2) := by
    rcases hrun : runAll (within enter d) before s with _ | o
    · rw [hrun] at h
      cases h
    · have hmax := runAll_mono (fun _ _ _ => within_mono (Nat.le_max_left d d₀)) hrun
      rw [runAll_mono (fun _ _ _ => within_mono (Nat.le_max_right d d₀)) hbefore] at hmax
      exact hmax.symm
  rw [hsame] at h
  simp only [runAll] at h
  rcases hb : within enter d b.1 b.2 with _ | o
  · rw [hb] at h
    cases h
  · rfl

theorem isSome_within_of_below {a b : N × σ} {d : Nat} (hab : Below enter a b)
    (h : (within enter (d + 1) a.1 a.2).isSome) : (within enter d b.1 b.2).isSome := by
  obtain ⟨next, s, henter, hb⟩ := hab
  rw [within, henter] at h
  exact isSome_within_of_comesTo hb h

theorem exists_comesTo {d : Nat} {ns : List N} {s : σ} (h : runAll (within enter d) ns s = none) :
    ∃ b, ComesTo enter ns s b ∧ within enter d b.1 b.2 = none := by
  obtain ⟨before, m, after, t, hns, hbefore, hm⟩ := exists_of_runAll_eq_none h
  exact ⟨(m, t), ⟨before, after, d, hns, hbefore⟩, hm⟩

theorem exists_below {d : Nat} {n : N} {s : σ} (h : within enter (d + 1) n s = none) :
    ∃ b, Below enter (n, s) b ∧ within enter d b.1 b.2 = none := by
  rw [within] at h
  rcases hn : (enter n).start s with ⟨_ | next, t⟩
  · rw [hn] at h
    cases h
  · rw [hn] at h
    obtain ⟨b, hb, hnone⟩ := exists_comesTo h
    exact ⟨b, ⟨next, t, hn, hb⟩, hnone⟩

/-- Each level down takes one level less. -/
theorem exists_lt_of_transGen {a b : N × σ} {d : Nat} (hab : TransGen (Below enter) a b)
    (h : (within enter d a.1 a.2).isSome) : ∃ d' < d, (within enter d' b.1 b.2).isSome := by
  have hpred {a b : N × σ} {d : Nat} (hab : Below enter a b) (h : (within enter d a.1 a.2).isSome) :
      ∃ d' < d, (within enter d' b.1 b.2).isSome := by
    cases d with
    | zero => cases h
    | succ d => exact ⟨d, Nat.lt_succ_self d, isSome_within_of_below hab h⟩
  induction hab with
  | single hab => exact hpred hab h
  | tail _ hbc ih =>
    obtain ⟨d', hd', hb⟩ := ih
    obtain ⟨d'', hd'', hc⟩ := hpred hbc hb
    exact ⟨d'', Nat.lt_trans hd'' hd', hc⟩

/-! ## States that look the same -/

/-- Two outcomes look the same. -/
def Agrees (same : σ → σ → Prop) (o o' : Option (Outcome σ)) : Prop :=
  o = none ∧ o' = none ∨ ∃ r t t', o = some (r, t) ∧ o' = some (r, t') ∧ same t t'

/-- Entering a node depends on how states look alone, and lets them grow at most `rank` times. Only the
nodes of a list lead on to others. -/
structure Tame (enter : N → Attempt σ (List N)) (same grows : σ → σ → Prop) (rank : σ → Nat)
    (nodes : List N) : Prop where
  equiv : Equivalence same
  agree : ∀ {s s'} n, same s s' →
    (∃ next t t', (enter n).start s = (.ok next, t) ∧ (enter n).start s' = (.ok next, t') ∧ same t t') ∨
    ∃ e t t', (enter n).start s = (.error e, t) ∧ (enter n).start s' = (.error e, t') ∧ same t t'
  enter_grows : ∀ {n s r t}, (enter n).start s = (r, t) → grows s t
  grows_refl : ∀ s, grows s s
  grows_trans : ∀ {s t u}, grows s t → grows t u → grows s u
  rank_le : ∀ {s t}, grows s t → rank t ≤ rank s
  same_of_rank_eq : ∀ {s t}, grows s t → rank t = rank s → same s t
  mem_nodes : ∀ {n s next t}, (enter n).start s = (.ok next, t) → next ≠ [] → n ∈ nodes

/-- A node that is come to is entered again below itself, in a state that looks the same. -/
def Circles (enter : N → Attempt σ (List N)) (same : σ → σ → Prop) (ns : List N) (s : σ) : Prop :=
  ∃ first m t t', ComesTo enter ns s first ∧ ReflTransGen (Below enter) first (m, t) ∧
    TransGen (Below enter) (m, t) (m, t') ∧ same t t'

namespace Tame

variable {same grows : σ → σ → Prop} {rank : σ → Nat} {nodes : List N}

theorem agrees_runAll {f : N → σ → Option (Outcome σ)}
    (hf : ∀ n s s', same s s' → Agrees same (f n s) (f n s')) {ns : List N} {s s' : σ}
    (hs : same s s') : Agrees same (runAll f ns s) (runAll f ns s') := by
  induction ns generalizing s s' with
  | nil => exact Or.inr ⟨_, s, s', rfl, rfl, hs⟩
  | cons n rest ih =>
    rw [runAll, runAll]
    rcases hf n s s' hs with ⟨hn, hn'⟩ | ⟨r, t, t', hn, hn', ht⟩
    · rw [hn, hn']
      exact Or.inl ⟨rfl, rfl⟩
    · rw [hn, hn']
      cases r with
      | error e => exact Or.inr ⟨_, t, t', rfl, rfl, ht⟩
      | ok => exact ih ht

/-- Descents from states that look the same come to the same. -/
theorem agrees_within (h : Tame enter same grows rank nodes) (d : Nat) {n : N} {s s' : σ}
    (hs : same s s') : Agrees same (within enter d n s) (within enter d n s') := by
  induction d generalizing n s s' with
  | zero => exact Or.inl ⟨rfl, rfl⟩
  | succ d ih =>
    rw [within, within]
    rcases h.agree n hs with ⟨next, t, t', hn, hn', ht⟩ | ⟨e, t, t', hn, hn', ht⟩
    · rw [hn, hn']
      exact agrees_runAll (f := within enter d) (fun _ _ _ hs => ih hs) ht
    · rw [hn, hn']
      exact Or.inr ⟨_, t, t', rfl, rfl, ht⟩

theorem isSome_congr (h : Tame enter same grows rank nodes) {d : Nat} {n : N} {s s' : σ}
    (hs : same s s') (hd : (within enter d n s).isSome) : (within enter d n s').isSome := by
  rcases h.agrees_within d hs with ⟨hn, -⟩ | ⟨r, t, t', -, hn', -⟩
  · rw [hn] at hd
    cases hd
  · rw [hn']
    rfl

theorem runAll_grows {f : N → σ → Option (Outcome σ)} (h : Tame enter same grows rank nodes)
    (hf : ∀ n s r t, f n s = some (r, t) → grows s t) {ns : List N} {s t : σ} {r : Except Fault Unit}
    (hrun : runAll f ns s = some (r, t)) : grows s t := by
  induction ns generalizing s with
  | nil =>
    cases hrun
    exact h.grows_refl _
  | cons n rest ih =>
    rw [runAll] at hrun
    rcases hn : f n s with _ | ⟨_ | _, t'⟩
    · rw [hn] at hrun
      cases hrun
    · rw [hn] at hrun
      cases hrun
      exact hf n s _ _ hn
    · rw [hn] at hrun
      exact h.grows_trans (hf n s _ _ hn) (ih hrun)

theorem within_grows (h : Tame enter same grows rank nodes) (d : Nat) {n : N} {s t : σ}
    {r : Except Fault Unit} (hrun : within enter d n s = some (r, t)) : grows s t := by
  induction d generalizing n s t r with
  | zero => cases hrun
  | succ d ih =>
    rw [within] at hrun
    rcases hn : (enter n).start s with ⟨_ | next, t'⟩
    · rw [hn] at hrun
      cases hrun
      exact h.enter_grows hn
    · rw [hn] at hrun
      exact h.grows_trans (h.enter_grows hn) (h.runAll_grows (fun _ _ _ _ => ih) hrun)

theorem comesTo_grows (h : Tame enter same grows rank nodes) {ns : List N} {s : σ} {b : N × σ}
    (hb : ComesTo enter ns s b) : grows s b.2 := by
  obtain ⟨before, after, d, -, hbefore⟩ := hb
  exact h.runAll_grows (fun _ _ _ _ => h.within_grows d) hbefore

theorem below_grows (h : Tame enter same grows rank nodes) {a b : N × σ} (hab : Below enter a b) :
    grows a.2 b.2 := by
  obtain ⟨next, s, hn, hb⟩ := hab
  exact h.grows_trans (h.enter_grows hn) (h.comesTo_grows hb)

theorem reflTransGen_grows (h : Tame enter same grows rank nodes) {a b : N × σ}
    (hab : ReflTransGen (Below enter) a b) : grows a.2 b.2 := by
  induction hab with
  | refl => exact h.grows_refl _
  | tail _ hbc ih => exact h.grows_trans ih (h.below_grows hbc)

/-! ## Circles -/

/-- A descent that goes round in circles does not end: every round would have to take fewer levels than
the one before. -/
theorem not_ends_of_circles (h : Tame enter same grows rank nodes) {ns : List N} {s : σ}
    (hcircles : Circles enter same ns s) : ¬ Ends enter ns s := by
  obtain ⟨first, m, t, t', hfirst, hdown, hround, hsame⟩ := hcircles
  have hnever (d : Nat) : ¬ (within enter d m t).isSome := by
    induction d using Nat.strongRecOn with
    | ind d ih =>
      intro hd
      obtain ⟨d', hd', hsome⟩ := exists_lt_of_transGen hround hd
      exact ih d' hd' (h.isSome_congr (h.equiv.symm hsame) hsome)
  rintro ⟨d, hd⟩
  have hsome := isSome_within_of_comesTo hfirst hd
  rcases reflTransGen_iff_eq_or_transGen.mp hdown with rfl | hdown
  · exact hnever d hsome
  · obtain ⟨d', -, hd'⟩ := exists_lt_of_transGen hdown hsome
    exact hnever d' hd'

/-- The way from the start of a descent down to a node, as far as nothing has grown: its nodes were entered
above that node, in states that look the same. -/
def IsPath (enter : N → Attempt σ (List N)) (same : σ → σ → Prop) (start : N × σ) (path : List N)
    (n : N) (s : σ) : Prop :=
  ∀ p ∈ path, ∃ t, ReflTransGen (Below enter) start (p, t) ∧ TransGen (Below enter) (p, t) (n, s) ∧ same t s

/-- **A way down that is too long goes round in circles.** The path holds the nodes met since the state last
grew. Each level makes it longer, or the rank smaller. -/
theorem exists_round (h : Tame enter same grows rank nodes) {start : N × σ} (d : Nat)
    {n : N} {s : σ} (path : List N) (hstart : ReflTransGen (Below enter) start (n, s))
    (hnone : within enter d n s = none) (hnodup : path.Nodup) (hnodes : path ⊆ nodes)
    (hpath : IsPath enter same start path n s)
    (hd : nodes.length - path.length + nodes.length * rank s < d) :
    ∃ m t t', ReflTransGen (Below enter) start (m, t) ∧ TransGen (Below enter) (m, t) (m, t') ∧
      same t t' := by
  induction d generalizing n s path with
  | zero => omega
  | succ d ih =>
    by_cases hmem : n ∈ path
    · obtain ⟨t, hdown, hround, hsame⟩ := hpath n hmem
      exact ⟨n, t, s, hdown, hround, hsame⟩
    obtain ⟨⟨m, t⟩, hbelow, hnone'⟩ := exists_below hnone
    have hn : n ∈ nodes := by
      obtain ⟨_, u, henter, before, after, -, rfl, -⟩ := hbelow
      exact h.mem_nodes henter (by simp)
    have hnodup' : (n :: path).Nodup := List.nodup_cons.mpr ⟨hmem, hnodup⟩
    have hnodes' : n :: path ⊆ nodes := List.cons_subset.mpr ⟨hn, hnodes⟩
    have hlength : path.length + 1 ≤ nodes.length := (List.subperm_of_subset hnodup' hnodes').length_le
    have hgrows : grows s t := h.below_grows hbelow
    have hle : rank t ≤ rank s := h.rank_le hgrows
    rcases Nat.eq_or_lt_of_le hle with hrank | hrank
    · have hsame := h.same_of_rank_eq hgrows hrank
      refine ih (n :: path) (hstart.tail hbelow) hnone' hnodup' hnodes' ?_ ?_
      · intro p hp
        rcases List.mem_cons.mp hp with rfl | hp
        · exact ⟨s, hstart, .single hbelow, hsame⟩
        · obtain ⟨u, hdown, hround, hsame'⟩ := hpath p hp
          exact ⟨u, hdown, hround.tail hbelow, h.equiv.trans hsame' hsame⟩
      · rw [hrank, List.length_cons]
        omega
    · refine ih [] (hstart.tail hbelow) hnone' List.nodup_nil (List.nil_subset _) (by simp [IsPath]) ?_
      have hmul : nodes.length * (rank t + 1) ≤ nodes.length * rank s := Nat.mul_le_mul_left _ hrank
      rw [Nat.mul_add, Nat.mul_one] at hmul
      rw [List.length_nil]
      omega

theorem circles_of_runAll_eq_none (h : Tame enter same grows rank nodes) {ns : List N} {s : σ} {d : Nat}
    (hd : nodes.length * (rank s + 1) < d) (hnone : runAll (within enter d) ns s = none) :
    Circles enter same ns s := by
  obtain ⟨⟨n, t⟩, hcomes, hn⟩ := exists_comesTo hnone
  have hle : rank t ≤ rank s := h.rank_le (h.comesTo_grows hcomes)
  have henough : nodes.length - 0 + nodes.length * rank t < d := by
    have hmul : nodes.length * rank t ≤ nodes.length * rank s := Nat.mul_le_mul_left _ hle
    rw [Nat.mul_add, Nat.mul_one] at hd
    omega
  obtain ⟨m, v, v', hdown, hround, hsame⟩ := h.exists_round d [] .refl hn List.nodup_nil
    (List.nil_subset _) (by simp [IsPath]) henough
  exact ⟨(n, t), m, v, v', hcomes, hdown, hround, hsame⟩

/-- **A descent that ends does so within a number of levels that is known beforehand.** -/
theorem isSome_runAll (h : Tame enter same grows rank nodes) {ns : List N} {s : σ} {d : Nat}
    (hd : nodes.length * (rank s + 1) < d) (hends : Ends enter ns s) :
    (runAll (within enter d) ns s).isSome := by
  by_contra hnone
  rw [Option.not_isSome_iff_eq_none] at hnone
  exact h.not_ends_of_circles (h.circles_of_runAll_eq_none hd hnone) hends

/-- **A descent ends if and only if it does not go round in circles.** -/
theorem ends_iff (h : Tame enter same grows rank nodes) {ns : List N} {s : σ} :
    Ends enter ns s ↔ ¬ Circles enter same ns s := by
  refine ⟨fun hends hcircles => h.not_ends_of_circles hcircles hends, fun hnot => ?_⟩
  by_contra hends
  refine hnot (h.circles_of_runAll_eq_none (Nat.lt_succ_self _) ?_)
  exact Option.not_isSome_iff_eq_none.mp fun hsome => hends ⟨_, hsome⟩

end Tame

end GirDoc.Descent
