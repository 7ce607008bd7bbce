import Mathlib.Algebra.Group.Nat.Even
import Mathlib.Data.List.DropRight
import Mathlib.Order.Bounds.Basic
import GirDoc.Proofs.Extract.Buffer

/-!
# Where comments and definitions begin and end

What the readers of `Extract` cut off, said without them.

* `directiveBody?` takes the longest word of the form `#`, blanks, `define`, blanks.
* `commentBody` cuts at the first closing mark, or keeps all but the last byte.
* `logicalLine` cuts at the first newline before which the run of backslashes and blanks holds an even
  number of backslashes.

The reader of a line carries one bit along. What that bit says is a property of the bytes before it
(`isJoined`), so the induction on the bytes to come goes over all bytes that came before.
-/

namespace GirDoc.Extract

/-! ## Openings -/

/-- The words that open a definition. -/
def OpensDefinition (w : List UInt8) : Prop :=
  ∃ before after : List UInt8, (∀ b ∈ before, isSpaceOrTab b = true) ∧
    (∀ b ∈ after, isSpaceOrTab b = true) ∧ w = 35 :: before ++ defineWord ++ after

theorem after?_eq_some_iff {w bs rest : List UInt8} :
    after? w bs = some rest ↔ bs = w ++ rest := by
  induction w generalizing bs with
  | nil => simp [after?]
  | cons a w ih =>
    cases bs with
    | nil => simp [after?]
    | cons b bs =>
      rw [after?]
      split
      · next hab => simp [hab, ih]
      · next hab => simp [Ne.symm hab]

theorem dropWhile_isSpaceOrTab_defineWord (before rest : List UInt8)
    (h : ∀ b ∈ before, isSpaceOrTab b = true) :
    (before ++ (defineWord ++ rest)).dropWhile isSpaceOrTab = defineWord ++ rest := by
  rw [List.dropWhile_append_of_pos h]
  simp [defineWord, isSpaceOrTab]

/-- What is read after a word that opens a definition: the blanks still to come belong to the opening. -/
theorem directiveBody?_append {w : List UInt8} (hw : OpensDefinition w) (rest : List UInt8) :
    directiveBody? (w ++ rest) = some (rest.dropWhile isSpaceOrTab) := by
  obtain ⟨before, after, hb, ha, rfl⟩ := hw
  have hword : after? defineWord (defineWord ++ (after ++ rest)) = some (after ++ rest) :=
    after?_eq_some_iff.mpr rfl
  simp only [directiveBody?, List.cons_append, List.append_assoc, if_pos,
    dropWhile_isSpaceOrTab_defineWord before _ hb, hword, Option.map_some,
    List.dropWhile_append_of_pos ha]

/-- **A definition opens with the longest word that can open one.** -/
theorem directiveBody?_eq_some {bs rest : List UInt8} (h : directiveBody? bs = some rest) :
    ∃ w, OpensDefinition w ∧ bs = w ++ rest ∧
      ∀ w', OpensDefinition w' → w' <+: bs → w'.length ≤ w.length := by
  cases bs with
  | nil => simp [directiveBody?] at h
  | cons b tail =>
    have h' := h
    rw [directiveBody?] at h
    split at h
    · next hb =>
      obtain ⟨mid, hmid, rfl⟩ := Option.map_eq_some_iff.mp h
      rw [after?_eq_some_iff] at hmid
      have hw : b :: tail = 35 :: tail.takeWhile isSpaceOrTab ++ defineWord
          ++ mid.takeWhile isSpaceOrTab ++ mid.dropWhile isSpaceOrTab := by
        rw [List.append_assoc, List.append_assoc, List.takeWhile_append_dropWhile, List.cons_append,
          ← hmid, List.takeWhile_append_dropWhile, hb]
      have hopen : OpensDefinition (35 :: tail.takeWhile isSpaceOrTab ++ defineWord
          ++ mid.takeWhile isSpaceOrTab) :=
        ⟨_, _, fun x hx => List.mem_takeWhile_imp hx, fun x hx => List.mem_takeWhile_imp hx, rfl⟩
      refine ⟨_, hopen, hw, ?_⟩
      rintro w' hw' ⟨rest', hrest'⟩
      -- both words leave a rest; that of the shorter one still has its blanks in front
      rw [← hrest', directiveBody?_append hw', Option.some.injEq] at h'
      have hlen := length_dropWhile_le isSpaceOrTab rest'
      have htotal := congrArg List.length (hrest'.trans hw)
      rw [h'] at hlen
      simp only [List.length_append] at htotal
      simp only [List.length_append] at htotal ⊢
      omega
    · simp at h

theorem directiveBody?_eq_none {bs : List UInt8} (h : directiveBody? bs = none) {w : List UInt8}
    (hw : OpensDefinition w) : ¬ w <+: bs := by
  rintro ⟨rest, rfl⟩
  rw [directiveBody?_append hw] at h
  simp at h

/-! ## Comments -/

/-- A comment is cut at its first closing mark; without one it goes on to the last byte, which is lost. -/
theorem commentBody_cases (bs : List UInt8) :
    (∃ e, IsLeast {e | [star, slash] <+: bs.drop e} e ∧
        (commentBody bs).body = bs.take e ∧ (commentBody bs).rest = bs.drop (e + 2)) ∨
      ((∀ e, ¬ [star, slash] <+: bs.drop e) ∧
        (commentBody bs).body = bs.take (bs.length - 1) ∧ (commentBody bs).rest = []) := by
  fun_induction commentBody bs with
  | case1 => simp
  | case2 b =>
    refine Or.inr ⟨fun e he => ?_, rfl, rfl⟩
    have hlen := he.length_le
    simp only [List.length_drop, List.length_cons, List.length_nil] at hlen
    omega
  | case3 b c rest h =>
    simp only [Bool.and_eq_true, decide_eq_true_eq] at h
    obtain ⟨rfl, rfl⟩ := h
    exact Or.inl ⟨0, ⟨⟨rest, rfl⟩, fun _ _ => Nat.zero_le _⟩, rfl, rfl⟩
  | case4 b c rest h tail ih =>
    have hnot : ¬ [star, slash] <+: b :: c :: rest := by
      intro hp
      obtain ⟨t, ht⟩ := hp
      simp only [List.cons_append, List.nil_append, List.cons.injEq] at ht
      simp [ht.1, ht.2.1] at h
    rcases ih with ⟨e, he, hbody, hrest⟩ | ⟨hnone, hbody, hrest⟩
    · refine Or.inl ⟨e + 1, ⟨he.1, ?_⟩, ?_, hrest⟩
      · rintro (_ | k) hk
        · exact absurd hk hnot
        · exact Nat.succ_le_succ (he.2 hk)
      · exact congrArg (b :: ·) hbody
    · refine Or.inr ⟨?_, ?_, hrest⟩
      · rintro (_ | k) hk
        · exact hnot hk
        · exact hnone k hk
      · exact congrArg (b :: ·) hbody

/-! ## Logical lines -/

/-- Backslashes and blanks: they carry on whether the next newline is joined. -/
def carriesJoin (b : UInt8) : Bool := b == backslash || isSpaceOrTab b

/-- Whether a newline after these bytes is part of the line: the run of backslashes and blanks at their
end has an odd number of backslashes. -/
def isJoined (seen : List UInt8) : Bool :=
  (seen.rtakeWhile carriesJoin).count backslash % 2 == 1

/-- How one byte changes whether the next newline is joined. -/
theorem isJoined_concat (seen : List UInt8) (b : UInt8) :
    isJoined (seen ++ [b]) =
      if b = backslash then !isJoined seen
      else if isSpaceOrTab b then isJoined seen else false := by
  unfold isJoined
  rw [List.rtakeWhile_concat]
  by_cases hb : b = backslash
  · simp only [hb, carriesJoin, beq_self_eq_true, Bool.true_or, if_true, List.count_append,
      List.count_singleton_self]
    rcases Nat.mod_two_eq_zero_or_one ((seen.rtakeWhile carriesJoin).count backslash) with h | h <;>
      simp [Nat.add_mod, h]
  · by_cases hs : isSpaceOrTab b = true
    · simp [hb, hs, carriesJoin]
    · simp [hb, hs, carriesJoin]

/-- The newline that ends a line. -/
def EndsLine (seen bs : List UInt8) (k : Nat) : Prop :=
  bs[k]? = some newline ∧ isJoined (seen ++ bs.take k) = false

theorem endsLine_succ {seen rest : List UInt8} {b : UInt8} {k : Nat} :
    EndsLine seen (b :: rest) (k + 1) ↔ EndsLine (seen ++ [b]) rest k := by
  simp [EndsLine]

/-- **A line is cut at the first newline that is not joined to what follows.** -/
theorem logicalLine_cases (seen bs : List UInt8) :
    (∃ k, IsLeast {k | EndsLine seen bs k} k ∧
        (logicalLine (isJoined seen) bs).body = bs.take k ∧
        (logicalLine (isJoined seen) bs).rest = bs.drop (k + 1)) ∨
      ((∀ k, ¬ EndsLine seen bs k) ∧
        (logicalLine (isJoined seen) bs).body = bs ∧
        (logicalLine (isJoined seen) bs).rest = []) := by
  induction bs generalizing seen with
  | nil => simp [EndsLine, logicalLine]
  | cons b rest ih =>
    rw [logicalLine]
    split
    · next h =>
      simp only [Bool.and_eq_true, decide_eq_true_eq, Bool.not_eq_true'] at h
      exact Or.inl ⟨0, ⟨by simp [EndsLine, h.1, h.2], fun _ _ => Nat.zero_le _⟩, rfl, rfl⟩
    · next h =>
      have hnot : ¬ EndsLine seen (b :: rest) 0 := by
        simpa [EndsLine] using h
      rw [← isJoined_concat]
      rcases ih (seen ++ [b]) with ⟨k, hk, hbody, hrest⟩ | ⟨hnone, hbody, hrest⟩
      · refine Or.inl ⟨k + 1, ⟨endsLine_succ.mpr hk.1, ?_⟩, ?_, hrest⟩
        · rintro (_ | j) hj
          · exact absurd hj hnot
          · exact Nat.succ_le_succ (hk.2 (endsLine_succ.mp hj))
        · exact congrArg (b :: ·) hbody
      · refine Or.inr ⟨?_, congrArg (b :: ·) hbody, hrest⟩
        rintro (_ | j) hj
        · exact hnot hj
        · exact hnone j (endsLine_succ.mp hj)

end GirDoc.Extract
