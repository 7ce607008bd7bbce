import Mathlib.Algebra.Ring.Parity
import Mathlib.Data.Nat.Find
import GirDoc.Proofs.Extract.Spelling

/-!
# Definitions and the lines of C

C joins a line to the next one if its last byte other than blanks is a backslash, whatever stands before that
backslash. `LineStops` says where the line of C that a definition stands on ends.

A reader of definitions counts backslashes instead, and does not look at the first byte of a body. So a newline that
C does not join ends a definition (`endsDefinition_of_endsJoinedLine`), but one that C joins can end it as well. A
definition is never longer than its line, and it is the whole line exactly if an odd number of backslashes stands
before each newline in it (`IsSpan.stop_eq_iff`). The main statement is `definitions_whole_iff`.
-/

namespace GirDoc.Extract

open Text.Utf8

/-! ## First positions -/

/-- The first position with a property, the end of a source of `n` bytes if there is none. -/
def FirstOrEnd (P : Nat → Prop) (n t : Nat) : Prop := IsLeast {t | P t} t ∨ (∀ k, ¬ P k) ∧ t = n

section FirstOrEnd

variable {P Q : Nat → Prop} {n t t' : Nat}

theorem exists_firstOrEnd (P : Nat → Prop) (n : Nat) : ∃ t, FirstOrEnd P n t := by
  classical
  by_cases h : ∃ t, P t
  · exact ⟨Nat.find h, Or.inl ⟨Nat.find_spec h, fun _ hk => Nat.find_min' h hk⟩⟩
  · exact ⟨n, Or.inr ⟨fun k hk => h ⟨k, hk⟩, rfl⟩⟩

theorem firstOrEnd_of_forall (h : P t) (hfirst : ∀ k < t, ¬ P k) : FirstOrEnd P n t :=
  Or.inl ⟨h, fun k hk => Nat.le_of_not_lt fun hlt => hfirst k hlt hk⟩

theorem FirstOrEnd.not_of_lt (h : FirstOrEnd P n t) {k : Nat} (hk : k < t) : ¬ P k := by
  rcases h with h | ⟨hnone, -⟩
  · exact fun hp => Nat.not_le_of_lt hk (h.2 hp)
  · exact hnone k

/-- What has a property less often comes first later. -/
theorem FirstOrEnd.le (h : FirstOrEnd P n t) (h' : FirstOrEnd Q n t') (himp : ∀ k, P k → Q k)
    (hlt : ∀ k, Q k → k < n) : t' ≤ t := by
  rcases h with h | ⟨-, rfl⟩
  · exact Nat.le_of_not_lt fun hk => h'.not_of_lt hk (himp t h.1)
  · rcases h' with h' | ⟨-, rfl⟩
    · exact Nat.le_of_lt (hlt t' h'.1)
    · exact Nat.le_refl t'

/-- Two first positions are the same exactly if nothing before the later one has the property of the earlier one. -/
theorem FirstOrEnd.eq_iff (h : FirstOrEnd P n t) (h' : FirstOrEnd Q n t') (himp : ∀ k, P k → Q k)
    (hlt : ∀ k, Q k → k < n) : t' = t ↔ ∀ k < t, ¬ Q k := by
  constructor
  · rintro rfl k hk
    exact h'.not_of_lt hk
  · intro hnone
    refine Nat.le_antisymm (h.le h' himp hlt) (Nat.le_of_not_lt fun hlater => ?_)
    rcases h' with h' | ⟨-, rfl⟩
    · exact hnone t' hlater h'.1
    · -- the later position cannot be past the end
      rcases h with h | ⟨-, rfl⟩
      · exact Nat.lt_asymm hlater (hlt t (himp t h.1))
      · exact Nat.lt_irrefl _ hlater

end FirstOrEnd

/-! ## Lines of C -/

variable {s : List UInt8} {r t : Nat} {span : Span}

/-- C joins a newline at `t` to what follows: the last byte before it other than blanks is a backslash. If that byte
is the end of the line before, nothing else stands on this line. -/
def IsJoinedInC (s : List UInt8) (t : Nat) : Prop := ((s.take t).rdropWhile isSpaceOrTab).getLast? = some backslash

/-- The newline at `t` ends the line of C that goes on from `r`. -/
def EndsJoinedLine (s : List UInt8) (r t : Nat) : Prop := r ≤ t ∧ s[t]? = some newline ∧ ¬ IsJoinedInC s t

instance (s : List UInt8) (r t : Nat) : Decidable (EndsDefinition s r t) :=
  inferInstanceAs (Decidable (_ ∧ _ ∧ _))

instance (s : List UInt8) (r t : Nat) : Decidable (EndsJoinedLine s r t) :=
  inferInstanceAs (Decidable (_ ∧ _ ∧ ¬ _ = _))

/-- The line of C that goes on from `r` ends at `t`, the end of the source if no newline ends it. -/
def LineStops (s : List UInt8) (r t : Nat) : Prop := FirstOrEnd (EndsJoinedLine s r) s.length t

/-- The number of backslashes before `t` in a definition whose body starts at `r`: those in the run of backslashes and
blanks, the first byte of the body apart. -/
def backslashesBefore (s : List UInt8) (r t : Nat) : Nat :=
  ((s.extract (r + 1) t).rtakeWhile carriesJoin).count backslash

/-- Where a run of backslashes and blanks has a backslash, the last byte other than blanks is one. -/
theorem getLast?_rdropWhile_of_count_pos (seen bs : List UInt8)
    (h : 0 < (bs.rtakeWhile carriesJoin).count backslash) :
    ((seen ++ bs).rdropWhile isSpaceOrTab).getLast? = some backslash := by
  induction bs using List.reverseRecOn with
  | nil => cases h
  | append_singleton bs b ih =>
    rw [List.rtakeWhile_concat] at h
    rw [← List.append_assoc, List.rdropWhile_concat]
    by_cases hblank : isSpaceOrTab b = true
    · have hb : b ≠ backslash := by
        rintro rfl
        exact absurd hblank (by decide)
      rw [if_pos (by simp [carriesJoin, hblank]), List.count_append, List.count_singleton,
        if_neg (by simpa using hb)] at h
      rw [if_pos hblank]
      exact ih h
    · rw [if_neg hblank, List.getLast?_append]
      by_cases hb : b = backslash
      · rw [hb]
        rfl
      · rw [if_neg (by simp [carriesJoin, hblank, hb])] at h
        cases h

/-- **A newline that C does not join ends a definition.** -/
theorem endsDefinition_of_endsJoinedLine (hr : s[r]? ≠ some newline) (h : EndsJoinedLine s r t) :
    EndsDefinition s r t := by
  obtain ⟨hle, hnewline, hnot⟩ := h
  have hlt : r < t := by
    refine Nat.lt_of_le_of_ne hle ?_
    rintro rfl
    exact hr hnewline
  refine ⟨hlt, hnewline, ?_⟩
  have htake : s.take t = s.take (r + 1) ++ s.extract (r + 1) t := by
    rw [List.extract_eq_take_drop, ← List.take_add]
    congr 1
    omega
  have hnone : backslashesBefore s r t = 0 := by
    by_contra hcount
    refine hnot ?_
    rw [IsJoinedInC, htake]
    exact getLast?_rdropWhile_of_count_pos _ _ (Nat.pos_of_ne_zero hcount)
  show Even (backslashesBefore s r t)
  rw [hnone]
  exact Even.zero

theorem lt_length_of_endsDefinition (h : EndsDefinition s r t) : t < s.length :=
  (List.getElem?_eq_some_iff.mp h.2.1).1

/-! ## Definitions -/

/-- **A definition is the whole line exactly if an odd number of backslashes stands before each newline in it**, and
otherwise it is a part of the line. -/
theorem IsSpan.stop_eq_iff (h : IsSpan s span) (hkind : span.kind = .definition)
    (hbody : s[span.body]? ≠ some newline) (ht : LineStops s span.body t) :
    span.stop ≤ t ∧ (span.stop = t ↔
      ∀ k, span.body < k → k < t → s[k]? = some newline → Odd (backslashesBefore s span.body k)) := by
  cases h with
  | closed => cases hkind
  | unclosed => cases hkind
  | @definition p r e opening stop =>
    have himp : ∀ k, EndsJoinedLine s r k → EndsDefinition s r k :=
      fun _ hk => endsDefinition_of_endsJoinedLine hbody hk
    have hstop : FirstOrEnd (EndsDefinition s r) s.length e := stop
    refine ⟨ht.le hstop himp fun _ => lt_length_of_endsDefinition, ?_⟩
    refine (ht.eq_iff hstop himp fun _ => lt_length_of_endsDefinition).trans ?_
    constructor
    · intro hnone k hk hlt hnewline
      rw [← Nat.not_even_iff_odd]
      exact fun heven => hnone k hlt ⟨hk, hnewline, heven⟩
    · rintro hodd k hlt ⟨hk, hnewline, heven⟩
      exact Nat.not_even_iff_odd.mpr (hodd k hk hlt hnewline) heven

/-- **Every definition is a part of its line of C, and the whole of it exactly if an odd number of backslashes stands
before each newline in the line.** Backslashes are counted back over blanks, and the first byte of the body does not
count. -/
theorem definitions_whole_iff (text : String) {found : List (Item String)} (hfound : extract text = some found) :
    ∃ spans, Spans (encode (beforeNul text)) 0 spans ∧
      List.Forall₂ (fun span item =>
        span.item (encode (beforeNul text)) = item.encode ∧
        (span.kind = .definition → (encode (beforeNul text))[span.body]? ≠ some newline →
          ∃ t, LineStops (encode (beforeNul text)) span.body t ∧ span.stop ≤ t ∧
            (span.stop = t ↔ ∀ k, span.body < k → k < t → (encode (beforeNul text))[k]? = some newline →
              Odd (backslashesBefore (encode (beforeNul text)) span.body k))))
        (spans.filter (·.isKept (encode (beforeNul text)))) found := by
  obtain ⟨spans, hspans, -⟩ := exists_spans (encode (beforeNul text)) 1 _ 0 rfl (by simp [newlines])
  refine ⟨spans, hspans, ?_⟩
  rw [extract_eq_some_iff, items_eq_of_spans (encode_beforeNul text).symm hspans, ← List.forall₂_eq_eq_eq,
    List.forall₂_map_left_iff, List.forall₂_map_right_iff] at hfound
  refine ((List.forall₂_and_left _ _).mpr ⟨fun _ hspan => hspan, hfound⟩).imp ?_
  rintro span item ⟨hspan, hitem⟩
  refine ⟨hitem, fun hkind hbody => ?_⟩
  obtain ⟨t, ht⟩ := exists_firstOrEnd (EndsJoinedLine (encode (beforeNul text)) span.body) _
  exact ⟨t, ht, (hspans.isSpan span (List.mem_filter.mp hspan).1).stop_eq_iff hkind hbody ht⟩

/-- A line with three backslashes at its end, and one more line. -/
def threeBackslashes : String := "#define A \\ \\\\\n b\n"

/-- The definition is the whole of both lines. -/
theorem definitions_whole_threeBackslashes :
    ∃ found, extract threeBackslashes = some found ∧ found.map Item.text = ["#define A \\ \\\\\n b"] ∧
      ∃ spans, Spans (encode (beforeNul threeBackslashes)) 0 spans ∧
        List.Forall₂ (fun span item =>
          span.item (encode (beforeNul threeBackslashes)) = item.encode ∧
          (span.kind = .definition → (encode (beforeNul threeBackslashes))[span.body]? ≠ some newline →
            ∃ t, LineStops (encode (beforeNul threeBackslashes)) span.body t ∧ span.stop ≤ t ∧
              (span.stop = t ↔ ∀ k, span.body < k → k < t →
                (encode (beforeNul threeBackslashes))[k]? = some newline →
                  Odd (backslashesBefore (encode (beforeNul threeBackslashes)) span.body k))))
          (spans.filter (·.isKept (encode (beforeNul threeBackslashes)))) found := by
  have hextract : (extract threeBackslashes).map (·.map Item.text) = some ["#define A \\ \\\\\n b"] := by
    decide +kernel
  obtain ⟨found, hfound, htexts⟩ := Option.map_eq_some_iff.mp hextract
  exact ⟨found, hfound, htexts, definitions_whole_iff _ hfound⟩

/-! ## Definitions that are cut short -/

/-- A definition from where it opens, where its body starts and where the body ends. -/
theorem isSpan_of_endsDefinition {p : Nat} (hopens : directiveBody? (s.drop p) = some (s.drop r))
    (hends : EndsDefinition s r t) (hfirst : ∀ k < t, ¬ EndsDefinition s r k) :
    IsSpan s ⟨.definition, p, r, t, t + 1⟩ := by
  obtain ⟨r', hgreatest, hdrop⟩ := exists_isGreatest_matchesDefinition rfl hopens
  have hlength := congrArg List.length hdrop
  have hlt := lt_length_of_endsDefinition hends
  have hle := hends.1
  simp only [List.length_drop] at hlength
  obtain rfl : r' = r := by omega
  exact .definition hgreatest (firstOrEnd_of_forall hends hfirst)

/-- The first definition has a body that begins with a backslash, the second one two backslashes at the end of a
line. -/
def cutShort : String := "#define \\\nA 1\n#define B 2 \\\\\n+ 3\n"

/-- **Definitions that are not the whole of their lines.** C joins both lines to those after them. -/
theorem definitions_cutShort :
    (extract cutShort).map (·.map Item.text) = some ["#define \\", "#define B 2 \\\\"] ∧
    IsSpan (encode cutShort) ⟨.definition, 0, 8, 9, 10⟩ ∧ LineStops (encode cutShort) 8 13 ∧
    IsSpan (encode cutShort) ⟨.definition, 14, 22, 28, 29⟩ ∧ LineStops (encode cutShort) 22 32 := by
  obtain ⟨hextract, hopens, hstop, hline, hopens', hstop', hline'⟩ :
      (extract cutShort).map (·.map Item.text) = some ["#define \\", "#define B 2 \\\\"] ∧
      directiveBody? ((encode cutShort).drop 0) = some ((encode cutShort).drop 8) ∧
      (EndsDefinition (encode cutShort) 8 9 ∧ ∀ k < 9, ¬ EndsDefinition (encode cutShort) 8 k) ∧
      (EndsJoinedLine (encode cutShort) 8 13 ∧ ∀ k < 13, ¬ EndsJoinedLine (encode cutShort) 8 k) ∧
      directiveBody? ((encode cutShort).drop 14) = some ((encode cutShort).drop 22) ∧
      (EndsDefinition (encode cutShort) 22 28 ∧ ∀ k < 28, ¬ EndsDefinition (encode cutShort) 22 k) ∧
      (EndsJoinedLine (encode cutShort) 22 32 ∧ ∀ k < 32, ¬ EndsJoinedLine (encode cutShort) 22 k) := by
    decide +kernel
  exact ⟨hextract, isSpan_of_endsDefinition hopens hstop.1 hstop.2, firstOrEnd_of_forall hline.1 hline.2,
    isSpan_of_endsDefinition hopens' hstop'.1 hstop'.2, firstOrEnd_of_forall hline'.1 hline'.2⟩

end GirDoc.Extract
