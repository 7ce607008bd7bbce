import GirDoc.Text.Utf8

/-!
# Reading and writing UTF-8

Decoding accepts exactly the bytes that encoding writes: `decode?_eq_some_iff`. One character at a time,
`next?` reads a character off the front exactly if its bytes stand there.

A byte below 0x80 is always a character of its own, so a text that is cut at such a byte is cut between
characters: `exists_encode_of_append_cons`. A text that loses its last byte is a text still exactly if that byte is
such a character: `exists_encode_dropLast_iff`.

The bytes of a character are sums of quotients and remainders of its code point, so all that is to be shown
of them is arithmetic of natural numbers.
-/

namespace GirDoc.Text.Utf8

/-! ## Code points -/

theorem toNat_ofNat_of_valid {n : Nat} (h : n < 0xD800 ∨ (0xDFFF < n ∧ n < 0x110000)) :
    (Char.ofNat n).val.toNat = n := by
  have hv : n.isValidChar := h
  rw [Char.ofNat, dif_pos hv]
  rfl

theorem charOf?_eq_some_iff {least n : Nat} {c : Char} :
    charOf? least n = some c ↔ least ≤ n ∧ c.val.toNat = n := by
  unfold charOf?
  split
  · next h =>
    simp only [Bool.and_eq_true, Bool.or_eq_true, decide_eq_true_eq] at h
    rw [Option.some.injEq]
    constructor
    · rintro rfl
      exact ⟨h.1, toNat_ofNat_of_valid h.2⟩
    · rintro ⟨-, rfl⟩
      exact Char.ofNat_toNat c
  · next h =>
    simp only [Bool.and_eq_true, Bool.or_eq_true, decide_eq_true_eq] at h
    constructor
    · intro hc
      cases hc
    · rintro ⟨hle, rfl⟩
      exact absurd ⟨hle, c.valid⟩ h

theorem continuation?_eq_some_iff {b : UInt8} {n : Nat} :
    continuation? b = some n ↔ b.toNat = 0x80 + n ∧ n < 0x40 := by
  unfold continuation?
  split
  · next h =>
    simp only [Bool.and_eq_true, decide_eq_true_eq] at h
    rw [Option.some.injEq]
    omega
  · next h =>
    simp only [Bool.and_eq_true, decide_eq_true_eq] at h
    constructor
    · intro hn
      cases hn
    · omega

theorem ofNat_eq_of_toNat {n : Nat} {b : UInt8} (h : b.toNat = n) : UInt8.ofNat n = b := by
  rw [← h, UInt8.ofNat_toNat]

/-! ## One character -/

/-- The bytes of a character by the length of its encoding. -/
theorem utf8EncodeChar_eq {c : Char} {bs : List UInt8} :
    String.utf8EncodeChar c = bs ↔
      (c.val.toNat < 0x80 ∧ ∃ a, bs = [a] ∧ a.toNat = c.val.toNat) ∨
      (0x80 ≤ c.val.toNat ∧ c.val.toNat < 0x800 ∧ ∃ a b, bs = [a, b] ∧
        a.toNat = 0xC0 + c.val.toNat / 64 ∧ b.toNat = 0x80 + c.val.toNat % 64) ∨
      (0x800 ≤ c.val.toNat ∧ c.val.toNat < 0x10000 ∧ ∃ a b d, bs = [a, b, d] ∧
        a.toNat = 0xE0 + c.val.toNat / 4096 ∧ b.toNat = 0x80 + c.val.toNat / 64 % 64 ∧
        d.toNat = 0x80 + c.val.toNat % 64) ∨
      (0x10000 ≤ c.val.toNat ∧ ∃ a b d e, bs = [a, b, d, e] ∧
        a.toNat = 0xF0 + c.val.toNat / 262144 ∧ b.toNat = 0x80 + c.val.toNat / 4096 % 64 ∧
        d.toNat = 0x80 + c.val.toNat / 64 % 64 ∧ e.toNat = 0x80 + c.val.toNat % 64) := by
  have hmax : c.val.toNat < 0x110000 := by
    rcases c.valid with h | h <;> omega
  generalize hv : c.val.toNat = v at hmax
  simp only [String.utf8EncodeChar, hv]
  constructor
  · rintro rfl
    split
    · exact Or.inl ⟨by omega, _, rfl, by simp; omega⟩
    · split
      · exact Or.inr (Or.inl ⟨by omega, by omega, _, _, rfl, by simp; omega, by simp; omega⟩)
      · split
        · exact Or.inr (Or.inr (Or.inl ⟨by omega, by omega, _, _, _, rfl, by simp; omega,
            by simp; omega, by simp; omega⟩))
        · exact Or.inr (Or.inr (Or.inr ⟨by omega, _, _, _, _, rfl, by simp; omega, by simp; omega,
            by simp; omega, by simp; omega⟩))
  · rintro (⟨h, a, rfl, ha⟩ | ⟨h, h', a, b, rfl, ha, hb⟩ | ⟨h, h', a, b, d, rfl, ha, hb, hd⟩ |
      ⟨h, a, b, d, e, rfl, ha, hb, hd, he⟩)
    · rw [if_pos (by omega), ofNat_eq_of_toNat ha]
    · rw [if_neg (by omega), if_pos (by omega), ofNat_eq_of_toNat (b := a) (by omega),
        ofNat_eq_of_toNat (b := b) (by omega)]
    · rw [if_neg (by omega), if_neg (by omega), if_pos (by omega),
        ofNat_eq_of_toNat (b := a) (by omega), ofNat_eq_of_toNat (b := b) (by omega),
        ofNat_eq_of_toNat (b := d) (by omega)]
    · rw [if_neg (by omega), if_neg (by omega), if_neg (by omega),
        ofNat_eq_of_toNat (b := a) (by omega), ofNat_eq_of_toNat (b := b) (by omega),
        ofNat_eq_of_toNat (b := d) (by omega), ofNat_eq_of_toNat (b := e) (by omega)]

theorem eq_append_of_next? {bs rest : List UInt8} {c : Char} (h : next? bs = some (c, rest)) :
    bs = String.utf8EncodeChar c ++ rest := by
  -- it is enough to name the bytes that were read
  suffices hread : ∃ front, bs = front ++ rest ∧ String.utf8EncodeChar c = front by
    obtain ⟨front, rfl, rfl⟩ := hread
    rfl
  cases bs with
  | nil => simp [next?] at h
  | cons a tail =>
    have ha : a.toNat < 256 := a.toNat_lt
    simp only [next?] at h
    split at h
    · next h1 =>
      simp only [Option.some.injEq, Prod.mk.injEq] at h
      obtain ⟨rfl, rfl⟩ := h
      refine ⟨[a], rfl, utf8EncodeChar_eq.mpr (Or.inl ?_)⟩
      rw [toNat_ofNat_of_valid (Or.inl (by omega))]
      exact ⟨h1, a, rfl, rfl⟩
    · split at h
      · next h1 =>
        simp only [Bool.and_eq_true, decide_eq_true_eq] at h1
        split at h
        · next b rest' =>
          simp only [Option.bind_eq_bind, Option.bind_eq_some_iff, Option.some.injEq,
            Prod.mk.injEq, continuation?_eq_some_iff, charOf?_eq_some_iff] at h
          obtain ⟨x, ⟨hb, hx⟩, _, ⟨hle, hc⟩, rfl, rfl⟩ := h
          exact ⟨[a, b], rfl, utf8EncodeChar_eq.mpr (Or.inr (Or.inl
            ⟨by omega, by omega, a, b, rfl, by omega, by omega⟩))⟩
        · cases h
      · split at h
        · next h1 =>
          simp only [Bool.and_eq_true, decide_eq_true_eq] at h1
          split at h
          · next b d rest' =>
            simp only [Option.bind_eq_bind, Option.bind_eq_some_iff, Option.some.injEq,
              Prod.mk.injEq, continuation?_eq_some_iff, charOf?_eq_some_iff] at h
            obtain ⟨x, ⟨hb, hx⟩, y, ⟨hd, hy⟩, _, ⟨hle, hc⟩, rfl, rfl⟩ := h
            exact ⟨[a, b, d], rfl, utf8EncodeChar_eq.mpr (Or.inr (Or.inr (Or.inl
              ⟨by omega, by omega, a, b, d, rfl, by omega, by omega, by omega⟩)))⟩
          · cases h
        · split at h
          · next h1 =>
            simp only [Bool.and_eq_true, decide_eq_true_eq] at h1
            split at h
            · next b d e rest' =>
              simp only [Option.bind_eq_bind, Option.bind_eq_some_iff, Option.some.injEq,
                Prod.mk.injEq, continuation?_eq_some_iff, charOf?_eq_some_iff] at h
              obtain ⟨x, ⟨hb, hx⟩, y, ⟨hd, hy⟩, z, ⟨he, hz⟩, _, ⟨hle, hc⟩, rfl, rfl⟩ := h
              exact ⟨[a, b, d, e], rfl, utf8EncodeChar_eq.mpr (Or.inr (Or.inr (Or.inr
                ⟨by omega, a, b, d, e, rfl, by omega, by omega, by omega, by omega⟩)))⟩
            · cases h
          · cases h

theorem next?_append (c : Char) (rest : List UInt8) :
    next? (String.utf8EncodeChar c ++ rest) = some (c, rest) := by
  have hmax : c.val.toNat < 0x110000 := by
    rcases c.valid with h | h <;> omega
  have cont {b : UInt8} {n : Nat} (hb : b.toNat = 0x80 + n) (hn : n < 0x40) :
      continuation? b = some n := continuation?_eq_some_iff.mpr ⟨hb, hn⟩
  rcases utf8EncodeChar_eq.mp (rfl : String.utf8EncodeChar c = _) with
    ⟨h, a, hbs, ha⟩ | ⟨h, h', a, b, hbs, ha, hb⟩ | ⟨h, h', a, b, d, hbs, ha, hb, hd⟩ |
      ⟨h, a, b, d, e, hbs, ha, hb, hd, he⟩
  · have h1 : a.toNat < 0x80 := by omega
    have hc : Char.ofNat a.toNat = c := by rw [ha]; exact Char.ofNat_toNat c
    simp only [hbs, List.cons_append, List.nil_append, next?, if_pos h1, hc]
  · have h1 : ¬ a.toNat < 0x80 := by omega
    have h2 : (0xC0 ≤ a.toNat && a.toNat < 0xE0) = true := by simp; omega
    have hc : charOf? 0x80 ((a.toNat - 0xC0) * 64 + c.val.toNat % 64) = some c :=
      charOf?_eq_some_iff.mpr ⟨by omega, by omega⟩
    simp only [hbs, List.cons_append, List.nil_append, next?, if_neg h1, if_pos h2,
      cont hb (Nat.mod_lt _ (by decide)), Option.bind_eq_bind, Option.bind_some, hc]
  · have h1 : ¬ a.toNat < 0x80 := by omega
    have h2 : ¬ (0xC0 ≤ a.toNat && a.toNat < 0xE0) = true := by simp; omega
    have h3 : (0xE0 ≤ a.toNat && a.toNat < 0xF0) = true := by simp; omega
    have hc : charOf? 0x800 (((a.toNat - 0xE0) * 64 + c.val.toNat / 64 % 64) * 64
        + c.val.toNat % 64) = some c := charOf?_eq_some_iff.mpr ⟨by omega, by omega⟩
    simp only [hbs, List.cons_append, List.nil_append, next?, if_neg h1, if_neg h2, if_pos h3,
      cont hb (Nat.mod_lt _ (by decide)), cont hd (Nat.mod_lt _ (by decide)), Option.bind_eq_bind,
      Option.bind_some, hc]
  · have h1 : ¬ a.toNat < 0x80 := by omega
    have h2 : ¬ (0xC0 ≤ a.toNat && a.toNat < 0xE0) = true := by simp; omega
    have h3 : ¬ (0xE0 ≤ a.toNat && a.toNat < 0xF0) = true := by simp; omega
    have h4 : (0xF0 ≤ a.toNat && a.toNat < 0xF8) = true := by simp; omega
    have hc : charOf? 0x10000 ((((a.toNat - 0xF0) * 64 + c.val.toNat / 4096 % 64) * 64
        + c.val.toNat / 64 % 64) * 64 + c.val.toNat % 64) = some c :=
      charOf?_eq_some_iff.mpr ⟨by omega, by omega⟩
    simp only [hbs, List.cons_append, List.nil_append, next?, if_neg h1, if_neg h2, if_neg h3,
      if_pos h4, cont hb (Nat.mod_lt _ (by decide)), cont hd (Nat.mod_lt _ (by decide)),
      cont he (Nat.mod_lt _ (by decide)), Option.bind_eq_bind, Option.bind_some, hc]

/-- **A character is read off the front exactly if its bytes stand there.** -/
theorem next?_eq_some_iff {bs rest : List UInt8} {c : Char} :
    next? bs = some (c, rest) ↔ bs = String.utf8EncodeChar c ++ rest :=
  ⟨eq_append_of_next?, fun h => h ▸ next?_append c rest⟩

/-! ## Texts -/

theorem decodeChars?_eq_some_iff {bs : List UInt8} {cs : List Char} :
    decodeChars? bs = some cs ↔ bs = cs.flatMap String.utf8EncodeChar := by
  fun_induction decodeChars? bs generalizing cs with
  | case1 =>
    cases cs with
    | nil => simp
    | cons c cs => simp [String.utf8EncodeChar_ne_nil]
  | case2 b tail h =>
    refine ⟨nofun, fun hbs => ?_⟩
    cases cs with
    | nil => simp at hbs
    | cons c cs =>
      rw [hbs, List.flatMap_cons, next?_append] at h
      cases h
  | case3 b tail c rest h ih =>
    have hbs := next?_eq_some_iff.mp h
    rw [Option.map_eq_some_iff]
    constructor
    · rintro ⟨cs', hcs', rfl⟩
      rw [hbs, ih.mp hcs', List.flatMap_cons]
    · intro hall
      cases cs with
      | nil => simp at hall
      | cons c' cs' =>
        rw [hall, List.flatMap_cons, next?_append, Option.some.injEq, Prod.mk.injEq] at h
        obtain ⟨rfl, rfl⟩ := h
        exact ⟨cs', ih.mpr rfl, rfl⟩

theorem toList_loop (bytes : ByteArray) (i : Nat) (r : List UInt8) :
    ByteArray.toList.loop bytes i r = r.reverse ++ bytes.data.toList.drop i := by
  fun_induction ByteArray.toList.loop bytes i r with
  | case1 i r h ih =>
    have hi : i < bytes.data.toList.length := h
    rw [ih, List.drop_eq_getElem_cons hi]
    simp [ByteArray.get!, h]
  | case2 i r h =>
    have hi : bytes.data.toList.length ≤ i := Nat.not_lt.mp h
    simp [List.drop_eq_nil_of_le hi]

theorem encode_ofList (cs : List Char) :
    encode (String.ofList cs) = cs.flatMap String.utf8EncodeChar := by
  rw [encode, String.toUTF8, String.toByteArray_ofList, List.utf8Encode, ByteArray.toList, toList_loop]
  simp

theorem encode_eq_flatMap (s : String) : encode s = s.toList.flatMap String.utf8EncodeChar := by
  rw [← encode_ofList, String.ofList_toList]

@[simp] theorem encode_empty : encode "" = [] := encode_ofList []

@[simp] theorem encode_append (s t : String) : encode (s ++ t) = encode s ++ encode t := by
  simp only [encode_eq_flatMap, String.toList_append, List.flatMap_append]

theorem encode_join (texts : List String) : encode (String.join texts) = texts.flatMap encode := by
  induction texts with
  | nil => exact encode_empty
  | cons text rest ih => rw [String.join_cons, encode_append, ih, List.flatMap_cons]

/-- **Bytes spell a text exactly if they are the bytes of that text.** -/
theorem decode?_eq_some_iff {bs : List UInt8} {s : String} :
    decode? bs = some s ↔ bs = encode s := by
  rw [decode?, Option.map_eq_some_iff]
  constructor
  · rintro ⟨cs, hcs, rfl⟩
    rw [encode_ofList, decodeChars?_eq_some_iff.mp hcs]
  · intro h
    refine ⟨s.toList, decodeChars?_eq_some_iff.mpr ?_, String.ofList_toList⟩
    rw [h, ← encode_ofList, String.ofList_toList]

/-! ## Bytes that are characters -/

/-- A byte below 0x80 is a character of its own. -/
theorem utf8EncodeChar_of_mem {c : Char} {b : UInt8} (hb : b.toNat < 0x80)
    (h : b ∈ String.utf8EncodeChar c) : String.utf8EncodeChar c = [b] := by
  rcases utf8EncodeChar_eq.mp (rfl : String.utf8EncodeChar c = _) with
    ⟨-, a, hbs, -⟩ | ⟨hc, -, a, d, hbs, ha, hd⟩ | ⟨hc, -, a, d, e, hbs, ha, hd, he⟩ |
      ⟨hc, a, d, e, f, hbs, ha, hd, he, hf⟩
  · rw [hbs, List.mem_singleton] at h
    rw [hbs, h]
  all_goals
    rw [hbs] at h
    simp only [List.mem_cons, List.not_mem_nil, or_false] at h
  · rcases h with rfl | rfl <;> omega
  · rcases h with rfl | rfl | rfl <;> omega
  · rcases h with rfl | rfl | rfl | rfl <;> omega

theorem count_utf8EncodeChar {b : UInt8} (hb : b.toNat < 0x80) (c : Char) :
    (String.utf8EncodeChar c).count b = if c.val.toNat = b.toNat then 1 else 0 := by
  by_cases hmem : b ∈ String.utf8EncodeChar c
  · have hall := utf8EncodeChar_of_mem hb hmem
    have hc : c.val.toNat = b.toNat := by
      rcases utf8EncodeChar_eq.mp hall with ⟨-, a, h, ha⟩ | ⟨_, _, _, _, h, _⟩ | ⟨_, _, _, _, _, h, _⟩ |
        ⟨_, _, _, _, _, h, _⟩
      · rw [← ha, (List.cons.inj h).1]
      all_goals cases h
    rw [hall, List.count_singleton_self, if_pos hc]
  · rw [List.count_eq_zero.mpr hmem, if_neg]
    intro hc
    refine hmem ?_
    rw [utf8EncodeChar_eq.mpr (Or.inl ⟨hc ▸ hb, b, rfl, hc.symm⟩)]
    exact List.mem_singleton_self b

/-- **A text that is cut at a byte below 0x80 is cut between characters.** -/
theorem exists_encode_of_append_cons {s : String} {front back : List UInt8} {b : UInt8}
    (hb : b.toNat < 0x80) (h : encode s = front ++ b :: back) :
    ∃ before after, front = encode before ∧ back = encode after := by
  suffices hchars : ∀ (cs : List Char) (front : List UInt8),
      cs.flatMap String.utf8EncodeChar = front ++ b :: back →
      ∃ before after : List Char, front = before.flatMap String.utf8EncodeChar ∧
        back = after.flatMap String.utf8EncodeChar by
    obtain ⟨before, after, hfront, hback⟩ := hchars s.toList front (encode_eq_flatMap s ▸ h)
    exact ⟨String.ofList before, String.ofList after, by rw [encode_ofList, hfront],
      by rw [encode_ofList, hback]⟩
  intro cs
  induction cs with
  | nil =>
    intro front h
    simp at h
  | cons c cs ih =>
    intro front h
    rw [List.flatMap_cons, List.append_eq_append_iff] at h
    rcases h with ⟨rest, rfl, hrest⟩ | ⟨rest, hc, hrest⟩
    · -- the first character lies before the cut
      obtain ⟨before, after, rfl, hback⟩ := ih rest hrest
      exact ⟨c :: before, after, rfl, hback⟩
    · cases rest with
      | nil =>
        rw [List.append_nil] at hc
        obtain ⟨before, after, hfront, hback⟩ := ih [] hrest.symm
        refine ⟨c :: before, after, ?_, hback⟩
        rw [List.flatMap_cons, ← hfront, List.append_nil, hc]
      | cons d rest =>
        -- the byte of the cut is in the first character, so it is the first character
        rw [List.cons_append, List.cons.injEq] at hrest
        obtain ⟨rfl, rfl⟩ := hrest
        have hall := utf8EncodeChar_of_mem hb (by rw [hc]; simp)
        rw [hall, List.singleton_eq_append_iff] at hc
        rcases hc with ⟨rfl, hrest⟩ | ⟨-, hrest⟩
        · rw [List.cons.injEq] at hrest
          obtain ⟨-, rfl⟩ := hrest
          exact ⟨[], cs, rfl, rfl⟩
        · cases hrest

/-! ## The last byte -/

/-- What follows the bytes of a text in those of another is a text. -/
theorem exists_encode_of_append {s front : String} {back : List UInt8} (h : encode s = encode front ++ back) :
    ∃ after, back = encode after := by
  suffices hchars : ∀ cs front : List Char,
      cs.flatMap String.utf8EncodeChar = front.flatMap String.utf8EncodeChar ++ back →
      ∃ after : List Char, back = after.flatMap String.utf8EncodeChar by
    rw [encode_eq_flatMap, encode_eq_flatMap] at h
    obtain ⟨after, hafter⟩ := hchars s.toList front.toList h
    exact ⟨String.ofList after, by rw [encode_ofList, hafter]⟩
  intro cs front h
  induction front generalizing cs with
  | nil => exact ⟨cs, h.symm⟩
  | cons c front ih =>
    rw [List.flatMap_cons, List.append_assoc] at h
    cases cs with
    | nil => simp [String.utf8EncodeChar_ne_nil] at h
    | cons d cs =>
      -- both begin with the same character
      have hnext := next?_append d (cs.flatMap String.utf8EncodeChar)
      rw [← List.flatMap_cons, h, next?_append, Option.some.injEq, Prod.mk.injEq] at hnext
      exact ih cs hnext.2.symm

/-- One byte is a text only if it is a character. -/
theorem lt_of_encode_eq_singleton {s : String} {b : UInt8} (h : encode s = [b]) : b.toNat < 0x80 := by
  rw [encode_eq_flatMap] at h
  cases hs : s.toList with
  | nil => simp [hs] at h
  | cons c cs =>
    rw [hs, List.flatMap_cons] at h
    have hc : String.utf8EncodeChar c = [b] := by
      rcases List.append_eq_singleton_iff.mp h with ⟨hnil, -⟩ | ⟨hc, -⟩
      · exact absurd hnil String.utf8EncodeChar_ne_nil
      · exact hc
    rcases utf8EncodeChar_eq.mp hc with ⟨hlt, a, h, ha⟩ | ⟨_, _, _, _, h, _⟩ | ⟨_, _, _, _, _, h, _⟩ |
      ⟨_, _, _, _, _, h, _⟩
    · rw [(List.cons.inj h).1]
      omega
    all_goals cases h

/-- **All but the last byte of a text is a text exactly if that byte is a character.** -/
theorem exists_encode_dropLast_iff {s : String} {b : UInt8} (h : (encode s).getLast? = some b) :
    (∃ front, (encode s).dropLast = encode front) ↔ b.toNat < 0x80 := by
  obtain ⟨bytes, hs⟩ := List.getLast?_eq_some_iff.mp h
  rw [hs, List.dropLast_concat]
  constructor
  · rintro ⟨front, hfront⟩
    rw [hfront] at hs
    obtain ⟨after, hafter⟩ := exists_encode_of_append hs
    exact lt_of_encode_eq_singleton hafter.symm
  · intro hb
    obtain ⟨front, -, hfront, -⟩ := exists_encode_of_append_cons hb hs
    exact ⟨front, hfront⟩

/-- The last byte of a text is a character exactly if its last character has one byte. -/
theorem lt_getLast?_iff {s : String} {c : Char} {b : UInt8} (hc : s.toList.getLast? = some c)
    (hb : (encode s).getLast? = some b) : b.toNat < 0x80 ↔ c.utf8Size = 1 := by
  obtain ⟨cs, hcs⟩ := List.getLast?_eq_some_iff.mp hc
  have hmem : b ∈ String.utf8EncodeChar c := by
    rw [encode_eq_flatMap, hcs, List.flatMap_append, List.flatMap_singleton, List.getLast?_append,
      List.getLast?_eq_some_getLast String.utf8EncodeChar_ne_nil, Option.some_or, Option.some.injEq] at hb
    exact hb ▸ List.getLast_mem String.utf8EncodeChar_ne_nil
  rw [← String.length_utf8EncodeChar]
  constructor
  · intro hlt
    rw [utf8EncodeChar_of_mem hlt hmem, List.length_singleton]
  · intro hlen
    obtain ⟨a, ha⟩ := List.length_eq_one_iff.mp hlen
    obtain rfl : b = a := by simpa [ha] using hmem
    refine lt_of_encode_eq_singleton (s := String.singleton c) ?_
    rw [encode_eq_flatMap]
    simpa using ha

end GirDoc.Text.Utf8
