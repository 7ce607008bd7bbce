/-!
# UTF-8

Text as bytes and bytes as text. Decoding is strict: overlong forms, surrogates and values past the
last code point are refused.
-/

namespace GirDoc.Text.Utf8

/-- A byte that continues a character, with its six payload bits. -/
def continuation? (b : UInt8) : Option Nat :=
  if 0x80 ≤ b.toNat && b.toNat ≤ 0xBF then some (b.toNat - 0x80) else none

/-- A character from a code point that needs at least `least`; surrogates are no characters. -/
def charOf? (least n : Nat) : Option Char :=
  if least ≤ n && (n < 0xD800 || (0xDFFF < n && n < 0x110000)) then some (Char.ofNat n) else none

/-- Reads one character from the front. -/
def next? : List UInt8 → Option (Char × List UInt8)
  | [] => none
  | a :: rest =>
    let n := a.toNat
    if n < 0x80 then some (Char.ofNat n, rest)
    else if 0xC0 ≤ n && n < 0xE0 then
      match rest with
      | b :: rest => do
        let x ← continuation? b
        let c ← charOf? 0x80 ((n - 0xC0) * 64 + x)
        some (c, rest)
      | _ => none
    else if 0xE0 ≤ n && n < 0xF0 then
      match rest with
      | b :: c :: rest => do
        let x ← continuation? b
        let y ← continuation? c
        let ch ← charOf? 0x800 (((n - 0xE0) * 64 + x) * 64 + y)
        some (ch, rest)
      | _ => none
    else if 0xF0 ≤ n && n < 0xF8 then
      match rest with
      | b :: c :: d :: rest => do
        let x ← continuation? b
        let y ← continuation? c
        let z ← continuation? d
        let ch ← charOf? 0x10000 ((((n - 0xF0) * 64 + x) * 64 + y) * 64 + z)
        some (ch, rest)
      | _ => none
    else none

/-- Reading a character consumes at least one byte. -/
theorem length_lt_of_next? {bs rest : List UInt8} {c : Char} (h : next? bs = some (c, rest)) :
    rest.length < bs.length := by
  cases bs with
  | nil => simp [next?] at h
  | cons a tail =>
    simp only [next?] at h
    split at h
    · simp only [Option.some.injEq, Prod.mk.injEq] at h
      simp [h.2]
    · split at h
      · split at h
        · simp only [Option.bind_eq_bind, Option.bind_eq_some_iff, Option.some.injEq,
            Prod.mk.injEq] at h
          obtain ⟨_, _, _, _, _, rfl⟩ := h
          simp only [List.length_cons]; omega
        · simp at h
      · split at h
        · split at h
          · simp only [Option.bind_eq_bind, Option.bind_eq_some_iff, Option.some.injEq,
              Prod.mk.injEq] at h
            obtain ⟨_, _, _, _, _, _, _, rfl⟩ := h
            simp only [List.length_cons]; omega
          · simp at h
        · split at h
          · split at h
            · simp only [Option.bind_eq_bind, Option.bind_eq_some_iff, Option.some.injEq,
                Prod.mk.injEq] at h
              obtain ⟨_, _, _, _, _, _, _, _, _, rfl⟩ := h
              simp only [List.length_cons]; omega
            · simp at h
          · simp at h

/-- Decodes bytes, or refuses them. -/
def decodeChars? (bs : List UInt8) : Option (List Char) :=
  match bs with
  | [] => some []
  | b :: tail =>
    match _h : next? (b :: tail) with
    | none => none
    | some (c, rest) => (decodeChars? rest).map (c :: ·)
termination_by bs.length
decreasing_by exact length_lt_of_next? _h

/-- The characters up to the first bytes that stand for none, and those bytes with all that follows. -/
def decodeStart (bs : List UInt8) : List Char × List UInt8 :=
  match _h : next? bs with
  | none => ([], bs)
  | some (c, rest) =>
    let (cs, more) := decodeStart rest
    (c :: cs, more)
termination_by bs.length
decreasing_by exact length_lt_of_next? _h

/-- Whether bytes are the start of a character: some bytes complete it. -/
def isBegun (bs : List UInt8) : Bool :=
  bs.isEmpty || (next? (bs ++ [0x80, 0x80, 0x80])).isSome || (next? (bs ++ [0xBF, 0xBF, 0xBF])).isSome

/-- The text that bytes spell, `none` if they spell none. -/
def decode? (bs : List UInt8) : Option String :=
  (decodeChars? bs).map String.ofList

/-- The bytes of a text. -/
def encode (s : String) : List UInt8 :=
  s.toUTF8.toList

end GirDoc.Text.Utf8
