/-!
# Packed data

Data packed by a mixture of two means: bytes that occur often are written with few bits, and stretches that
were there before are written as a length and a distance. The data come in blocks. A block is plain, or it is
written in two codes of bits, one for bytes and lengths and one for distances, which are either the fixed
codes or stand at the start of the block.

Data that end too soon are unpacked as far as they go.
-/

namespace GirDoc.Deflate

/-! ## Bits -/

/-- Why unpacking stops before the end of the data. -/
inductive Stop where
  /-- There are no more bits. -/
  | cut
  /-- The bits stand for nothing. -/
  | broken
  deriving Repr, DecidableEq

/-- Reading from bits. -/
abbrev Read := StateT (List Bool) (Except Stop)

/-- The bits of a byte, the lowest first. -/
def byteBits (b : UInt8) : List Bool := (List.range 8).map b.toNat.testBit

/-- The next bit. -/
def bit : Read Nat
  | [] => .error .cut
  | b :: rest => .ok (b.toNat, rest)

/-- A number of so many bits, the lowest first. -/
def number : Nat → Read Nat
  | 0 => return 0
  | n + 1 => do
    let low ← bit
    return low + 2 * (← number n)

/-! ## Codes -/

/-- The greatest length of a word of bits. -/
def maxLength : Nat := 15

/-- A code: how many words there are of each length from 1 on, and what the words stand for, in the order of
the words. -/
structure Code where
  counts : List Nat
  symbols : Array Nat
  deriving Repr

namespace Code

/-- The code in which symbols have words of the given lengths. A symbol with length 0 has no word. -/
def ofLengths (lengths : List Nat) : Code :=
  let sizes := (List.range maxLength).map (· + 1)
  { counts := sizes.map lengths.count
    symbols := (sizes.flatMap fun size =>
      (lengths.zipIdx.filter (·.1 = size)).map Prod.snd).toArray }

/-- How many words of the greatest length are free; `none` if there are more words than fit. -/
def free? (code : Code) : Option Nat :=
  code.counts.foldlM (fun free n => if n ≤ 2 * free then some (2 * free - n) else none) 1

/-- Whether every sequence of bits starts with a word. -/
def isComplete (code : Code) : Bool := code.free? = some 0

/-- Whether a code can stand for bytes or distances: it is complete, or has at most one word, of one bit. -/
def isUsable (code : Code) : Bool :=
  code.isComplete || code.symbols.size = 0 || code.symbols.size = 1 && code.counts.head? = some 1

/-- The place of the next word among all words. The words of one length are consecutive numbers, from `first`
on. -/
def place : List Nat → (word first before : Nat) → Read Nat
  | [], _, _, _ => throw .broken
  | n :: counts, word, first, before => do
    let word := 2 * word + (← bit)
    if word < first + n then return before + (word - first)
    else place counts word (2 * (first + n)) (before + n)

/-- What the next word stands for. -/
def symbol (code : Code) : Read Nat := do
  match code.symbols[← place code.counts 0 0 0]? with
  | some s => return s
  | none => throw .broken

end Code

/-- The fixed code for bytes and lengths. -/
def fixedLiterals : Code :=
  .ofLengths (List.replicate 144 8 ++ List.replicate 112 9 ++ List.replicate 24 7 ++ List.replicate 8 8)

/-- The fixed code for distances. -/
def fixedDistances : Code := .ofLengths (List.replicate 32 5)

/-! ## Codes in front of a block -/

/-- The order in which the lengths of the words for lengths are written. -/
def lengthOrder : List Nat := [16, 17, 18, 0, 8, 7, 9, 6, 10, 5, 11, 4, 12, 3, 13, 2, 14, 1, 15]

/-- Reads a list of lengths, `count` at the end, in a code for lengths and for repetitions. The lengths so far
are in reverse order. -/
def lengths (code : Code) (count : Nat) : Nat → List Nat → Read (List Nat)
  | 0, _ => throw .broken
  | fuel + 1, done => do
    if done.length = count then return done.reverse
    if count < done.length then throw .broken
    let s ← code.symbol
    if s < 16 then lengths code count fuel (s :: done)
    else
      let (last, least, bits) ← match s, done with
        | 16, last :: _ => pure (last, 3, 2)
        | 16, [] => throw .broken
        | 17, _ => pure (0, 3, 3)
        | _, _ => pure (0, 11, 7)
      let more := least + (← number bits)
      lengths code count fuel (List.replicate more last ++ done)

/-- The codes in front of a block. -/
def codes : Read (Code × Code) := do
  let literals := 257 + (← number 5)
  let distances := 1 + (← number 5)
  let given := 4 + (← number 4)
  if 286 < literals || 30 < distances then throw .broken
  let sizes ← (lengthOrder.take given).mapM fun s => do return (s, ← number 3)
  let forLengths := Code.ofLengths ((List.range 19).map fun s => (sizes.lookup s).getD 0)
  unless forLengths.isComplete do throw .broken
  let all ← lengths forLengths (literals + distances) (literals + distances + 1) []
  let forLiterals := Code.ofLengths (all.take literals)
  let forDistances := Code.ofLengths (all.drop literals)
  unless all[256]?.any (· ≠ 0) && forLiterals.isUsable && forDistances.isUsable do throw .broken
  return (forLiterals, forDistances)

/-! ## Blocks -/

/-- The least length and the number of further bits for each symbol of a length, from 257 on. -/
def lengthSteps : List (Nat × Nat) :=
  [(3, 0), (4, 0), (5, 0), (6, 0), (7, 0), (8, 0), (9, 0), (10, 0), (11, 1), (13, 1), (15, 1), (17, 1),
   (19, 2), (23, 2), (27, 2), (31, 2), (35, 3), (43, 3), (51, 3), (59, 3), (67, 4), (83, 4), (99, 4),
   (115, 4), (131, 5), (163, 5), (195, 5), (227, 5), (258, 0)]

/-- The least distance and the number of further bits for each symbol of a distance. -/
def distanceSteps : List (Nat × Nat) :=
  [(1, 0), (2, 0), (3, 0), (4, 0), (5, 1), (7, 1), (9, 2), (13, 2), (17, 3), (25, 3), (33, 4), (49, 4),
   (65, 5), (97, 5), (129, 6), (193, 6), (257, 7), (385, 7), (513, 8), (769, 8), (1025, 9), (1537, 9),
   (2049, 10), (3073, 10), (4097, 11), (6145, 11), (8193, 12), (12289, 12), (16385, 13), (24577, 13)]

/-- A number that is written in a step and further bits. -/
def stepped (steps : List (Nat × Nat)) (symbol : Nat) : Read Nat :=
  match steps[symbol]? with
  | some (least, bits) => do return least + (← number bits)
  | none => throw .broken

/-- What stands next in a block. -/
inductive Token where
  | byte (b : UInt8)
  /-- A stretch that was there before. -/
  | copy (length distance : Nat)
  | stop
  deriving Repr

/-- The next token of a block. -/
def token (literals distances : Code) : Read Token := do
  let s ← literals.symbol
  if s < 256 then return .byte s.toUInt8
  else if s = 256 then return .stop
  else
    let length ← stepped lengthSteps (s - 257)
    return .copy length (← stepped distanceSteps (← distances.symbol))

/-- Repeats a stretch. Where it is longer than its distance it repeats itself. -/
def copied (distance : Nat) : Nat → Array UInt8 → Array UInt8
  | 0, out => out
  | length + 1, out => copied distance length (out.push (out.getD (out.size - distance) 0))

/-- What came out, and the bits behind it unless the unpacking stopped. -/
structure Progress where
  out : Array UInt8
  rest : Except Stop (List Bool)

/-- Unpacks the tokens of a block. -/
def unpackTokens (literals distances : Code) : Nat → Array UInt8 → List Bool → Progress
  | 0, out, _ => ⟨out, .error .cut⟩
  | fuel + 1, out, bits =>
    match token literals distances bits with
    | .error e => ⟨out, .error e⟩
    | .ok (.byte b, rest) => unpackTokens literals distances fuel (out.push b) rest
    | .ok (.stop, rest) => ⟨out, .ok rest⟩
    | .ok (.copy length distance, rest) =>
      if out.size < distance then ⟨out, .error .broken⟩
      else unpackTokens literals distances fuel (copied distance length out) rest

/-- Takes over plain bytes. -/
def takeBytes : Nat → Array UInt8 → List Bool → Progress
  | 0, out, bits => ⟨out, .ok bits⟩
  | n + 1, out, bits =>
    match number 8 bits with
    | .error e => ⟨out, .error e⟩
    | .ok (b, rest) => takeBytes n (out.push b.toUInt8) rest

/-- Unpacks a plain block, which starts at the next byte. Its length is written twice. -/
def unpackPlain (out : Array UInt8) (bits : List Bool) : Progress :=
  let head : Read Nat := do
    let length ← number 16
    let complement ← number 16
    if length + complement = 0xFFFF then return length else throw .broken
  match head (bits.drop (bits.length % 8)) with
  | .error e => ⟨out, .error e⟩
  | .ok (length, rest) => takeBytes length out rest

/-- Unpacks a block of a kind. -/
def unpackBlock (kind : Nat) (out : Array UInt8) (bits : List Bool) : Progress :=
  match kind with
  | 0 => unpackPlain out bits
  | 1 => unpackTokens fixedLiterals fixedDistances bits.length out bits
  | 2 =>
    match codes bits with
    | .error e => ⟨out, .error e⟩
    | .ok ((literals, distances), rest) => unpackTokens literals distances rest.length out rest
  | _ => ⟨out, .error .broken⟩

/-- Unpacks blocks up to the one that says it is the last. -/
def unpackBlocks : Nat → Array UInt8 → List Bool → Progress
  | 0, out, _ => ⟨out, .error .cut⟩
  | fuel + 1, out, bits =>
    let head : Read (Nat × Nat) := do return (← bit, ← number 2)
    match head bits with
    | .error e => ⟨out, .error e⟩
    | .ok ((isLast, kind), rest) =>
      match unpackBlock kind out rest with
      | ⟨out, .ok rest⟩ => if isLast = 1 then ⟨out, .ok rest⟩ else unpackBlocks fuel out rest
      | stopped => stopped

/-- Unpacks data. -/
def unpack (bits : List Bool) : Progress := unpackBlocks bits.length #[] bits

end GirDoc.Deflate
