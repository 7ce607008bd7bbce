import GirDoc.Extract.Accumulator
import GirDoc.Extract.Directive
import GirDoc.Text.Utf8

/-!
# Comments and macro definitions of a C source

A source is read from the left. Where a comment or a definition opens, it is taken whole, and reading
goes on after it; any other byte is passed over. Definitions inside comments and comments inside
definitions are not looked for.

A comment is kept only if its first two bytes are there, the first is no slash and the second neither
a star nor a slash. One that is never closed ends with the source and loses its last byte.

Each step of `itemsFrom` leaves a shorter rest, which is why it ends.
-/

namespace GirDoc.Extract

/-- What an item is. -/
inductive Kind where
  | definition
  | comment
  deriving Repr, DecidableEq

/-- An extracted piece of source. `firstLine` is the number of newlines up to where the item's
beginning was recognised; `lastLine` is the line where reading went on after the item. -/
@[ext]
structure Item (τ : Type) where
  text : τ
  firstLine : Nat
  lastLine : Nat
  kind : Kind
  deriving Repr

/-- The slash byte. -/
def slash : UInt8 := 47

/-- The star byte. -/
def star : UInt8 := 42

/-- The number of newlines in a stretch of bytes. -/
def newlines (bs : List UInt8) : Nat := bs.count newline

/-- Cuts what follows the opening of a comment at its closing mark. Without a closing mark the last
byte is lost. -/
def commentBody : List UInt8 → Cut
  | [] => ⟨[], [], []⟩
  | [b] => ⟨[], [b], []⟩
  | b :: c :: rest =>
    if b = star && c = slash then ⟨[], [star, slash], rest⟩
    else
      let tail := commentBody (c :: rest)
      { tail with body := b :: tail.body }

/-- Whether a comment is kept, judged by the bytes after its opening. -/
def keepsComment : List UInt8 → Bool
  | b :: c :: _ => b != slash && c != star && c != slash
  | _ => false

/-- The item of a comment whose bytes after the opening are `bs`, read from line `line`. -/
def commentItem (line : Nat) (bs : List UInt8) : Item (List UInt8) :=
  let cut := commentBody bs
  { text := (Accumulator.start [slash, star]).collect cut.body ++ [star, slash]
    firstLine := line + newlines (bs.take 2) - 1
    lastLine := line + newlines cut.body + newlines cut.closing
    kind := .comment }

/-- The item of a definition whose bytes after the opening are `bs`, read from line `line`. -/
def definitionItem (line : Nat) (bs : List UInt8) : Item (List UInt8) :=
  let cut := definitionBody bs
  { text := (Accumulator.start (35 :: defineWord ++ [32])).collect cut.body
    firstLine := line + newlines (bs.take 1) - 1
    lastLine := line + newlines cut.body + newlines cut.closing
    kind := .definition }

/-- A comment cut in three is the whole. -/
theorem commentBody_append (bs : List UInt8) :
    (commentBody bs).body ++ (commentBody bs).closing ++ (commentBody bs).rest = bs := by
  fun_induction commentBody bs with
  | case1 => rfl
  | case2 => rfl
  | case3 b c rest h =>
    simp only [Bool.and_eq_true, decide_eq_true_eq] at h
    simp [h.1, h.2]
  | case4 b c rest h tail ih =>
    simp only [List.cons_append]
    exact congrArg (b :: ·) ih

theorem length_rest_commentBody (bs : List UInt8) :
    (commentBody bs).rest.length ≤ bs.length := by
  have h := congrArg List.length (commentBody_append bs)
  simp only [List.length_append] at h
  omega

/-- What opens at the front of a source. -/
inductive Opening (bs : List UInt8) where
  /-- A comment opens; `rest` follows its opening. -/
  | comment (rest : List UInt8) (shorter : rest.length < bs.length)
  /-- A definition opens; `rest` follows its opening. -/
  | definition (rest : List UInt8) (shorter : rest.length < bs.length)
  /-- Nothing opens. -/
  | none

/-- Recognises what opens at the front of a source. -/
def opening (bs : List UInt8) : Opening bs :=
  match h : after? [slash, star] bs with
  | some rest => .comment rest (by
      cases bs with
      | nil => simp [after?] at h
      | cons b tail =>
        rw [after?] at h
        split at h
        · have := length_le_of_after? h; simp only [List.length_cons]; omega
        · simp at h)
  | none =>
    match h : directiveBody? bs with
    | some rest => .definition rest (length_lt_of_directiveBody? h)
    | none => .none

/-- The items of a source, read from line `line`. -/
def itemsFrom (line : Nat) (bs : List UInt8) : List (Item (List UInt8)) :=
  match bs with
  | [] => []
  | b :: tail =>
    match opening (b :: tail) with
    | .comment rest _ =>
      let item := commentItem line rest
      let others := itemsFrom item.lastLine (commentBody rest).rest
      if keepsComment rest then item :: others else others
    | .definition rest _ =>
      let item := definitionItem line rest
      item :: itemsFrom item.lastLine (definitionBody rest).rest
    | .none => itemsFrom (if b = newline then line + 1 else line) tail
termination_by bs.length
decreasing_by
  · have := length_rest_commentBody rest; omega
  · have := length_rest_definitionBody rest; omega
  · simp

/-- The items of a source as bytes; the source ends at its first NUL. -/
def items (source : List UInt8) : List (Item (List UInt8)) :=
  itemsFrom 1 (source.takeWhile (· ≠ 0))

/-- An item with its bytes read as text. -/
def Item.decode? (item : Item (List UInt8)) : Option (Item String) :=
  (Text.Utf8.decode? item.text).map fun text => { item with text }

/-- The comments and definitions of a source; `none` if the bytes of one spell no text. -/
def extract (source : String) : Option (List (Item String)) :=
  (items (Text.Utf8.encode source)).mapM Item.decode?

end GirDoc.Extract
