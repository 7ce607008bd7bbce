/-!
# Collecting bytes in chunks

The text of an item is collected in a buffer of fixed size. When the buffer is full but for its last place,
a NUL is written there, what stands before it is added to the text, and the buffer is filled from its first
place again. What the buffer held before is not cleared.
-/

namespace GirDoc.Extract

/-- The size of the buffer, with a place for the NUL that ends what is written in it. -/
def bufferSize : Nat := 1024

/-- What is done while bytes are collected. -/
inductive Action where
  /-- A byte is written to a place of the buffer. -/
  | write (place : Nat) (byte : UInt8)
  /-- What is written in the buffer, up to the first NUL, is added to the text. -/
  | flush
  deriving Repr, DecidableEq

/-- What is done to collect bytes, when the next one is written to the place `cursor`. -/
def actions (cursor : Nat) : List UInt8 → List Action
  | [] => [.write cursor 0, .flush]
  | b :: rest =>
    if cursor + 1 < bufferSize - 1 then .write cursor b :: actions (cursor + 1) rest
    else .write cursor b :: .write (cursor + 1) 0 :: .flush :: actions 0 rest

/-- A text under construction, and the buffer that bytes are collected in. -/
structure Accumulator where
  text : List UInt8
  buffer : Vector UInt8 bufferSize

namespace Accumulator

/-- The beginning of a text. -/
def start (beginning : List UInt8) : Accumulator :=
  ⟨beginning, Vector.replicate bufferSize 0⟩

/-- Does one thing. Nothing can be written outside the buffer. -/
def perform (acc : Accumulator) : Action → Accumulator
  | .write place b =>
    if h : place < bufferSize then { acc with buffer := acc.buffer.set place b h } else acc
  | .flush => { acc with text := acc.text ++ acc.buffer.toList.takeWhile (· ≠ 0) }

/-- The text once bytes were collected. -/
def collect (acc : Accumulator) (bytes : List UInt8) : List UInt8 :=
  ((actions 0 bytes).foldl perform acc).text

end Accumulator

end GirDoc.Extract
