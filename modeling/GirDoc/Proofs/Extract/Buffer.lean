import Mathlib.Data.List.TakeWhile
import GirDoc.Extract.Item

/-!
# Collecting bytes in a buffer is safe and loses nothing

* Every byte, and every NUL that ends a chunk, is written to a place of the buffer (`lt_bufferSize_of_write`). The
  invariant is that the next byte goes to a place before the last one, so that the NUL after it fits too.
* What a buffer holds before the next place is all that matters of it: what is collected is told by these bytes
  and those that come (`text_foldl_perform`). A chunk ends at the first NUL in it (`chunked`), so bytes are lost
  exactly if there is one among them.
* A source is read up to its first NUL, so none is ever collected (`zero_notMem_of_suffix`).

The main statement is `collect_safe_lossless`.
-/

namespace GirDoc.Extract

variable {cursor place : Nat} {b : UInt8} {bytes held : List UInt8}

/-! ## Places that are written to -/

/-- **Nothing is written outside the buffer.** -/
theorem lt_bufferSize_of_write (hcursor : cursor < bufferSize - 1)
    (h : Action.write place b ∈ actions cursor bytes) : place < bufferSize := by
  fun_induction actions cursor bytes with
  | case1 cursor =>
    simp only [List.mem_cons, Action.write.injEq, List.not_mem_nil, reduceCtorEq, or_false] at h
    omega
  | case2 cursor c rest hroom ih =>
    rcases List.mem_cons.mp h with hwrite | hmem
    · injection hwrite
      omega
    · exact ih hroom hmem
  | case3 cursor c rest hfull ih =>
    simp only [List.mem_cons, Action.write.injEq, reduceCtorEq, false_or] at h
    rcases h with ⟨hplace, -⟩ | ⟨hplace, -⟩ | hmem
    · omega
    · omega
    · exact ih (by decide) hmem

/-- The byte at the last place but one fills the buffer. -/
example : actions 1022 [65] = [.write 1022 65, .write 1023 0, .flush, .write 0 0, .flush] := rfl

/-! ## What is collected -/

/-- The bytes that are collected when the buffer holds some already: chunk by chunk, each up to the first
NUL in it. -/
def chunked (held : List UInt8) : List UInt8 → List UInt8
  | [] => held.takeWhile (· ≠ 0)
  | b :: rest =>
    if held.length + 1 < bufferSize - 1 then chunked (held ++ [b]) rest
    else (held ++ [b]).takeWhile (· ≠ 0) ++ chunked [] rest

/-- Nothing is lost unless a NUL is among the bytes. -/
theorem chunked_eq_append (hheld : 0 ∉ held) (hbytes : 0 ∉ bytes) :
    chunked held bytes = held ++ bytes := by
  have hwhole {l : List UInt8} (hl : 0 ∉ l) : l.takeWhile (· ≠ 0) = l := by
    rw [List.takeWhile_eq_self_iff]
    intro c hc
    simpa using ne_of_mem_of_not_mem hc hl
  induction bytes generalizing held with
  | nil => rw [chunked, hwhole hheld, List.append_nil]
  | cons b rest ih =>
    rw [List.mem_cons, not_or] at hbytes
    have hmore : 0 ∉ held ++ [b] := by simp [hheld, hbytes.1]
    rw [chunked]
    split
    · rw [ih hmore hbytes.2, List.append_assoc, List.singleton_append]
    · rw [hwhole hmore, ih List.not_mem_nil hbytes.2, List.nil_append, List.append_assoc, List.singleton_append]

theorem zero_notMem_chunked (held bytes : List UInt8) : 0 ∉ chunked held bytes := by
  have hchunk (l : List UInt8) : 0 ∉ l.takeWhile (· ≠ 0) := fun hmem => by
    simpa using List.mem_takeWhile_imp hmem
  induction bytes generalizing held with
  | nil => exact hchunk held
  | cons b rest ih =>
    rw [chunked]
    split
    · exact ih _
    · rw [List.mem_append, not_or]
      exact ⟨hchunk _, ih _⟩

namespace Accumulator

variable (acc : Accumulator)

theorem text_perform_write (place : Nat) (b : UInt8) : (acc.perform (.write place b)).text = acc.text := by
  rw [perform]
  split <;> rfl

theorem toList_perform_write (b : UInt8) (h : place < bufferSize) :
    (acc.perform (.write place b)).buffer.toList =
      acc.buffer.toList.take place ++ b :: acc.buffer.toList.drop (place + 1) := by
  have hplace : place < acc.buffer.toList.length := by rwa [Vector.length_toList]
  rw [perform, dif_pos h, Vector.toList_set, List.set_eq_take_append_cons_drop, if_pos hplace]

theorem length_take_buffer (h : place < bufferSize) : (acc.buffer.toList.take place).length = place := by
  rw [List.length_take, Vector.length_toList, Nat.min_eq_left (Nat.le_of_lt h)]

/-- A byte that is written stands behind what was written before it. -/
theorem take_perform_write (b : UInt8) (h : place < bufferSize) :
    (acc.perform (.write place b)).buffer.toList.take (place + 1) = acc.buffer.toList.take place ++ [b] := by
  rw [acc.toList_perform_write b h, List.take_append, acc.length_take_buffer h, Nat.add_sub_cancel_left,
    List.take_of_length_le (by rw [acc.length_take_buffer h]; exact Nat.le_succ place)]
  rfl

/-- Where a NUL is written and the text added, what stands before it in the buffer is added. -/
theorem text_flush_at (h : place < bufferSize) :
    ((acc.perform (.write place 0)).perform .flush).text =
      acc.text ++ (acc.buffer.toList.take place).takeWhile (· ≠ 0) := by
  show (acc.perform _).text ++ (acc.perform _).buffer.toList.takeWhile _ = _
  rw [acc.text_perform_write, acc.toList_perform_write 0 h, List.takeWhile_append]
  split
  · next hall =>
    rw [List.takeWhile_cons_of_neg (by simp), List.append_nil]
    exact congrArg (acc.text ++ ·) ((List.takeWhile_prefix _).eq_of_length hall).symm
  · rfl

/-- **What is collected depends only on what the buffer holds before the next place.** -/
theorem text_foldl_perform (hcursor : cursor < bufferSize - 1) :
    ((actions cursor bytes).foldl perform acc).text =
      acc.text ++ chunked (acc.buffer.toList.take cursor) bytes := by
  have hlt {n : Nat} (hn : n < bufferSize - 1) : n < bufferSize := by omega
  fun_induction actions cursor bytes generalizing acc with
  | case1 cursor => exact acc.text_flush_at (hlt hcursor)
  | case2 cursor b rest hroom ih =>
    rw [List.foldl_cons, ih _ hroom, acc.text_perform_write, acc.take_perform_write b (hlt hcursor), chunked,
      acc.length_take_buffer (hlt hcursor), if_pos hroom]
  | case3 cursor b rest hfull ih =>
    have hnext : cursor + 1 < bufferSize := by omega
    simp only [List.foldl_cons]
    rw [ih _ (by decide), text_flush_at _ hnext, acc.text_perform_write, acc.take_perform_write b (hlt hcursor),
      List.take_zero, chunked, acc.length_take_buffer (hlt hcursor), if_neg hfull, List.append_assoc]

/-- **Bytes without NUL are collected as they are**, whatever the buffer held before. -/
theorem collect_eq_append (h : 0 ∉ bytes) : acc.collect bytes = acc.text ++ bytes := by
  rw [collect, acc.text_foldl_perform (by decide), List.take_zero, chunked_eq_append List.not_mem_nil h,
    List.nil_append]

/-- Bytes with a NUL are not. -/
theorem zero_notMem_of_collect (h : acc.collect bytes = acc.text ++ bytes) : 0 ∉ bytes := by
  rw [collect, acc.text_foldl_perform (by decide), List.append_cancel_left_eq] at h
  exact h ▸ zero_notMem_chunked _ bytes

end Accumulator

/-! ## The bytes of a source -/

/-- What is left of a source to be read holds no NUL. -/
theorem zero_notMem_of_suffix {source bs : List UInt8} (h : bs <:+ source.takeWhile (· ≠ 0)) :
    0 ∉ bs := by
  intro hmem
  simpa using List.mem_takeWhile_imp (h.subset hmem)

theorem zero_notMem_commentBody {bs : List UInt8} (h : 0 ∉ bs) : 0 ∉ (commentBody bs).body := by
  rw [← commentBody_append bs, List.mem_append, List.mem_append, not_or, not_or] at h
  exact h.1.1

theorem zero_notMem_definitionBody {bs : List UInt8} (h : 0 ∉ bs) : 0 ∉ (definitionBody bs).body := by
  rw [← definitionBody_append bs, List.mem_append, List.mem_append, not_or, not_or] at h
  exact h.1.1

/-- **Collecting bytes is safe and loses nothing.** Every byte and every NUL that ends a chunk is written to a place
of the buffer. What is collected is the beginning of the text followed by all bytes in order exactly if there is no
NUL among them. The bytes of comments and definitions have none, whatever the source and the buffer held before. -/
theorem collect_safe_lossless (acc : Accumulator) (bytes : List UInt8) :
    (∀ place b, Action.write place b ∈ actions 0 bytes → place < bufferSize) ∧
    (acc.collect bytes = acc.text ++ bytes ↔ 0 ∉ bytes) ∧
    ∀ source bs : List UInt8, bs <:+ source.takeWhile (· ≠ 0) →
      acc.collect (commentBody bs).body = acc.text ++ (commentBody bs).body ∧
      acc.collect (definitionBody bs).body = acc.text ++ (definitionBody bs).body := by
  refine ⟨fun _ _ => lt_bufferSize_of_write (by decide), ⟨acc.zero_notMem_of_collect, acc.collect_eq_append⟩, ?_⟩
  intro source bs hbs
  have hnul := zero_notMem_of_suffix hbs
  exact ⟨acc.collect_eq_append (zero_notMem_commentBody hnul), acc.collect_eq_append (zero_notMem_definitionBody hnul)⟩

end GirDoc.Extract
