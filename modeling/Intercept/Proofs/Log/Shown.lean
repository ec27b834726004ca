import Intercept.Proofs.Log.Reading
import Intercept.Proofs.Text.Encoding

/-!
# A log that is shown before it is read

A log can be read as bytes, and its records shown as text; or it can be shown as text as a whole,
and the text read as a log. Lines and blank lines are made of newlines, which are ASCII, and so is
the word that stands for no source: what is shown is cut where the bytes are, and no part is taken
for another one. So both ways lead to the same records, and to the same fault.

Results:
1. `splitAt_lossy`, `chunks_lossy`: what is shown has the lines and chunks of the bytes, shown.
2. `record?_lossy`: a chunk that is shown holds the record of the chunk, shown.
3. `read_lossy`: the same of a log.
-/

namespace Intercept

/-! ## Definitions -/

/-- The record with its fields as a reader sees them. -/
def Record.shown (r : Record) : Record := ⟨r.source.map Utf8.lossy, Utf8.lossy r.command⟩

/-! ## Lines -/

namespace Bytes

open Utf8 (IsAscii lossy)

theorem joinWith_map_lossy {separator : UInt8} (ascii : IsAscii separator) (parts : List Bytes) :
    joinWith separator (parts.map lossy) = lossy (joinWith separator parts) := by
  fun_induction joinWith separator parts with
  | case1 => rfl
  | case2 part => rfl
  | case3 part parts more ih =>
      rw [Utf8.lossy_append_cons ascii, ← ih]
      obtain ⟨next, others, rfl⟩ := List.exists_cons_of_ne_nil (fun nothing => more nothing)
      rfl

/-- What is shown has the parts of the bytes, shown. -/
theorem splitAt_lossy {separator : UInt8} (ascii : IsAscii separator) (bytes : Bytes) :
    splitAt separator (lossy bytes) = (splitAt separator bytes).map lossy := by
  have nonempty : (splitAt separator bytes).map lossy ≠ [] := by
    simpa using splitAt_ne_nil separator bytes
  have absent : ∀ part ∈ (splitAt separator bytes).map lossy, separator ∉ part := by
    intro part member
    obtain ⟨own, inBytes, rfl⟩ := List.mem_map.mp member
    rw [Utf8.mem_lossy_iff ascii]
    exact not_mem_of_mem_splitAt inBytes
  have whole : joinWith separator ((splitAt separator bytes).map lossy) = lossy bytes := by
    rw [joinWith_map_lossy ascii, joinWith_splitAt]
  rw [← whole, splitAt_joinWith nonempty absent]

theorem count_lossy {b : UInt8} (ascii : IsAscii b) (bytes : Bytes) :
    (lossy bytes).count b = bytes.count b := by
  have parts : (splitAt b (lossy bytes)).length = (splitAt b bytes).length := by
    rw [splitAt_lossy ascii, List.length_map]
  rw [length_splitAt, length_splitAt] at parts
  exact Nat.add_right_cancel parts

end Bytes

namespace Log

open Utf8 (IsAscii lossy)

theorem isAscii_newline : IsAscii Bytes.newline := by decide

/-! ## Chunks -/

/-- A blank line that is shown stands in the bytes. -/
theorem hasBlank_of_hasBlank_lossy {bytes : Bytes} (shown : HasBlank (lossy bytes)) :
    HasBlank bytes := by
  obtain ⟨front, rest, whole⟩ := shown
  rw [List.append_assoc] at whole
  obtain ⟨before, after, rfl, -, behind⟩ :=
    Utf8.exists_of_lossy_eq_append_cons isAscii_newline whole.symm
  obtain ⟨last, rfl, -⟩ := Utf8.exists_of_lossy_eq_cons isAscii_newline behind
  exact ⟨before, last, by simp⟩

/-- A newline at the end of what is shown stands at the end of the bytes. -/
theorem open_of_open_lossy {bytes : Bytes} (shown : [Bytes.newline] <:+ lossy bytes) :
    [Bytes.newline] <:+ bytes := by
  obtain ⟨front, whole⟩ := shown
  obtain ⟨before, after, rfl, -, nothing⟩ :=
    Utf8.exists_of_lossy_eq_append_cons isAscii_newline whole.symm
  rw [Utf8.lossy_eq_nil_iff.mp nothing]
  exact List.suffix_append before [Bytes.newline]

theorem Chunking.map_lossy {parts : List Bytes} (h : Chunking parts) :
    Chunking (parts.map lossy) where
  ne_nil := by simpa using h.ne_nil
  not_blank := by
    intro shown member
    obtain ⟨part, inParts, rfl⟩ := List.mem_map.mp member
    exact fun blank => h.not_blank part inParts (hasBlank_of_hasBlank_lossy blank)
  not_open := by
    intro shown member
    rw [← List.map_dropLast] at member
    obtain ⟨part, inParts, rfl⟩ := List.mem_map.mp member
    exact fun ends => h.not_open part inParts (open_of_open_lossy ends)

theorem joined_map_lossy (parts : List Bytes) :
    joined (parts.map lossy) = lossy (joined parts) := by
  induction parts with
  | nil => rfl
  | cons part rest ih =>
      by_cases last : rest = []
      · subst last
        rfl
      · have more : rest.map lossy ≠ [] := by simpa using last
        rw [List.map_cons, joined_cons more, ih, joined_cons last,
          Utf8.lossy_append_cons isAscii_newline, Utf8.lossy_cons isAscii_newline]

/-- What is shown has the chunks of the bytes, shown. -/
theorem chunks_lossy (bytes : Bytes) : chunks (lossy bytes) = (chunks bytes).map lossy := by
  have whole : joined ((chunks bytes).map lossy) = lossy bytes := by
    rw [joined_map_lossy, joined_chunks]
  rw [← whole, chunks_joined (chunking_chunks bytes).map_lossy]

/-! ## Records -/

/-- No source is shown as the word for none unless it is this word. -/
theorem lossy_eq_absent_iff {line : Bytes} : lossy line = Record.absent ↔ line = Record.absent :=
  Utf8.lossy_eq_iff (Utf8.isAscii_of_all (by decide))

theorem sourceOfLine_lossy (line : Bytes) :
    Record.sourceOfLine (lossy line) = (Record.sourceOfLine line).map lossy := by
  unfold Record.sourceOfLine
  by_cases word : line = Record.absent
  · rw [if_pos (lossy_eq_absent_iff.mpr word), if_pos word]
    rfl
  · rw [if_neg (fun equal => word (lossy_eq_absent_iff.mp equal)), if_neg word]
    rfl

/-- A chunk that is shown holds the record of the chunk, shown. -/
theorem record?_lossy (chunk : Bytes) :
    record? (lossy chunk) = (record? chunk).map Record.shown := by
  rw [record?, record?, Bytes.splitAt_lossy isAscii_newline]
  rcases Bytes.splitAt Bytes.newline chunk with _ | ⟨line, _ | ⟨command, more⟩⟩
  · rfl
  · rfl
  · have source := sourceOfLine_lossy line
    unfold Record.sourceOfLine at source
    simp only [List.map_cons, Option.map_some, Record.shown, source]

/-- The fault of a chunk quotes it as text, so that it is worded alike for what is shown. -/
theorem noCommand_lossy (line : Nat) (chunk : Bytes) :
    noCommand line (lossy chunk) = noCommand line chunk := by
  rw [noCommand, Utf8.text_lossy, noCommand]

theorem readFrom_map_lossy (line : Nat) (parts : List Bytes) :
    readFrom line (parts.map lossy) = (readFrom line parts).map (List.map Record.shown) := by
  fun_induction readFrom line parts with
  | case1 line => rfl
  | case2 line rest ih => exact ih
  | case3 line chunk rest nonempty unread =>
      have absent : Bytes.newline ∉ lossy chunk := by
        rw [Utf8.mem_lossy_iff isAscii_newline]
        exact record?_eq_none_iff.mp unread
      have shown : lossy chunk ≠ [] := fun nothing => nonempty (Utf8.lossy_eq_nil_iff.mp nothing)
      rw [List.map_cons, readFrom_cons_of_not_mem shown absent, noCommand_lossy]
      rfl
  | case4 line chunk rest nonempty r found ih =>
      have shown : record? (lossy chunk) = some r.shown := by
        rw [record?_lossy, found]
        rfl
      have lines : newlines (lossy chunk) = newlines chunk :=
        Bytes.count_lossy isAscii_newline chunk
      rw [List.map_cons, readFrom_cons_of_record? shown, lines, ih]
      cases readFrom (line + newlines chunk + 2) rest <;> rfl

/-- Showing a log and reading it commute. What is shown of bytes is the encoding of the text that is
read out of them, and read as a log it gives the records of the bytes with every source and every
command shown, or the fault of the bytes: at the same line, in the same words. A source stays a
source, since no line but the word for none is shown as this word. -/
theorem read_lossy (bytes : Bytes) :
    lossy bytes = Bytes.ofString (Utf8.text bytes) ∧
    read (lossy bytes) = (read bytes).map (List.map Record.shown) ∧
    ∀ line, lossy line = Record.absent ↔ line = Record.absent := by
  refine ⟨(Utf8.ofString_text bytes).symm, ?_, fun line => lossy_eq_absent_iff⟩
  rw [read, chunks_lossy, readFrom_map_lossy, read]

end Log

end Intercept
