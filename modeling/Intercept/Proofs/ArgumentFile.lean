import Intercept.ArgumentFile
import Intercept.Proofs.Log.Shown

/-!
# What a file of arguments gives back

Every argument in the file ends in a newline, so that the last newline is left out before the lines
are told apart: no argument at all leaves an empty file, and a single empty one a file of one
newline. This module says which arguments are read back, how many are read of those that are not,
and that a file that is shown as text is read as the arguments, shown.

Results:
1. `read_append_newline`, `read_of_not_open`: reading by the end of the file.
2. `read_write`: the lines of what was written.
3. `read_write_eq_iff`, `length_read_write`: which arguments are read back, and how many are read.
4. `read_shown`: reading and showing commute.
5. `read_exactly`: all of this together.
-/

namespace Intercept.ArgumentFile

/-! ## The end of a file -/

theorem beforeLastNewline?_append (lines : Bytes) :
    beforeLastNewline? (lines ++ [Bytes.newline]) = some lines := by
  induction lines with
  | nil => rfl
  | cons b rest ih =>
      -- The definition looks at two bytes at once.
      obtain ⟨c, more, cut⟩ : ∃ c more, rest ++ [Bytes.newline] = c :: more :=
        List.exists_cons_of_ne_nil (List.append_ne_nil_of_right_ne_nil rest (List.cons_ne_nil _ _))
      rw [cut] at ih
      rw [List.cons_append, cut, beforeLastNewline?, ih, Option.map_some]

theorem eq_append_of_beforeLastNewline? {file lines : Bytes}
    (found : beforeLastNewline? file = some lines) : file = lines ++ [Bytes.newline] := by
  fun_induction beforeLastNewline? file generalizing lines with
  | case1 => exact nomatch found
  | case2 => rw [← Option.some.inj found, List.nil_append]
  | case3 => exact nomatch found
  | case4 b c rest ih =>
      obtain ⟨more, foundRest, rfl⟩ := Option.map_eq_some_iff.mp found
      rw [ih foundRest, List.cons_append]

/-- A file that ends in a newline holds the lines in front of it. -/
theorem read_append_newline (lines : Bytes) :
    read (lines ++ [Bytes.newline]) = Bytes.splitAt Bytes.newline lines := by
  rw [read, beforeLastNewline?_append]

/-- A file that ends in anything else holds nothing. -/
theorem read_of_not_open {file : Bytes} (shut : ¬ [Bytes.newline] <:+ file) : read file = [] := by
  have unended : beforeLastNewline? file = none :=
    Option.eq_none_iff_forall_ne_some.mpr fun lines found =>
      shut ⟨lines, (eq_append_of_beforeLastNewline? found).symm⟩
  rw [read, unended]

/-! ## What was written -/

theorem write_eq_joinWith {arguments : List Bytes} (nonempty : arguments ≠ []) :
    write arguments = Bytes.joinWith Bytes.newline arguments ++ [Bytes.newline] := by
  fun_induction Bytes.joinWith Bytes.newline arguments with
  | case1 => exact absurd rfl nonempty
  | case2 argument => exact List.flatMap_singleton _ argument
  | case3 argument rest more ih =>
      have written : write (argument :: rest) = argument ++ [Bytes.newline] ++ write rest := rfl
      rw [written, ih fun nothing => more nothing]
      simp

/-- Some arguments that were written are read as the lines that they are made of. -/
theorem read_write {arguments : List Bytes} (nonempty : arguments ≠ []) :
    read (write arguments) =
      Bytes.splitAt Bytes.newline (Bytes.joinWith Bytes.newline arguments) := by
  rw [write_eq_joinWith nonempty, read_append_newline]

theorem read_write_eq_iff {arguments : List Bytes} :
    read (write arguments) = arguments ↔ ∀ argument ∈ arguments, Bytes.newline ∉ argument := by
  by_cases nonempty : arguments = []
  · rw [nonempty]
    exact iff_of_true rfl nofun
  · rw [read_write nonempty]
    constructor
    · intro same argument member
      rw [← same] at member
      exact Bytes.not_mem_of_mem_splitAt member
    · exact Bytes.splitAt_joinWith nonempty

/-- There are as many lines as newlines. -/
theorem length_read_write {arguments : List Bytes} (nonempty : arguments ≠ []) :
    (read (write arguments)).length = (write arguments).count Bytes.newline := by
  rw [read_write nonempty, Bytes.length_splitAt, write_eq_joinWith nonempty, List.count_append,
    List.count_singleton_self]

/-! ## What is shown -/

/-- A file that is shown is read as its arguments, shown. -/
theorem read_shown (file : Bytes) : read (Utf8.lossy file) = (read file).map Utf8.lossy := by
  by_cases ends : [Bytes.newline] <:+ file
  · obtain ⟨lines, rfl⟩ := ends
    rw [Utf8.lossy_append_cons Log.isAscii_newline, Utf8.lossy_nil, read_append_newline,
      read_append_newline, Bytes.splitAt_lossy Log.isAscii_newline]
  · have shown : ¬ [Bytes.newline] <:+ Utf8.lossy file :=
      fun ended => ends (Log.open_of_open_lossy ended)
    rw [read_of_not_open ends, read_of_not_open shown, List.map_nil]

/-- Reading the file that some arguments were written to. They are read back exactly if none of
them holds a newline, be there none at all or empty ones among them; if there are any, as many are
read as there are newlines in the file. As texts the same arguments are read, each shown by itself,
and the text of the whole file is read as these. -/
theorem read_exactly (arguments : List Bytes) :
    let file := write arguments
    (read file = arguments ↔ ∀ argument ∈ arguments, Bytes.newline ∉ argument) ∧
    (arguments ≠ [] → (read file).length = file.count Bytes.newline) ∧
    readText file = (read file).map Utf8.text ∧
    (readText file).map Bytes.ofString = (read file).map Utf8.lossy ∧
    read (Bytes.ofString (Utf8.text file)) = (readText file).map Bytes.ofString := by
  intro file
  have encoded : (readText file).map Bytes.ofString = (read file).map Utf8.lossy := by
    rw [readText, List.map_map]
    exact List.map_congr_left fun argument _ => Utf8.ofString_text argument
  refine ⟨read_write_eq_iff, length_read_write, rfl, encoded, ?_⟩
  rw [encoded, Utf8.ofString_text, read_shown]

/-- An argument that holds a newline is read as two, and the empty one behind it is kept. -/
theorem read_exactly_newline :
    let arguments : List Bytes := [[0x61, 0x0A, 0xE9], []]
    arguments ≠ [] ∧ (read (write arguments)).length = 3 ∧ read (write arguments) ≠ arguments := by
  intro arguments
  have nonempty : arguments ≠ [] := List.cons_ne_nil _ _
  obtain ⟨back, count, -⟩ := read_exactly arguments
  refine ⟨nonempty, count nonempty, fun same => ?_⟩
  exact absurd (back.mp same _ List.mem_cons_self) (by decide)

end Intercept.ArgumentFile
