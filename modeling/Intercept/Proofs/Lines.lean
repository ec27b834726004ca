import Intercept.Bytes

/-!
# Splitting at a separator

What `Bytes.splitAt` gives on bytes without the separator and on bytes that hold it, and what is
known of every part. The line of a record and the lines of a chunk are such parts.

Results:
1. `splitAt_eq_singleton`, `splitAt_append_cons`: the parts of a known byte string.
2. `not_mem_of_mem_splitAt`: no part holds the separator.
3. `splitAt_flatMap_concat`, `splitAt_joinWith`: parts that each end in the separator, or that have
   it between them, are told apart again.
4. `length_splitAt`: the number of parts.
5. `breakAt_append_cons`, `not_mem_breakAt`: bytes that are cut at the first separator only.
-/

namespace Intercept.Bytes

/-- Bytes without the separator are one part. -/
theorem splitAt_eq_singleton {separator : UInt8} {bytes : Bytes} (absent : separator ∉ bytes) :
    splitAt separator bytes = [bytes] := by
  induction bytes with
  | nil => rfl
  | cons b rest ih =>
      have differs : b ≠ separator := (List.ne_of_not_mem_cons absent).symm
      have absentRest : separator ∉ rest := List.not_mem_of_not_mem_cons absent
      simp only [splitAt, if_neg differs, ih absentRest]

/-- The first part ends at the first separator. -/
theorem splitAt_append_cons {separator : UInt8} {part : Bytes} (absent : separator ∉ part)
    (rest : Bytes) :
    splitAt separator (part ++ separator :: rest) = part :: splitAt separator rest := by
  induction part with
  | nil => simp [splitAt]
  | cons b part ih =>
      have differs : b ≠ separator := (List.ne_of_not_mem_cons absent).symm
      have absentPart : separator ∉ part := List.not_mem_of_not_mem_cons absent
      simp only [List.cons_append, splitAt, if_neg differs, ih absentPart]

theorem not_mem_of_mem_splitAt {separator : UInt8} {bytes part : Bytes}
    (member : part ∈ splitAt separator bytes) : separator ∉ part := by
  induction bytes generalizing part with
  | nil =>
      rw [splitAt, List.mem_singleton] at member
      simp [member]
  | cons b rest ih =>
      obtain ⟨first, others, cut⟩ := List.exists_cons_of_ne_nil (splitAt_ne_nil separator rest)
      rw [cut] at ih
      by_cases equal : b = separator
      · simp only [splitAt, if_pos equal, cut, List.mem_cons] at member
        rcases member with rfl | inRest
        · exact List.not_mem_nil
        · exact ih (List.mem_cons.mpr inRest)
      · simp only [splitAt, if_neg equal, cut, List.mem_cons] at member
        rcases member with rfl | inOthers
        · exact List.not_mem_cons_of_ne_of_not_mem (Ne.symm equal) (ih List.mem_cons_self)
        · exact ih (List.mem_cons_of_mem first inOthers)

/-- Behind the last separator there is one part more, which is empty. -/
theorem splitAt_flatMap_concat {separator : UInt8} {parts : List Bytes}
    (absent : ∀ part ∈ parts, separator ∉ part) :
    splitAt separator (parts.flatMap fun part => part ++ [separator]) = parts ++ [[]] := by
  induction parts with
  | nil => rfl
  | cons part rest ih =>
      obtain ⟨first, later⟩ := List.forall_mem_cons.mp absent
      rw [List.flatMap_cons, List.append_assoc, List.singleton_append,
        splitAt_append_cons first, ih later, List.cons_append]

theorem splitAt_joinWith {separator : UInt8} {parts : List Bytes} (nonempty : parts ≠ [])
    (absent : ∀ part ∈ parts, separator ∉ part) :
    splitAt separator (joinWith separator parts) = parts := by
  fun_induction joinWith separator parts with
  | case1 => exact absurd rfl nonempty
  | case2 part => exact splitAt_eq_singleton (absent part List.mem_cons_self)
  | case3 part parts more ih =>
      obtain ⟨first, later⟩ := List.forall_mem_cons.mp absent
      rw [splitAt_append_cons first, ih (fun nothing => more nothing) later]

/-- There is one part more than there are separators. -/
theorem length_splitAt (separator : UInt8) (bytes : Bytes) :
    (splitAt separator bytes).length = bytes.count separator + 1 := by
  induction bytes with
  | nil => rfl
  | cons b rest ih =>
      obtain ⟨first, others, cut⟩ := List.exists_cons_of_ne_nil (splitAt_ne_nil separator rest)
      rw [cut, List.length_cons] at ih
      by_cases equal : b = separator
      · rw [splitAt, if_pos equal, cut, equal, List.count_cons_self, List.length_cons,
          List.length_cons, ih]
      · rw [splitAt, if_neg equal, cut, List.count_cons_of_ne equal]
        exact ih

/-! ## The first separator only -/

/-- Bytes are cut at the first separator, whatever follows it. -/
theorem breakAt_append_cons {separator : UInt8} {part : Bytes} (absent : separator ∉ part)
    (rest : Bytes) : breakAt separator (part ++ separator :: rest) = (part, some rest) := by
  induction part with
  | nil => simp [breakAt]
  | cons b part ih =>
      have differs : b ≠ separator := (List.ne_of_not_mem_cons absent).symm
      have absentPart : separator ∉ part := List.not_mem_of_not_mem_cons absent
      rw [List.cons_append, breakAt, if_neg differs, ih absentPart]

theorem not_mem_breakAt (separator : UInt8) (bytes : Bytes) :
    separator ∉ (breakAt separator bytes).1 := by
  induction bytes with
  | nil => exact List.not_mem_nil
  | cons b rest ih =>
      by_cases equal : b = separator
      · rw [breakAt, if_pos equal]
        exact List.not_mem_nil
      · rw [breakAt, if_neg equal]
        exact List.not_mem_cons_of_ne_of_not_mem (Ne.symm equal) ih

end Intercept.Bytes
