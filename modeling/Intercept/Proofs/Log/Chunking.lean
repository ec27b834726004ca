import Intercept.Log
import Mathlib.Algebra.Group.Nat.Even
import Mathlib.Data.List.Infix

/-!
# The chunks of a log are its only chunking

`Log.chunks` searches for pairs of newlines from the left, and each search goes on behind the pair
that was found. This module says what comes of it without the search: a chunking is a list of
chunks that hold no blank line and of which none but the last ends in a newline, and the chunks of
a log are the only chunking that, joined by blank lines, gives the log.

Results:
1. `chunking_chunks`, `joined_chunks`: the chunks of a log are a chunking of it.
2. `chunks_joined`: there is no other one.
3. `getLast?_chunks_eq_nil_iff`: the last chunk is empty exactly at a boundary, after a trailing run
   of newlines of positive even length.
4. `exists_ended_of_atBoundary`, `chunks_ended_append`: at a boundary the search begins afresh.
-/

namespace Intercept.Log

/-! ## Definitions -/

/-- Chunks one after the other, with a blank line between neighbours. -/
def joined : List Bytes → Bytes
  | [] => []
  | [chunk] => chunk
  | chunk :: next :: rest => chunk ++ Bytes.newline :: Bytes.newline :: joined (next :: rest)

/-- The bytes hold two newlines side by side. -/
def HasBlank (bytes : Bytes) : Prop := [Bytes.newline, Bytes.newline] <:+: bytes

/-- A chunk that another one may follow: the newline that it would end in would pair up with the
blank line behind it. -/
structure Closed (chunk : Bytes) : Prop where
  not_blank : ¬ HasBlank chunk
  not_open : ¬ [Bytes.newline] <:+ chunk

/-- A list of chunks that can be told apart when they are joined. -/
structure Chunking (chunks : List Bytes) : Prop where
  ne_nil : chunks ≠ []
  not_blank : ∀ chunk ∈ chunks, ¬ HasBlank chunk
  not_open : ∀ chunk ∈ chunks.dropLast, ¬ [Bytes.newline] <:+ chunk

/-- The length of the run of newlines at the end. -/
def trailingNewlines (bytes : Bytes) : Nat :=
  (bytes.reverse.takeWhile (· = Bytes.newline)).length

/-- What follows these bytes is read as if the log began there: they are none, or the run of
newlines at their end is one of whole pairs. -/
def AtBoundary (bytes : Bytes) : Prop :=
  bytes = [] ∨ 0 < trailingNewlines bytes ∧ Even (trailingNewlines bytes)

instance (bytes : Bytes) : Decidable (AtBoundary bytes) :=
  inferInstanceAs (Decidable (bytes = [] ∨ 0 < _ ∧ Even _))

/-! ## Blank lines -/

@[simp]
theorem not_hasBlank_nil : ¬ HasBlank [] := by
  simp [HasBlank]

@[simp]
theorem not_hasBlank_singleton (b : UInt8) : ¬ HasBlank [b] := by
  intro blank
  simpa using blank.length_le

theorem hasBlank_cons_cons {b c : UInt8} {rest : Bytes} :
    HasBlank (b :: c :: rest) ↔
      (b = Bytes.newline ∧ c = Bytes.newline) ∨ HasBlank (c :: rest) := by
  unfold HasBlank
  rw [List.infix_cons_iff, List.cons_prefix_cons, List.cons_prefix_cons]
  simp [eq_comm]

/-- Bytes without a newline are a chunk that another one may follow. -/
theorem closed_of_not_mem {bytes : Bytes} (absent : Bytes.newline ∉ bytes) : Closed bytes where
  not_blank := fun blank => absent (blank.subset List.mem_cons_self)
  not_open := fun ends => absent (ends.subset List.mem_cons_self)

theorem not_open_cons_cons {b c : UInt8} {rest : Bytes} :
    ¬ [Bytes.newline] <:+ b :: c :: rest ↔ ¬ [Bytes.newline] <:+ c :: rest := by
  rw [List.suffix_cons_iff]
  simp

/-- Bytes that end in a line that is not empty do not end in a newline. -/
theorem not_open_append (front : Bytes) {line : Bytes} (nonempty : line ≠ [])
    (absent : Bytes.newline ∉ line) : ¬ [Bytes.newline] <:+ front ++ line := by
  intro ends
  have inLine : [Bytes.newline] <:+ line :=
    List.suffix_of_suffix_length_le ends (List.suffix_append front line)
      (List.length_pos_iff.mpr nonempty)
  exact absent (inLine.subset List.mem_cons_self)

/-- A newline behind a closed chunk has none beside it. -/
theorem not_hasBlank_append_newline {chunk : Bytes} (closed : Closed chunk) :
    ¬ HasBlank (chunk ++ [Bytes.newline]) := by
  intro blank
  rcases List.infix_concat_iff.mp blank with atEnd | inside
  · obtain nothing | ⟨front, pair, ends⟩ := List.suffix_concat_iff.mp atEnd
    · exact nomatch nothing
    · have one : [Bytes.newline] = front := List.append_cancel_right pair
      exact closed.not_open (one ▸ ends)
  · exact closed.not_blank inside

/-! ## What the search does -/

theorem chunks_ne_nil (bytes : Bytes) : chunks bytes ≠ [] := by
  fun_cases chunks bytes with
  | case1 | case2 | case3 => exact List.cons_ne_nil _ _
  | case4 b c rest => cases chunks (c :: rest) <;> exact List.cons_ne_nil _ _

/-- Off a pair of newlines a byte goes into the first of the chunks that follow. -/
theorem chunks_cons_cons {b c : UInt8} {rest : Bytes}
    (unpaired : ¬ (b = Bytes.newline ∧ c = Bytes.newline)) {first : Bytes} {others : List Bytes}
    (cut : chunks (c :: rest) = first :: others) :
    chunks (b :: c :: rest) = (b :: first) :: others := by
  rw [chunks, if_neg unpaired, cut, consByte]

/-- Bytes without a blank line are one chunk. -/
theorem chunks_eq_singleton {chunk : Bytes} (whole : ¬ HasBlank chunk) : chunks chunk = [chunk] := by
  fun_induction chunks chunk with
  | case1 => rfl
  | case2 => rfl
  | case3 b c rest pair => exact absurd (hasBlank_cons_cons.mpr (Or.inl pair)) whole
  | case4 b c rest unpaired ih =>
      have wholeRest : ¬ HasBlank (c :: rest) :=
        fun blank => whole (hasBlank_cons_cons.mpr (Or.inr blank))
      rw [ih wholeRest, consByte]

/-- The first chunk ends at the first blank line behind a closed one. -/
theorem chunks_append_blank {chunk : Bytes} (closed : Closed chunk) (rest : Bytes) :
    chunks (chunk ++ Bytes.newline :: Bytes.newline :: rest) = chunk :: chunks rest := by
  obtain ⟨whole, shut⟩ := closed
  fun_induction chunks chunk with
  | case1 => simp [chunks]
  | case2 b =>
      -- The last byte of the chunk must not pair up with the first newline of the blank line.
      have differs : b ≠ Bytes.newline := fun equal => shut (equal ▸ List.suffix_refl _)
      exact chunks_cons_cons (fun pair => differs pair.1) (by simp [chunks])
  | case3 b c rest' pair => exact absurd (hasBlank_cons_cons.mpr (Or.inl pair)) whole
  | case4 b c rest' unpaired ih =>
      have wholeRest : ¬ HasBlank (c :: rest') :=
        fun blank => whole (hasBlank_cons_cons.mpr (Or.inr blank))
      have shutRest : ¬ [Bytes.newline] <:+ c :: rest' :=
        fun ends => shut (ends.trans (List.suffix_cons b _))
      exact chunks_cons_cons unpaired (ih wholeRest shutRest)

/-! ## The chunks of a log are a chunking of it -/

theorem joined_cons {chunk : Bytes} {chunks : List Bytes} (nonempty : chunks ≠ []) :
    joined (chunk :: chunks) = chunk ++ Bytes.newline :: Bytes.newline :: joined chunks := by
  obtain ⟨next, rest, rfl⟩ := List.exists_cons_of_ne_nil nonempty
  rfl

theorem joined_chunks (bytes : Bytes) : joined (chunks bytes) = bytes := by
  fun_induction chunks bytes with
  | case1 => rfl
  | case2 b => rfl
  | case3 b c rest pair ih =>
      rw [joined_cons (chunks_ne_nil rest), ih, pair.1, pair.2]
      rfl
  | case4 b c rest unpaired ih =>
      obtain ⟨first, others, cut⟩ := List.exists_cons_of_ne_nil (chunks_ne_nil (c :: rest))
      rw [cut] at ih ⊢
      rw [consByte, ← ih]
      cases others <;> rfl

/-- The first chunk is empty, before a blank line, or it begins as the log does. -/
theorem first_chunk {c : UInt8} {rest first : Bytes} {others : List Bytes}
    (cut : chunks (c :: rest) = first :: others) :
    first = [] ∧ c = Bytes.newline ∨ ∃ more, first = c :: more := by
  cases rest with
  | nil =>
      simp only [chunks, List.cons.injEq] at cut
      exact Or.inr ⟨[], cut.1.symm⟩
  | cons d rest =>
      by_cases pair : c = Bytes.newline ∧ d = Bytes.newline
      · simp only [chunks, if_pos pair, List.cons.injEq] at cut
        exact Or.inl ⟨cut.1.symm, pair.1⟩
      · obtain ⟨more, later, cutRest⟩ := List.exists_cons_of_ne_nil (chunks_ne_nil (d :: rest))
        rw [chunks_cons_cons pair cutRest, List.cons.injEq] at cut
        exact Or.inr ⟨more, cut.1.symm⟩

theorem chunking_singleton {chunk : Bytes} : Chunking [chunk] ↔ ¬ HasBlank chunk := by
  constructor
  · intro h
    exact h.not_blank chunk List.mem_cons_self
  · intro whole
    refine ⟨List.cons_ne_nil _ _, ?_, ?_⟩
    · simpa using whole
    · simp

theorem chunking_cons {chunk : Bytes} {rest : List Bytes} (nonempty : rest ≠ []) :
    Chunking (chunk :: rest) ↔ Closed chunk ∧ Chunking rest := by
  have parts : (chunk :: rest).dropLast = chunk :: rest.dropLast :=
    List.dropLast_cons_of_ne_nil nonempty
  constructor
  · rintro ⟨-, whole, shut⟩
    rw [parts] at shut
    exact ⟨⟨whole chunk List.mem_cons_self, shut chunk List.mem_cons_self⟩, nonempty,
      fun c member => whole c (List.mem_cons_of_mem chunk member),
      fun c member => shut c (List.mem_cons_of_mem chunk member)⟩
  · rintro ⟨closed, -, whole, shut⟩
    refine ⟨List.cons_ne_nil _ _, ?_, ?_⟩
    · exact List.forall_mem_cons.mpr ⟨closed.not_blank, whole⟩
    · rw [parts]
      exact List.forall_mem_cons.mpr ⟨closed.not_open, shut⟩

/-- A byte that does not pair up with the next one can be put in front of a chunking. -/
theorem Chunking.cons_first {b c : UInt8} {rest first : Bytes} {others : List Bytes}
    (unpaired : ¬ (b = Bytes.newline ∧ c = Bytes.newline))
    (cut : chunks (c :: rest) = first :: others) (h : Chunking (first :: others)) :
    Chunking ((b :: first) :: others) := by
  have whole : ¬ HasBlank (b :: first) := by
    rcases first_chunk cut with ⟨rfl, -⟩ | ⟨more, rfl⟩
    · exact not_hasBlank_singleton b
    · rw [hasBlank_cons_cons]
      exact not_or.mpr ⟨unpaired, h.not_blank _ List.mem_cons_self⟩
  by_cases last : others = []
  · subst last
    exact chunking_singleton.mpr whole
  · obtain ⟨closed, later⟩ := (chunking_cons last).mp h
    refine (chunking_cons last).mpr ⟨⟨whole, ?_⟩, later⟩
    rcases first_chunk cut with ⟨rfl, second⟩ | ⟨more, rfl⟩
    · intro ends
      have equal : Bytes.newline = b := by simpa [List.suffix_cons_iff] using ends
      exact unpaired ⟨equal.symm, second⟩
    · exact not_open_cons_cons.mpr closed.not_open

theorem chunking_chunks (bytes : Bytes) : Chunking (chunks bytes) := by
  fun_induction chunks bytes with
  | case1 => exact chunking_singleton.mpr not_hasBlank_nil
  | case2 b => exact chunking_singleton.mpr (not_hasBlank_singleton b)
  | case3 b c rest pair ih =>
      exact (chunking_cons (chunks_ne_nil rest)).mpr ⟨closed_of_not_mem List.not_mem_nil, ih⟩
  | case4 b c rest unpaired ih =>
      obtain ⟨first, others, cut⟩ := List.exists_cons_of_ne_nil (chunks_ne_nil (c :: rest))
      rw [cut] at ih ⊢
      exact Chunking.cons_first unpaired cut ih

/-! ## There is no other chunking -/

theorem chunks_joined {parts : List Bytes} (h : Chunking parts) : chunks (joined parts) = parts := by
  induction parts with
  | nil => exact absurd rfl h.ne_nil
  | cons chunk rest ih =>
      by_cases last : rest = []
      · subst last
        exact chunks_eq_singleton (chunking_singleton.mp h)
      · obtain ⟨closed, later⟩ := (chunking_cons last).mp h
        rw [joined_cons last, chunks_append_blank closed, ih later]

/-! ## Boundaries -/

theorem trailingNewlines_le (bytes : Bytes) : trailingNewlines bytes ≤ bytes.length := by
  have run : trailingNewlines bytes ≤ bytes.reverse.length :=
    (List.takeWhile_prefix _).length_le
  rwa [List.length_reverse] at run

/-- The run at the end goes on to the front if everything behind the first byte belongs to it. -/
theorem trailingNewlines_cons (b : UInt8) (rest : Bytes) :
    trailingNewlines (b :: rest) =
      if trailingNewlines rest = rest.length then
        if b = Bytes.newline then rest.length + 1 else rest.length
      else trailingNewlines rest := by
  unfold trailingNewlines
  rw [List.reverse_cons, List.takeWhile_append, List.length_reverse]
  split
  · by_cases equal : b = Bytes.newline <;> simp [equal]
  · rfl

/-- Whole pairs of newlines in front are of no account to a boundary. -/
theorem atBoundary_pair {rest : Bytes} :
    AtBoundary (Bytes.newline :: Bytes.newline :: rest) ↔ AtBoundary rest := by
  have bound := trailingNewlines_le rest
  by_cases run : trailingNewlines rest = rest.length
  · have longer : trailingNewlines (Bytes.newline :: Bytes.newline :: rest) = rest.length + 2 := by
      simp [trailingNewlines_cons, run]
    simp only [AtBoundary, longer, run, Nat.even_iff, ← List.length_eq_zero_iff, List.length_cons]
    omega
  · have short : trailingNewlines rest ≠ rest.length + 1 := by omega
    have same : trailingNewlines (Bytes.newline :: Bytes.newline :: rest) =
        trailingNewlines rest := by
      simp [trailingNewlines_cons, run, short]
    have nonempty : rest ≠ [] := fun nothing => run (by rw [nothing]; rfl)
    simp only [AtBoundary, same, nonempty, List.cons_ne_nil]

/-- Neither is a byte that pairs up with nothing. -/
theorem atBoundary_cons_cons {b c : UInt8} {rest : Bytes}
    (unpaired : ¬ (b = Bytes.newline ∧ c = Bytes.newline)) :
    AtBoundary (b :: c :: rest) ↔ AtBoundary (c :: rest) := by
  have bound := trailingNewlines_le rest
  have same : trailingNewlines (b :: c :: rest) = trailingNewlines (c :: rest) := by
    rw [trailingNewlines_cons b, List.length_cons]
    by_cases run : trailingNewlines (c :: rest) = rest.length + 1
    · have second : c = Bytes.newline := by
        by_contra differs
        rw [trailingNewlines_cons, if_neg differs] at run
        split at run <;> omega
      have first : b ≠ Bytes.newline := fun equal => unpaired ⟨equal, second⟩
      rw [if_pos run, if_neg first, run]
    · rw [if_neg run]
  simp only [AtBoundary, same, List.cons_ne_nil]

/-- The last chunk is empty exactly at a boundary. -/
theorem getLast?_chunks_eq_nil_iff (bytes : Bytes) :
    (chunks bytes).getLast? = some [] ↔ AtBoundary bytes := by
  fun_induction chunks bytes with
  | case1 => simp [AtBoundary]
  | case2 b =>
      have run : ¬ AtBoundary [b] := by
        simp only [AtBoundary, trailingNewlines_cons, Nat.even_iff]
        split_ifs <;> simp_all [trailingNewlines]
      simpa using run
  | case3 b c rest pair ih =>
      obtain ⟨rfl, rfl⟩ := pair
      rw [atBoundary_pair, ← ih, List.getLast?_cons_of_ne_nil (chunks_ne_nil rest)]
  | case4 b c rest unpaired ih =>
      rw [atBoundary_cons_cons unpaired, ← ih]
      obtain ⟨first, others, cut⟩ := List.exists_cons_of_ne_nil (chunks_ne_nil (c :: rest))
      rw [cut, consByte]
      -- The byte changes the last chunk only where that is the first one too.
      cases others with
      | nil =>
          have whole : first = c :: rest := by
            have join := joined_chunks (c :: rest)
            rwa [cut] at join
          simp [whole]
      | cons next later => rw [List.getLast?_cons_cons, List.getLast?_cons_cons]

/-- A newline less or more at the end makes no whole pair: two newlines behind a byte that is none
are a boundary. -/
theorem atBoundary_append_pair {bytes : Bytes} (shut : ¬ [Bytes.newline] <:+ bytes) :
    AtBoundary (bytes ++ [Bytes.newline, Bytes.newline]) := by
  have run : trailingNewlines (bytes ++ [Bytes.newline, Bytes.newline]) = 2 := by
    unfold trailingNewlines
    rcases List.eq_nil_or_concat' bytes with rfl | ⟨front, last, rfl⟩
    · rfl
    · have differs : last ≠ Bytes.newline := by
        rintro rfl
        exact shut (List.suffix_append front [Bytes.newline])
      simp [differs]
  exact Or.inr (by rw [run]; decide)

/-! ## Cutting at a boundary -/

/-- The number of lines that chunks take up, the blank line behind each of them included. -/
def height : List Bytes → Nat
  | [] => 0
  | chunk :: rest => newlines chunk + 2 + height rest

/-- Chunks that are followed by others, with the blank line behind each of them. -/
def ended (chunks : List Bytes) : Bytes :=
  chunks.flatMap fun chunk => chunk ++ [Bytes.newline, Bytes.newline]

theorem joined_append {before after : List Bytes} (nonempty : after ≠ []) :
    joined (before ++ after) = ended before ++ joined after := by
  induction before with
  | nil => rfl
  | cons chunk rest ih =>
      have more : rest ++ after ≠ [] := List.append_ne_nil_of_right_ne_nil rest nonempty
      rw [List.cons_append, joined_cons more, ih]
      simp [ended]

theorem chunking_append {before after : List Bytes} (nonempty : after ≠ []) :
    Chunking (before ++ after) ↔ (∀ chunk ∈ before, Closed chunk) ∧ Chunking after := by
  induction before with
  | nil => simp
  | cons chunk rest ih =>
      have more : rest ++ after ≠ [] := List.append_ne_nil_of_right_ne_nil rest nonempty
      rw [List.cons_append, chunking_cons more, ih, List.forall_mem_cons, and_assoc]

theorem newlines_append (front back : Bytes) :
    newlines (front ++ back) = newlines front + newlines back :=
  List.count_append

theorem newlines_ended (chunks : List Bytes) : newlines (ended chunks) = height chunks := by
  induction chunks with
  | nil => rfl
  | cons chunk rest ih =>
      have split : ended (chunk :: rest) =
          chunk ++ [Bytes.newline, Bytes.newline] ++ ended rest := rfl
      rw [split, newlines_append, newlines_append, ih]
      rfl

/-- What is in front of a boundary are closed chunks, each with its blank line. -/
theorem exists_ended_of_atBoundary {bytes : Bytes} (boundary : AtBoundary bytes) :
    ∃ before, chunks bytes = before ++ [[]] ∧ bytes = ended before ∧
      ∀ chunk ∈ before, Closed chunk := by
  obtain ⟨before, cut⟩ :=
    List.getLast?_eq_some_iff.mp ((getLast?_chunks_eq_nil_iff bytes).mpr boundary)
  refine ⟨before, cut, ?_, ?_⟩
  · rw [← joined_chunks bytes, cut, joined_append (List.cons_ne_nil _ _), joined, List.append_nil]
  · have all : Chunking (before ++ [[]]) := cut ▸ chunking_chunks bytes
    exact ((chunking_append (List.cons_ne_nil _ _)).mp all).1

/-- Behind closed chunks with their blank lines the search begins afresh. -/
theorem chunks_ended_append {before : List Bytes} (closed : ∀ chunk ∈ before, Closed chunk)
    (bytes : Bytes) : chunks (ended before ++ bytes) = before ++ chunks bytes := by
  have all : Chunking (before ++ chunks bytes) :=
    (chunking_append (chunks_ne_nil bytes)).mpr ⟨closed, chunking_chunks bytes⟩
  have join : joined (before ++ chunks bytes) = ended before ++ bytes := by
    rw [joined_append (chunks_ne_nil bytes), joined_chunks]
  rw [← join, chunks_joined all]

end Intercept.Log
