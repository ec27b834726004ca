import Intercept.Proofs.Log.Chunking
import Mathlib.Algebra.Ring.Nat
import Mathlib.Data.List.SplitBy

/-!
# The search for blank lines

The chunks of a log can be found turn by turn: a turn looks for the first blank line in what is
left, cuts off what stands in front of it and goes on behind it, and where there is none the search
ends. In a run of three or more newlines the candidates overlap, and of each two that do the second
one is passed over. This module says that the search ends, after one turn for each whole pair of
newlines in each run, with the chunks of the log.

Results:
1. `chunks_eq_of_blankAt?`: the first blank line ends the first chunk.
2. `next?_eq_some`, `next?_eq_none`, `after?_of_length`: one turn, and all of them.
3. `pairs_run`, `length_chunks`: the number of chunks by the runs of newlines.
4. `chunks_canonical`: all of this together, with the chunks as the only chunking.
-/

namespace Intercept.Log

/-! ## Definitions -/

/-- Where the first two newlines side by side begin. -/
def blankAt? (bytes : Bytes) : Option Nat :=
  (bytes.zip bytes.tail).findIdx? (· = (Bytes.newline, Bytes.newline))

/-- A search under way: the chunks that were cut off, and what is left. -/
structure Search where
  cut : List Bytes
  rest : Bytes
  deriving DecidableEq, Repr

namespace Search

/-- The search before its first turn. -/
def start (bytes : Bytes) : Search := { cut := [], rest := bytes }

/-- One turn, if there is a blank line left. -/
def next? (search : Search) : Option Search :=
  (blankAt? search.rest).map fun place =>
    { cut := search.cut ++ [search.rest.take place], rest := search.rest.drop (place + 2) }

/-- Several turns, if there are blank lines for all of them. -/
def after? : Nat → Search → Option Search
  | 0, search => some search
  | turns + 1, search => search.next?.bind (after? turns)

/-- The chunks that were found, what is left being the last one. -/
def found (search : Search) : List Bytes := search.cut ++ [search.rest]

end Search

/-- The runs of newlines that go on in neither direction. -/
def newlineRuns (bytes : Bytes) : List Bytes :=
  (bytes.splitBy (· == ·)).filter (·.head? = some Bytes.newline)

/-- The number of pairs that the runs of newlines are made of, one newline left over in some. -/
def pairs (bytes : Bytes) : Nat := ((newlineRuns bytes).map (·.length / 2)).sum

/-! ## The first blank line -/

theorem blankAt?_cons_cons (b c : UInt8) (rest : Bytes) :
    blankAt? (b :: c :: rest) =
      if b = Bytes.newline ∧ c = Bytes.newline then some 0
      else (blankAt? (c :: rest)).map (· + 1) := by
  simp [blankAt?, List.findIdx?_cons]

/-- The first chunk ends at the first blank line, and the others are those of what stands behind. -/
theorem chunks_eq_of_blankAt? (bytes : Bytes) :
    chunks bytes = match blankAt? bytes with
      | none => [bytes]
      | some place => bytes.take place :: chunks (bytes.drop (place + 2)) := by
  fun_induction chunks bytes with
  | case1 => rfl
  | case2 => rfl
  | case3 b c rest pair =>
      rw [blankAt?_cons_cons, if_pos pair]
      rfl
  | case4 b c rest unpaired ih =>
      rw [blankAt?_cons_cons, if_neg unpaired, ih]
      cases blankAt? (c :: rest) <;> rfl

/-! ## The turns of a search -/

/-- A turn leaves one chunk less to be found, and together with those that were cut off the chunks
of what is left stay the same. -/
theorem next?_eq_some {search next : Search} (turn : search.next? = some next) :
    (chunks search.rest).length = (chunks next.rest).length + 1 ∧
      next.cut ++ chunks next.rest = search.cut ++ chunks search.rest := by
  obtain ⟨place, found, rfl⟩ := Option.map_eq_some_iff.mp turn
  rw [chunks_eq_of_blankAt? search.rest, found]
  simp

theorem next?_eq_none {search : Search} (ended : search.next? = none) :
    chunks search.rest = [search.rest] := by
  rw [chunks_eq_of_blankAt?, Option.map_eq_none_iff.mp ended]

/-- The search ends, and what it has found then are the chunks. -/
theorem after?_of_length {turns : Nat} {search : Search}
    (count : (chunks search.rest).length = turns + 1) :
    ∃ last, search.after? turns = some last ∧ last.next? = none ∧
      last.found = search.cut ++ chunks search.rest := by
  -- The chunks that are still to be found are what a turn lessens.
  induction turns generalizing search with
  | zero =>
      have ended : search.next? = none := by
        refine Option.eq_none_iff_forall_ne_some.mpr fun next turn => ?_
        have more := List.length_pos_iff.mpr (chunks_ne_nil next.rest)
        have fewer := (next?_eq_some turn).1
        omega
      exact ⟨search, rfl, ended, by rw [next?_eq_none ended, Search.found]⟩
  | succ turns ih =>
      cases turn : search.next? with
      | none =>
          rw [next?_eq_none turn, List.length_singleton] at count
          omega
      | some next =>
          obtain ⟨fewer, same⟩ := next?_eq_some turn
          have left : (chunks next.rest).length = turns + 1 := by omega
          obtain ⟨last, reached, ended, found⟩ := ih left
          exact ⟨last, by rw [Search.after?, turn, Option.bind_some, reached], ended,
            found.trans same⟩

/-! ## Runs of newlines -/

/-- Bytes that begin with a run of some length, be it none, of a byte. -/
theorem exists_run (b : UInt8) (bytes : Bytes) :
    ∃ length rest, bytes = List.replicate length b ++ rest ∧ rest.head? ≠ some b := by
  induction bytes with
  | nil => exact ⟨0, [], rfl, nofun⟩
  | cons c bytes ih =>
      by_cases equal : c = b
      · obtain ⟨length, rest, rfl, stops⟩ := ih
        exact ⟨length + 1, rest, by rw [equal, List.replicate_succ, List.cons_append], stops⟩
      · exact ⟨0, c :: bytes, rfl, by simpa using equal⟩

/-- A run at the front is told apart from what follows it. -/
theorem splitBy_run {b : UInt8} {length : Nat} (nonempty : 0 < length) {rest : Bytes}
    (stops : rest.head? ≠ some b) :
    (List.replicate length b ++ rest).splitBy (· == ·) =
      List.replicate length b :: rest.splitBy (· == ·) := by
  have run : (List.replicate length b).splitBy (· == ·) = [List.replicate length b] :=
    List.splitBy_of_isChain (by simpa using nonempty.ne')
      (List.isChain_replicate_of_rel length (beq_self_eq_true b))
  rw [List.splitBy_append, run, List.singleton_append]
  intro last atEnd first atStart
  have last_eq : last = b := List.eq_of_mem_replicate (List.mem_of_mem_getLast? atEnd)
  rw [last_eq, beq_eq_false_iff_ne]
  rintro rfl
  exact stops atStart

theorem pairs_run {b : UInt8} (length : Nat) {rest : Bytes} (stops : rest.head? ≠ some b) :
    pairs (List.replicate length b ++ rest) =
      (if b = Bytes.newline then length / 2 else 0) + pairs rest := by
  rcases Nat.eq_zero_or_pos length with rfl | nonempty
  · simp
  · have first : (List.replicate length b).head? = some b := by
      rw [List.head?_replicate, if_neg nonempty.ne']
    unfold pairs newlineRuns
    rw [splitBy_run nonempty stops]
    by_cases newline : b = Bytes.newline
    · subst newline
      rw [List.filter_cons_of_pos (by simpa using first), List.map_cons, List.sum_cons,
        List.length_replicate, if_pos rfl]
    · rw [List.filter_cons_of_neg (by simp [first, newline]), if_neg newline, Nat.zero_add]

/-- Two newlines in front are one pair more, whatever follows them. -/
theorem pairs_pair (rest : Bytes) :
    pairs (Bytes.newline :: Bytes.newline :: rest) = pairs rest + 1 := by
  -- They lengthen a run that may be empty.
  obtain ⟨length, behind, rfl, stops⟩ := exists_run Bytes.newline rest
  have longer := pairs_run (length + 2) stops
  rw [List.replicate_succ, List.replicate_succ, List.cons_append, List.cons_append] at longer
  rw [longer, pairs_run length stops, if_pos rfl, if_pos rfl]
  omega

/-- A byte that pairs up with nothing makes no pair. -/
theorem pairs_cons_cons {b c : UInt8} {rest : Bytes}
    (unpaired : ¬ (b = Bytes.newline ∧ c = Bytes.newline)) :
    pairs (b :: c :: rest) = pairs (c :: rest) := by
  obtain ⟨length, behind, cut, stops⟩ := exists_run b (c :: rest)
  have longer := pairs_run (length + 1) stops
  rw [List.replicate_succ, List.cons_append, ← cut] at longer
  rw [longer, cut, pairs_run length stops]
  by_cases newline : b = Bytes.newline
  · -- The next byte is none, so that the run is this one newline.
    have alone : length = 0 := by
      cases length with
      | zero => rfl
      | succ more =>
          rw [List.replicate_succ, List.cons_append, List.cons.injEq] at cut
          exact absurd ⟨newline, cut.1.trans newline⟩ unpaired
    rw [alone]
  · rw [if_neg newline, if_neg newline]

/-- There is one chunk more than there are pairs. -/
theorem length_chunks (bytes : Bytes) : (chunks bytes).length = 1 + pairs bytes := by
  fun_induction chunks bytes with
  | case1 => rfl
  | case2 b =>
      have stops : ([] : Bytes).head? ≠ some b := (Option.some_ne_none b).symm
      have single := pairs_run 1 stops
      rw [List.append_nil, List.replicate_one] at single
      rw [single, List.length_singleton]
      split <;> rfl
  | case3 b c rest pair ih =>
      rw [pair.1, pair.2, pairs_pair, List.length_cons, ih, Nat.add_assoc]
  | case4 b c rest unpaired ih =>
      obtain ⟨first, others, cut⟩ := List.exists_cons_of_ne_nil (chunks_ne_nil (c :: rest))
      rw [pairs_cons_cons unpaired, ← ih, cut]
      rfl

/-- The search for blank lines computes the only chunking. It ends, after one turn for each pair in
each run of newlines, and has found the chunks then. They are at least one, they are the log when
they are joined by blank lines, none of them holds a blank line and none but the last ends in a
newline; no other list of byte strings is like this. There is one more of them than there are pairs,
and the last one is empty exactly if the log is empty or the run of newlines at its end is one of
whole pairs. -/
theorem chunks_canonical (bytes : Bytes) :
    let turns := ((newlineRuns bytes).map (·.length / 2)).sum
    (∃ last, (Search.start bytes).after? turns = some last ∧ last.next? = none ∧
      last.found = chunks bytes) ∧
    (chunks bytes ≠ [] ∧ joined (chunks bytes) = bytes ∧
      (∀ chunk ∈ chunks bytes, ¬ [Bytes.newline, Bytes.newline] <:+: chunk) ∧
      ∀ chunk ∈ (chunks bytes).dropLast, ¬ [Bytes.newline] <:+ chunk) ∧
    (∀ parts, parts ≠ [] → joined parts = bytes →
      (∀ part ∈ parts, ¬ [Bytes.newline, Bytes.newline] <:+: part) →
      (∀ part ∈ parts.dropLast, ¬ [Bytes.newline] <:+ part) → parts = chunks bytes) ∧
    (chunks bytes).length = 1 + turns ∧
    ((chunks bytes).getLast? = some [] ↔
      bytes = [] ∨ 0 < trailingNewlines bytes ∧ Even (trailingNewlines bytes)) := by
  intro turns
  have chunking := chunking_chunks bytes
  have count : (chunks bytes).length = 1 + turns := length_chunks bytes
  refine ⟨?_, ⟨chunking.ne_nil, joined_chunks bytes, chunking.not_blank, chunking.not_open⟩, ?_,
    count, getLast?_chunks_eq_nil_iff bytes⟩
  · have enough : (chunks (Search.start bytes).rest).length = turns + 1 :=
      count.trans (Nat.add_comm 1 turns)
    exact after?_of_length enough
  · rintro parts nonempty rfl whole shut
    exact (chunks_joined ⟨nonempty, whole, shut⟩).symm

/-- Of the two ways to pair up three newlines the first one is found, and the newline that is left
over begins the next chunk. -/
theorem chunks_canonical_three_newlines :
    let bytes : Bytes := [0x61, 0x0A, 0x0A, 0x0A, 0x62]
    (Search.start bytes).after? 1 = some ⟨[[0x61]], [0x0A, 0x62]⟩ ∧
      chunks bytes = [[0x61], [0x0A, 0x62]] ∧ chunks bytes ≠ [[0x61, 0x0A], [0x62]] := by
  intro bytes
  have found : [[0x61], [0x0A, 0x62]] = chunks bytes :=
    (chunks_canonical bytes).2.2.1 _ (List.cons_ne_nil _ _) rfl (by decide) (by decide)
  exact ⟨by decide, found.symm, by rw [← found]; decide⟩

end Intercept.Log
