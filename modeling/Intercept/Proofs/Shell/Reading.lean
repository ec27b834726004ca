import Intercept.Proofs.Words
import Intercept.Shell.Reader.Words
import Mathlib.Data.List.TakeDrop
import Mathlib.Data.List.TakeWhile

/-!
# The words of a command line, as the shell reads them

A shell reads a word part by part, and takes what stands between quotes as a part of its own. A
token that is written into a command line is harmless outside quotes, and between them holds nothing
that means anything there, so it is read as the one word that it is, up to the blank behind it. The
lines that end inside quotes are counted.

Results:
1. `readParts_quotes`: what stands between quotes is plain bytes.
2. `readParts_written`: a token as it is written is read as `wordOf` says.
-/

namespace Intercept.Shell

open Invocation (written IsPlain)

/-! ## Definitions -/

/-- The reader behind some of its text, in which so many lines have ended. -/
def Source.behind (s : Source) (rest : Bytes) (lines : Nat) : Source :=
  { s with rest, line := s.line + lines }

theorem Source.behind_behind (s : Source) (first second : Bytes) (lines more : Nat) :
    (s.behind first lines).behind second more = s.behind second (lines + more) := by
  unfold Source.behind
  rw [Nat.add_assoc]

/-- The word that a token is read as. -/
def wordOf (token : Bytes) : Word :=
  match Define.value? token with
  | some value => [.plain Define.marker, .quoted [.plain (value ++ [Bytes.space])]]
  | none => [.plain token]

/-- A word of plain bytes, which has no part if there are none. -/
def plainWord (bytes : Bytes) : Word := if bytes = [] then [] else [.plain bytes]

theorem consPart_plainWord {front : Bytes} (nonempty : front ≠ []) (back : Bytes) :
    consPart (.plain front) (plainWord back) = plainWord (front ++ back) := by
  unfold plainWord
  rw [if_neg (List.append_ne_nil_of_left_ne_nil nonempty back)]
  split
  · next empty =>
    rw [empty, List.append_nil]
    rfl
  · rfl

namespace Reader

/-! ## Single steps -/

variable {α β : Type}

/-- What is done behind a step that has succeeded. -/
theorem bind_eq {m : Reader α} {s s' : Source} {a : α} (step : m s = .ok (a, s'))
    (f : α → Reader β) : (m >>= f) s = f a s' := by
  show (m s >>= fun (a, s') => f a s') = f a s'
  rw [step]
  rfl

theorem get_bind (f : Source → Reader β) (s : Source) : (get >>= f) s = f s s := rfl

theorem modify_bind (change : Source → Source) (f : Unit → Reader β) (s : Source) :
    (modify change >>= f) s = f () (change s) := rfl

/-- The next byte of a text, unless it may join two lines. -/
theorem next_eq (s : Source) (goesOn : s.ended = false) {b : UInt8} {rest : Bytes}
    (front : s.rest = b :: rest) (single : b ≠ 0x5C) : next s = .ok (some b, s) := by
  have notJoined : behindJoined s.rest s.line = (s.rest, s.line) := by
    rw [front, behindJoined]
    rintro after ⟨⟩
    exact single rfl
  have head : s.rest.head? = some b := congrArg List.head? front
  unfold next
  rw [get_bind, if_neg (by simp [goesOn])]
  simp only [notJoined]
  exact congrArg (fun head => Except.ok (head, s)) head

theorem next_nil (s : Source) (goesOn : s.ended = false) (empty : s.rest = []) :
    next s = .ok (none, s) := by
  have notJoined : behindJoined s.rest s.line = (s.rest, s.line) := by
    rw [empty, behindJoined]
    exact nofun
  have head : s.rest.head? = none := congrArg List.head? empty
  unfold next
  rw [get_bind, if_neg (by simp [goesOn])]
  simp only [notJoined]
  exact congrArg (fun head => Except.ok (head, s)) head

theorem skip_eq {s : Source} {b : UInt8} {rest : Bytes} (front : s.rest = b :: rest) :
    skip s = .ok ((), s.behind rest (if b = Bytes.newline then 1 else 0)) := by
  simp only [skip, modify, modifyGet, MonadStateOf.modifyGet, StateT.modifyGet, front]
  split <;> rfl

theorem takeRun_eq {s : Source} {property : UInt8 → Bool} {run rest : Bytes}
    (front : s.rest = run ++ rest) (all : ∀ b ∈ run, property b)
    (ends : ∀ b ∈ rest.head?, property b = false) :
    takeRun property s = .ok (run, s.behind rest 0) := by
  have stops : rest.takeWhile property = [] ∧ rest.dropWhile property = rest := by
    cases rest with
    | nil => exact ⟨rfl, rfl⟩
    | cons b rest =>
        have other : property b = false := ends b rfl
        exact ⟨by simp [other], by simp [other]⟩
  have span : s.rest.span property = (run, rest) := by
    rw [front, List.span_eq_takeWhile_dropWhile, List.takeWhile_append_of_pos all,
      List.dropWhile_append_of_pos all, stops.1, stops.2, List.append_nil]
  unfold takeRun
  simp only [get_bind, span]
  rfl

theorem beginLine_eq {s : Source} (noDocument : s.mark = none) : beginLine s = .ok ((), s) := by
  unfold beginLine
  rw [get_bind]
  simp only [noDocument]
  rfl

/-! ## Parts of a word -/

variable (readers : CommandReaders)

theorem readPart_ordinary {mode : Mode} {b : UInt8} (ordinary : mode.isOrdinary b)
    {s s' : Source} {run : Bytes} (taken : takeRun mode.isOrdinary s = .ok (run, s')) (fuel : Nat) :
    readPart readers (fuel + 1) mode b s = .ok (.plain run, s') := by
  rw [readPart, if_pos ordinary, bind_eq taken]
  rfl

/-- Between quotes a newline stands for itself, outside of documents. -/
theorem readPart_newline {s : Source} {rest : Bytes} (front : s.rest = Bytes.newline :: rest)
    (noDocument : s.mark = none) (fuel : Nat) :
    readPart readers (fuel + 1) .quotes Bytes.newline s =
      .ok (.plain [Bytes.newline], s.behind rest 1) := by
  rw [readPart, if_neg (by decide), get_bind, bind_eq (skip_eq front), if_pos rfl]
  have begun : beginLine (s.behind rest 1) = .ok ((), s.behind rest 1) := beginLine_eq noDocument
  exact bind_eq begun _

theorem readPart_brace {s : Source} {rest : Bytes} (front : s.rest = 0x7D :: rest) (fuel : Nat) :
    readPart readers (fuel + 1) .quotes 0x7D s = .ok (.plain [0x7D], s.behind rest 0) := by
  rw [readPart, if_neg (by decide), get_bind, bind_eq (skip_eq front)]
  rfl

/-- A part at the front, and the parts behind it, in a mode that goes on. -/
theorem readParts_cons {mode : Mode} (noSum : ∀ depth, mode ≠ .sum depth) {s s' s'' : Source}
    {b : UInt8} (front : next s = .ok (some b, s)) (goesOn : ¬ mode.endsAt b) {fuel : Nat}
    {part : Part} {parts : Word} (first : readPart readers fuel mode b s = .ok (part, s'))
    (others : readParts readers fuel mode s' = .ok (parts, s'')) :
    readParts readers (fuel + 1) mode s = .ok (consPart part parts, s'') := by
  rw [readParts, bind_eq front]
  simp only [if_neg goesOn]
  rw [if_neg fun sum => noSum 0 sum.1, bind_eq first]
  split
  · exact absurd rfl (noSum _)
  · exact absurd rfl (noSum _)
  · rw [bind_eq others]
    rfl

theorem eq_of_not_isOrdinary {b : UInt8} (literal : b ∉ Words.special)
    (other : ¬ Mode.quotes.isOrdinary b) : b = Bytes.newline ∨ b = 0x7D := by
  have signs : Bytes.ofString "\\\"`$\x7d\n" = [0x5C, 0x22, 0x60, 0x24, 0x7D, 0x0A] := by decide
  have member : b ∈ ([0x5C, 0x22, 0x60, 0x24, 0x7D, 0x0A] : Bytes) := by
    rw [← signs]
    simpa only [Mode.isOrdinary, Bool.not_eq_true', Bool.not_eq_false, List.contains_iff_mem]
      using other
  simp only [Words.special, List.mem_cons, List.not_mem_nil, or_false, not_or] at literal member
  obtain ⟨noQuote, noDollar, noBackquote, noBackslash, -⟩ := literal
  rcases member with h | h | h | h | h | h
  · exact absurd h noBackslash
  · exact absurd h noQuote
  · exact absurd h noBackquote
  · exact absurd h noDollar
  · exact Or.inr h
  · exact Or.inl h

/-- Between quotes a part of plain bytes is taken, up to the next byte that is taken by itself. -/
theorem exists_readPart_quotes {b : UInt8} {value : Bytes}
    (literal : ∀ c ∈ b :: value, c ∉ Words.special) {s : Source} {rest : Bytes}
    (front : s.rest = b :: value ++ Bytes.quote :: rest) (noDocument : s.mark = none)
    (fuel : Nat) :
    ∃ run later, b :: value = run ++ later ∧ run ≠ [] ∧
      readPart readers (fuel + 1) .quotes b s =
        .ok (.plain run, s.behind (later ++ Bytes.quote :: rest) (run.count Bytes.newline)) := by
  by_cases ordinary : Mode.quotes.isOrdinary b
  · have cut := (List.takeWhile_append_dropWhile
      (p := Mode.quotes.isOrdinary) (l := b :: value)).symm
    have taken : ∀ c ∈ (b :: value).takeWhile Mode.quotes.isOrdinary, Mode.quotes.isOrdinary c :=
      fun c member => List.mem_takeWhile_imp member
    have noNewline : ((b :: value).takeWhile Mode.quotes.isOrdinary).count Bytes.newline = 0 :=
      List.count_eq_zero.mpr fun member => absurd (taken _ member) (by decide)
    refine ⟨_, _, cut, by simp [ordinary], ?_⟩
    rw [noNewline]
    refine readPart_ordinary readers ordinary (takeRun_eq ?_ taken ?_) fuel
    · rw [front, ← List.append_assoc, ← cut]
    · intro c isHead
      have stops := List.head?_dropWhile_not Mode.quotes.isOrdinary (b :: value)
      cases left : (b :: value).dropWhile Mode.quotes.isOrdinary with
      | nil =>
          rw [left] at isHead
          obtain rfl : Bytes.quote = c := Option.some.inj isHead
          decide
      | cons d later =>
          rw [left] at isHead stops
          obtain rfl : d = c := Option.some.inj isHead
          exact stops
  · rcases eq_of_not_isOrdinary (literal b List.mem_cons_self) ordinary with rfl | rfl
    · exact ⟨[Bytes.newline], value, rfl, List.cons_ne_nil _ _,
        readPart_newline readers front noDocument fuel⟩
    · exact ⟨[0x7D], value, rfl, List.cons_ne_nil _ _, readPart_brace readers front fuel⟩

/-- What stands between quotes is read up to the quote that ends it, newlines and all. -/
theorem readParts_quotes {value : Bytes} (literal : ∀ b ∈ value, b ∉ Words.special) (s : Source)
    {rest : Bytes} (front : s.rest = value ++ Bytes.quote :: rest) (goesOn : s.ended = false)
    (noDocument : s.mark = none) {fuel : Nat} (enough : value.length + 2 ≤ fuel) :
    readParts readers fuel .quotes s =
      .ok (plainWord value, s.behind rest (value.count Bytes.newline)) := by
  induction fuel generalizing value s with
  | zero => omega
  | succ fuel ih =>
      cases value with
      | nil =>
          rw [readParts, bind_eq (next_eq s goesOn front (by decide))]
          show (skip >>= fun _ => pure []) s = _
          rw [bind_eq (skip_eq front)]
          rfl
      | cons b value =>
          have seen : next s = .ok (some b, s) := by
            refine next_eq s goesOn front ?_
            rintro rfl
            exact literal _ List.mem_cons_self (by decide)
          have inside : ¬ Mode.quotes.endsAt b := by
            intro ends
            obtain rfl : b = Bytes.quote := of_decide_eq_true ends
            exact literal _ List.mem_cons_self (by decide)
          rw [List.length_cons] at enough
          obtain ⟨fuel, rfl⟩ : ∃ n, fuel = n + 1 := ⟨fuel - 1, by omega⟩
          obtain ⟨run, later, cut, nonempty, first⟩ :=
            exists_readPart_quotes readers literal front noDocument fuel
          have shorter : later.length ≤ value.length := by
            have lengths := congrArg List.length cut
            rw [List.length_cons, List.length_append] at lengths
            have := List.length_pos_iff.mpr nonempty
            omega
          have others := ih (fun c member => literal c (cut ▸ List.mem_append_right run member))
            (s.behind (later ++ Bytes.quote :: rest) (run.count Bytes.newline)) rfl goesOn
            noDocument (by omega)
          rw [readParts_cons readers (by simp) seen inside first others,
            consPart_plainWord nonempty, Source.behind_behind, cut, List.count_append]

/-! ## Words of a command line -/

/-- The bytes that mean something outside quotes. -/
def meanings : Bytes :=
  [Bytes.space, Bytes.tab, Bytes.newline] ++ Bytes.ofString ";&|<>()" ++ Bytes.ofString "\\'\"`$"

theorem isOrdinary_word_iff {b : UInt8} : Mode.word.isOrdinary b ↔ b ∉ meanings := by
  simp [Mode.isOrdinary, Mode.isMeta, isBlank, meanings, and_assoc]

theorem not_mem_meanings {b : UInt8} (safe : Words.isSafe b) : b ∉ meanings := by
  have meant : ∀ c ∈ meanings, ¬ Words.isSafe c := List.any_eq_false.mp (by decide)
  exact fun member => meant b member safe

theorem isSafe_of_mem_marker : ∀ b ∈ Define.marker, Words.isSafe b :=
  List.all_eq_true.mp (by decide)

/-- The blank behind a word ends it, and is not taken. -/
theorem readParts_end (s : Source) {rest : Bytes} (front : s.rest = Bytes.space :: rest)
    (goesOn : s.ended = false) (fuel : Nat) :
    readParts readers (fuel + 1) .word s = .ok ([], s) := by
  rw [readParts, bind_eq (next_eq s goesOn front (by decide))]
  rfl

theorem readPart_quote {s s' : Source} {rest : Bytes} (front : s.rest = Bytes.quote :: rest)
    {parts : Word} {fuel : Nat}
    (inside : readParts readers fuel .quotes (s.behind rest 0) = .ok (parts, s')) :
    readPart readers (fuel + 1) .word Bytes.quote s = .ok (.quoted parts, s') := by
  rw [readPart, if_neg (by decide), get_bind, bind_eq (skip_eq front)]
  exact bind_eq inside _

/-- Safe bytes are taken at once, up to a byte that means something. -/
theorem readParts_safe {word : Bytes} (nonempty : word ≠ []) (safe : ∀ b ∈ word, Words.isSafe b)
    {s s' : Source} {b : UInt8} {rest : Bytes} (front : s.rest = word ++ b :: rest)
    (ends : b ∈ meanings) (goesOn : s.ended = false) {fuel : Nat} {parts : Word}
    (others : readParts readers (fuel + 1) .word (s.behind (b :: rest) 0) = .ok (parts, s')) :
    readParts readers (fuel + 2) .word s = .ok (consPart (.plain word) parts, s') := by
  have ordinary : ∀ c ∈ word, Mode.word.isOrdinary c :=
    fun c member => isOrdinary_word_iff.mpr (not_mem_meanings (safe c member))
  obtain ⟨first, word, rfl⟩ := List.exists_cons_of_ne_nil nonempty
  have plain : first ∉ meanings := not_mem_meanings (safe first List.mem_cons_self)
  have seen : next s = .ok (some first, s) := by
    refine next_eq s goesOn front ?_
    rintro rfl
    exact plain (by decide)
  have inside : ¬ Mode.word.endsAt first := by
    intro isEnd
    refine plain ?_
    simp only [Mode.endsAt, Mode.isMeta, isBlank, Bool.or_eq_true, decide_eq_true_eq,
      List.contains_iff_mem] at isEnd
    simp only [meanings, List.mem_append, List.mem_cons, List.not_mem_nil, or_false]
    exact Or.inl (isEnd.imp_left or_assoc.mp)
  refine readParts_cons readers (by simp) seen inside
    (readPart_ordinary readers (ordinary first List.mem_cons_self)
      (takeRun_eq front ordinary ?_) fuel) others
  intro c isHead
  obtain rfl : b = c := Option.some.inj isHead
  exact Bool.eq_false_iff.mpr fun other => isOrdinary_word_iff.mp other ends

/-- A define is read as its marker and what stands between its quotes. -/
theorem readParts_define {value : Bytes} (plain : ∀ b ∈ value, b ∉ Words.special) (s : Source)
    {rest : Bytes} (front : s.rest = Define.quoted value ++ Bytes.space :: rest)
    (goesOn : s.ended = false) (noDocument : s.mark = none) {fuel : Nat}
    (enough : value.length + 6 ≤ fuel) :
    readParts readers fuel .word s =
      .ok ([.plain Define.marker, .quoted [.plain (value ++ [Bytes.space])]],
        s.behind (Bytes.space :: rest) (value.count Bytes.newline)) := by
  obtain ⟨fuel, rfl⟩ : ∃ n, fuel = n + 4 := ⟨fuel - 4, by omega⟩
  let text := value ++ [Bytes.space]
  have literal : ∀ b ∈ text, b ∉ Words.special := by
    intro b member
    rcases List.mem_append.mp member with inValue | blank
    · exact plain b inValue
    · rw [List.mem_singleton.mp blank]
      decide
  have front : s.rest = Define.marker ++ Bytes.quote :: (text ++ Bytes.quote ::
      Bytes.space :: rest) := by
    rw [front]
    simp [Define.quoted, text]
  let behindMarker := s.behind (Bytes.quote :: (text ++ Bytes.quote :: Bytes.space :: rest)) 0
  let inQuotes := behindMarker.behind (text ++ Bytes.quote :: Bytes.space :: rest) 0
  let behindQuotes := inQuotes.behind (Bytes.space :: rest) (text.count Bytes.newline)
  have seen : next behindMarker = .ok (some Bytes.quote, behindMarker) :=
    next_eq behindMarker goesOn rfl (by decide)
  have quotes : readParts readers (fuel + 1) .quotes inQuotes =
      .ok (plainWord text, behindQuotes) := by
    refine readParts_quotes readers literal inQuotes rfl goesOn noDocument ?_
    rw [List.length_append, List.length_singleton]
    omega
  have ended : readParts readers (fuel + 2) .word behindQuotes = .ok ([], behindQuotes) :=
    readParts_end readers behindQuotes rfl goesOn (fuel + 1)
  have others : readParts readers (fuel + 3) .word behindMarker =
      .ok ([.quoted (plainWord text)], behindQuotes) :=
    readParts_cons readers (by simp) seen (by decide)
      (readPart_quote readers rfl quotes) ended
  have whole : plainWord text = [.plain text] := if_neg (List.concat_ne_nil _ _)
  have lines : text.count Bytes.newline = value.count Bytes.newline :=
    List.count_append.trans (Nat.add_zero _)
  rw [readParts_safe readers (by decide) isSafe_of_mem_marker front (by decide) goesOn others,
    whole]
  simp only [behindQuotes, inQuotes, behindMarker, Source.behind_behind, Nat.zero_add, lines]
  rfl

/-- A plain token as it is written, with a blank behind it. -/
theorem readParts_written {token : Bytes} (plain : IsPlain token) (s : Source) {rest : Bytes}
    (front : s.rest = written token ++ Bytes.space :: rest) (goesOn : s.ended = false)
    (noDocument : s.mark = none) {fuel : Nat} (enough : token.length + 6 ≤ fuel) :
    readParts readers fuel .word s =
      .ok (wordOf token, s.behind (Bytes.space :: rest) (token.count Bytes.newline)) := by
  unfold wordOf
  cases define : Define.value? token with
  | none =>
      obtain ⟨fuel, rfl⟩ : ∃ n, fuel = n + 4 := ⟨fuel - 4, by omega⟩
      rw [IsPlain, define] at plain
      have noNewline : token.count Bytes.newline = 0 :=
        List.count_eq_zero.mpr fun member => not_mem_meanings (plain.2 _ member) (by decide)
      rw [Invocation.written_of_value?_eq_none define] at front
      rw [noNewline, readParts_safe readers plain.1 plain.2 front (by decide) goesOn
        (readParts_end readers (s.behind (Bytes.space :: rest) 0) rfl goesOn (fuel + 2))]
      rfl
  | some value =>
      rw [IsPlain, define] at plain
      rw [Invocation.written_of_value?_eq_some define] at front
      have whole : token = Define.marker ++ value := Bytes.eq_append_of_dropStart? define
      have lines : token.count Bytes.newline = value.count Bytes.newline := by
        have noNewline : Define.marker.count Bytes.newline = 0 := by decide
        rw [whole, List.count_append, noNewline, Nat.zero_add]
      rw [whole, List.length_append] at enough
      rw [lines]
      exact readParts_define readers plain s front goesOn noDocument (by omega)

end Reader

end Intercept.Shell
