import Intercept.Proofs.Invocation

/-!
# A command line, taken apart again

The command line of an invocation is taken apart by a command interpreter. Of the interpreter's rules
those matter here that apply to harmless bytes: outside of quotes blanks end a word, a double quote
begins or ends a quoted part and is removed, and between quotes every byte stands for itself. This
module reads the words of a command line by these rules and compares them with the tokens that it
was assembled from.

Results:
1. `run_word`, `run_written`: a reader between two words reads one token, and is between two words
   again.
2. `ofLine_command`: the words are the host and the tokens, a define's value being one blank longer.
3. `forwardedAll?_eq`: through several traps it grows by a blank for each of them.
4. `words_of_command`: all of this together.
-/

namespace Intercept

/-! ## Definitions -/

namespace Words

/-- Where a reader of words stands: the words behind it, the word that it is in, if it is in one,
and whether it is between quotes. -/
structure Reader where
  behind : List Bytes
  word : Option Bytes
  quoted : Bool
  deriving DecidableEq, Repr

/-- A reader behind some words and in front of the next one. -/
def Reader.between (behind : List Bytes) : Reader := { behind, word := none, quoted := false }

def Reader.step (reader : Reader) (b : UInt8) : Reader :=
  if b = Bytes.quote then
    { reader with word := some (reader.word.getD []), quoted := !reader.quoted }
  else if b = Bytes.space ∧ reader.quoted = false then
    Reader.between (reader.behind ++ reader.word.toList)
  else { reader with word := some (reader.word.getD [] ++ [b]) }

def Reader.run (reader : Reader) (bytes : Bytes) : Reader := bytes.foldl Reader.step reader

/-- The words of a line, unless a quote is left open in it. -/
def ofLine (line : Bytes) : Option (List Bytes) :=
  let reader := (Reader.between []).run line
  if reader.quoted then none else some (reader.behind ++ reader.word.toList)

/-- A byte that means nothing to a command interpreter: a letter or a digit, one of some marks, or
no ASCII at all. -/
def isSafe (b : UInt8) : Bool :=
  (Bytes.asChar b).isAlphanum ||
    (Bytes.ofChars ['_', '-', '.', '/', '=', '+', ':', ',', '@', '%']).contains b || 0x80 ≤ b

/-- The bytes that a quoted value cannot hold as they are: the double quote, the dollar sign, the
backquote, the backslash and NUL. -/
def special : Bytes := [Bytes.quote, 0x24, 0x60, 0x5C, 0x00]

end Words

namespace Invocation

/-- A host that is one word, and no assignment. -/
structure IsPlainHost (host : Bytes) : Prop where
  ne_nil : host ≠ []
  safe : ∀ b ∈ host, Words.isSafe b
  not_assignment : Bytes.equalsSign ∉ host

/-- A token that a command interpreter reads as it stands, once its value is quoted if it is the
define. -/
def IsPlain (token : Bytes) : Prop :=
  match Define.value? token with
  | some value => ∀ b ∈ value, b ∉ Words.special
  | none => token ≠ [] ∧ ∀ b ∈ token, Words.isSafe b

instance (host : Bytes) : Decidable (IsPlainHost host) :=
  decidable_of_iff (host ≠ [] ∧ host.all Words.isSafe ∧ Bytes.equalsSign ∉ host)
    ⟨fun ⟨nonempty, safe, plain⟩ => ⟨nonempty, List.all_eq_true.mp safe, plain⟩,
      fun ⟨nonempty, safe, plain⟩ => ⟨nonempty, List.all_eq_true.mpr safe, plain⟩⟩

instance (token : Bytes) : Decidable (IsPlain token) :=
  match define : Define.value? token with
  | some value => decidable_of_iff (value.all (· ∉ Words.special)) (by simp [IsPlain, define])
  | none =>
    decidable_of_iff (token ≠ [] ∧ token.all Words.isSafe) (by simp [IsPlain, define])

/-- The token with blanks behind its value, if it is the define. -/
def padded (blanks : Nat) (token : Bytes) : Bytes :=
  if (Define.value? token).isSome then token ++ List.replicate blanks Bytes.space else token

/-- What a command line passes on to the program that its first word names. -/
def forwarded? (host : Bytes) (names : Bytes → Bool) (tokens : List Bytes) :
    Option (List Bytes) :=
  (Words.ofLine (assemble host names tokens).command).bind List.tail?

/-- What is passed on by the last of several traps, each of which is given what the one before it
passes on. -/
def forwardedAll? : List (Bytes × (Bytes → Bool)) → List Bytes → Option (List Bytes)
  | [], tokens => some tokens
  | (host, names) :: rest, tokens => (forwarded? host names tokens).bind (forwardedAll? rest)

end Invocation

/-! ## Reading a word -/

namespace Words

theorem ne_quote_of_isSafe {b : UInt8} (safe : isSafe b) : b ≠ Bytes.quote := by
  rintro rfl
  exact absurd safe (by decide)

theorem ne_space_of_isSafe {b : UInt8} (safe : isSafe b) : b ≠ Bytes.space := by
  rintro rfl
  exact absurd safe (by decide)

namespace Reader

theorem run_cons (reader : Reader) (b : UInt8) (rest : Bytes) :
    reader.run (b :: rest) = (reader.step b).run rest := rfl

theorem run_append (reader : Reader) (front back : Bytes) :
    reader.run (front ++ back) = (reader.run front).run back :=
  List.foldl_append

/-- Inside a word bytes are taken as they are, and blanks are if they stand between quotes. -/
theorem run_inside (quoted : Bool) {bytes : Bytes} (literal : Bytes.quote ∉ bytes)
    (whole : quoted = false → Bytes.space ∉ bytes) (behind : List Bytes) (word : Bytes) :
    run ⟨behind, some word, quoted⟩ bytes = ⟨behind, some (word ++ bytes), quoted⟩ := by
  induction bytes generalizing word with
  | nil => simp [run]
  | cons b rest ih =>
      have noQuote : b ≠ Bytes.quote := (List.ne_of_not_mem_cons literal).symm
      have noBreak : ¬ (b = Bytes.space ∧ quoted = false) := by
        rintro ⟨blank, unquoted⟩
        exact whole unquoted (blank ▸ List.mem_cons_self)
      have first : step ⟨behind, some word, quoted⟩ b = ⟨behind, some (word ++ [b]), quoted⟩ := by
        simp [step, noQuote, noBreak]
      have later := ih (List.not_mem_of_not_mem_cons literal)
        (fun unquoted => List.not_mem_of_not_mem_cons (whole unquoted)) (word ++ [b])
      rw [run_cons, first, later, List.append_assoc, List.singleton_append]

/-- A quote in a word begins or ends a quoted part of it. -/
theorem step_quote (behind : List Bytes) (word : Bytes) (quoted : Bool) :
    step ⟨behind, some word, quoted⟩ Bytes.quote = ⟨behind, some word, !quoted⟩ := rfl

theorem step_space (behind : List Bytes) (word : Bytes) :
    step ⟨behind, some word, false⟩ Bytes.space = between (behind ++ [word]) := rfl

/-- Bytes in front of which no word has begun begin one. -/
theorem run_begin {bytes : Bytes} (nonempty : bytes ≠ []) (literal : Bytes.quote ∉ bytes)
    (whole : Bytes.space ∉ bytes) (behind : List Bytes) :
    (between behind).run bytes = ⟨behind, some bytes, false⟩ := by
  obtain ⟨b, rest, rfl⟩ := List.exists_cons_of_ne_nil nonempty
  have noQuote : b ≠ Bytes.quote := (List.ne_of_not_mem_cons literal).symm
  have noBlank : b ≠ Bytes.space := (List.ne_of_not_mem_cons whole).symm
  have first : step (between behind) b = ⟨behind, some [b], false⟩ := by
    simp [step, between, noQuote, noBlank]
  rw [run_cons, first]
  exact run_inside false (List.not_mem_of_not_mem_cons literal)
    (fun _ => List.not_mem_of_not_mem_cons whole) behind [b]

/-- A word without quotes and the blank behind it. -/
theorem run_word {word : Bytes} (nonempty : word ≠ []) (literal : Bytes.quote ∉ word)
    (whole : Bytes.space ∉ word) (behind : List Bytes) :
    (between behind).run (word ++ [Bytes.space]) = between (behind ++ [word]) := by
  rw [run_append, run_begin nonempty literal whole]
  exact step_space behind word

/-- The define as it is written, and the blank behind it. The blanks of its value do not end the
word, since they stand between quotes. -/
theorem run_define {value : Bytes} (literal : Bytes.quote ∉ value) (behind : List Bytes) :
    (between behind).run (Define.quoted value ++ [Bytes.space]) =
      between (behind ++ [Define.marker ++ (value ++ [Bytes.space])]) := by
  have parts : Define.quoted value ++ [Bytes.space] =
      Define.marker ++ ([Bytes.quote] ++ ((value ++ [Bytes.space]) ++
        ([Bytes.quote] ++ [Bytes.space]))) := by
    simp [Define.quoted]
  have literal' : Bytes.quote ∉ value ++ [Bytes.space] := by
    rw [List.mem_append, List.mem_singleton]
    exact not_or.mpr ⟨literal, by decide⟩
  have opened : run ⟨behind, some Define.marker, false⟩ [Bytes.quote] =
      ⟨behind, some Define.marker, true⟩ := step_quote behind Define.marker false
  have inside : run ⟨behind, some Define.marker, true⟩ (value ++ [Bytes.space]) =
      ⟨behind, some (Define.marker ++ (value ++ [Bytes.space])), true⟩ :=
    run_inside true literal' (fun unquoted => absurd unquoted (by decide)) behind Define.marker
  rw [parts, run_append, run_begin (by decide) (by decide) (by decide), run_append, opened,
    run_append, inside]
  rfl

end Reader

end Words

/-! ## Tokens with blanks behind their values -/

namespace Invocation

theorem padded_marker_append (blanks : Nat) (value : Bytes) :
    padded blanks (Define.marker ++ value) =
      Define.marker ++ (value ++ List.replicate blanks Bytes.space) := by
  simp [padded, Define.value?, Bytes.dropStart?_append]

theorem padded_of_value?_eq_none {token : Bytes} (other : Define.value? token = none)
    (blanks : Nat) : padded blanks token = token := by
  simp [padded, other]

theorem padded_zero : padded 0 = id := by
  funext token
  simp [padded]

theorem padded_padded (first second : Nat) (token : Bytes) :
    padded second (padded first token) = padded (first + second) token := by
  cases define : Define.value? token with
  | none => simp only [padded_of_value?_eq_none define]
  | some value =>
      obtain rfl : token = Define.marker ++ value := Bytes.eq_append_of_dropStart? define
      rw [padded_marker_append, padded_marker_append, padded_marker_append, List.append_assoc,
        List.replicate_append_replicate]

theorem map_padded_padded (first second : Nat) (tokens : List Bytes) :
    (tokens.map (padded first)).map (padded second) = tokens.map (padded (first + second)) := by
  rw [List.map_map]
  exact List.map_congr_left fun token _ => padded_padded first second token

/-- Blanks do no harm to a quoted value. -/
theorem IsPlain.padded {token : Bytes} (h : IsPlain token) (blanks : Nat) :
    IsPlain (padded blanks token) := by
  cases define : Define.value? token with
  | none => rwa [padded_of_value?_eq_none define]
  | some value =>
      obtain rfl : token = Define.marker ++ value := Bytes.eq_append_of_dropStart? define
      have longer : Define.value? (Define.marker ++ (value ++ List.replicate blanks Bytes.space)) =
          some (value ++ List.replicate blanks Bytes.space) := Bytes.dropStart?_append _ _
      rw [IsPlain, define] at h
      rw [padded_marker_append, IsPlain, longer]
      intro b member
      rcases List.mem_append.mp member with inValue | blank
      · exact h b inValue
      · rw [List.eq_of_mem_replicate blank]
        decide

/-! ## The words of a command line -/

/-- A plain token is read as one word, wherever it stands. -/
theorem run_written {token : Bytes} (h : IsPlain token) (behind : List Bytes) :
    (Words.Reader.between behind).run (written token ++ [Bytes.space]) =
      Words.Reader.between (behind ++ [padded 1 token]) := by
  cases define : Define.value? token with
  | none =>
      rw [IsPlain, define] at h
      have same : written token = token := by simp [written, Define.requote?, define]
      rw [same, padded_of_value?_eq_none define]
      exact Words.Reader.run_word h.1
        (fun member => Words.ne_quote_of_isSafe (h.2 _ member) rfl)
        (fun member => Words.ne_space_of_isSafe (h.2 _ member) rfl) behind
  | some value =>
      obtain rfl : token = Define.marker ++ value := Bytes.eq_append_of_dropStart? define
      rw [IsPlain, define] at h
      have same : written (Define.marker ++ value) = Define.quoted value := by
        simp [written, Define.requote?_marker_append]
      rw [same, padded_marker_append]
      exact Words.Reader.run_define (fun member => h _ member (by decide)) behind

theorem run_tokens {tokens : List Bytes} (plain : ∀ token ∈ tokens, IsPlain token)
    (behind : List Bytes) :
    (Words.Reader.between behind).run (tokens.flatMap fun token => written token ++ [Bytes.space]) =
      Words.Reader.between (behind ++ tokens.map (padded 1)) := by
  induction tokens generalizing behind with
  | nil => simp [Words.Reader.run]
  | cons token rest ih =>
      obtain ⟨first, later⟩ := List.forall_mem_cons.mp plain
      rw [List.flatMap_cons, Words.Reader.run_append, run_written first, ih later, List.map_cons,
        List.append_assoc, List.singleton_append]

theorem ofLine_command {host : Bytes} (h : IsPlainHost host) (names : Bytes → Bool)
    {tokens : List Bytes} (plain : ∀ token ∈ tokens, IsPlain token) :
    Words.ofLine (assemble host names tokens).command = some (host :: tokens.map (padded 1)) := by
  have line : (assemble host names tokens).command =
      (host ++ [Bytes.space]) ++ tokens.flatMap fun token => written token ++ [Bytes.space] := by
    rw [command_assemble, List.append_assoc, List.singleton_append]
  have read : (Words.Reader.between []).run (assemble host names tokens).command =
      Words.Reader.between (host :: tokens.map (padded 1)) := by
    rw [line, Words.Reader.run_append, Words.Reader.run_word h.ne_nil
      (fun member => Words.ne_quote_of_isSafe (h.safe _ member) rfl)
      (fun member => Words.ne_space_of_isSafe (h.safe _ member) rfl), run_tokens plain]
    rfl
  rw [Words.ofLine, read]
  simp [Words.Reader.between]

/-! ## Several traps -/

theorem isPlain_map_padded {tokens : List Bytes} (plain : ∀ token ∈ tokens, IsPlain token)
    (blanks : Nat) : ∀ token ∈ tokens.map (padded blanks), IsPlain token := by
  intro token member
  obtain ⟨before, inTokens, rfl⟩ := List.mem_map.mp member
  exact (plain before inTokens).padded blanks

theorem forwardedAll?_eq {traps : List (Bytes × (Bytes → Bool))}
    (hosts : ∀ trap ∈ traps, IsPlainHost trap.1) {tokens : List Bytes}
    (plain : ∀ token ∈ tokens, IsPlain token) :
    forwardedAll? traps tokens = some (tokens.map (padded traps.length)) := by
  induction traps generalizing tokens with
  | nil =>
      rw [List.length_nil, padded_zero, List.map_id]
      rfl
  | cons trap rest ih =>
      obtain ⟨first, later⟩ := List.forall_mem_cons.mp hosts
      have once : forwarded? trap.1 trap.2 tokens = some (tokens.map (padded 1)) := by
        rw [forwarded?, ofLine_command first trap.2 plain]
        rfl
      rw [forwardedAll?, once, Option.bind_some, ih later (isPlain_map_padded plain 1),
        map_padded_padded, List.length_cons, Nat.add_comm]

/-- The words of a command line of plain tokens are the host and the tokens in their order, one word
each. The value of a define has got one blank more at its end, and every other token is as it was.
So these words are plain again, and with every further trap that they go through the values of the
defines get one more blank. -/
theorem words_of_command (host : Bytes) (names : Bytes → Bool) (tokens : List Bytes)
    (hostPlain : IsPlainHost host) (plain : ∀ token ∈ tokens, IsPlain token) :
    Words.ofLine (assemble host names tokens).command = some (host :: tokens.map (padded 1)) ∧
    (∀ token ∈ tokens.map (padded 1), IsPlain token) ∧
    ∀ traps : List (Bytes × (Bytes → Bool)), (∀ trap ∈ traps, IsPlainHost trap.1) →
      forwardedAll? traps (tokens.map (padded 1)) =
        some (tokens.map (padded (1 + traps.length))) := by
  have again : ∀ token ∈ tokens.map (padded 1), IsPlain token := isPlain_map_padded plain 1
  refine ⟨ofLine_command hostPlain names plain, again, ?_⟩
  intro traps hosts
  rw [forwardedAll?_eq hosts again, map_padded_padded]

/-- A define whose value holds a blank is read as one word by the compiler behind two traps. -/
theorem words_of_command_define :
    let value : Bytes := Bytes.ofChars ['C', 'l', 'a', 'n', 'g', ' ', '1', '4', '.', '0']
    let host : Bytes := Bytes.ofChars ['t', 'r', 'a', 'p']
    let source : Bytes := Bytes.ofChars ['a', '.', 'c']
    let tokens : List Bytes := [Define.marker ++ value, source]
    IsPlainHost host ∧ (∀ token ∈ tokens, IsPlain token) ∧
      Words.ofLine (assemble host (fun _ => true) tokens).command =
        some [host, Define.marker ++ value ++ [Bytes.space], source] ∧
      forwardedAll? [(Bytes.ofChars ['c', 'c'], fun _ => true)]
          [Define.marker ++ value ++ [Bytes.space], source] =
        some [Define.marker ++ value ++ [Bytes.space, Bytes.space], source] := by
  intro value host source tokens
  have hostPlain : IsPlainHost host := by decide
  have plain : ∀ token ∈ tokens, IsPlain token := by decide
  have compiler : ∀ trap ∈ [(Bytes.ofChars ['c', 'c'], fun _ : Bytes => true)],
      IsPlainHost trap.1 := by
    intro trap member
    rw [List.mem_singleton.mp member]
    decide
  obtain ⟨words, -, further⟩ := words_of_command host (fun _ => true) tokens hostPlain plain
  exact ⟨hostPlain, plain, words, further _ compiler⟩

end Invocation

end Intercept
