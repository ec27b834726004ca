import Intercept.Proofs.Invocation

/-!
# The tokens of a command line

A command line is written from tokens without any mark that says where one of them ends: a blank
stands behind each, and blanks may stand in the quotes of a define. Still no token is lost, as long
as no token but a define holds a blank and no define's value holds a quote: what has been read of a
token says whether its quotes are open, and a blank ends the token unless they are. This module
reads the tokens back by this rule.

Results:
1. `run_inside`, `run_written`: a reader behind some tokens reads one token, and is behind it.
2. `unwritten_written`: the token that was written.
3. `tokens_of_command`: the tokens of a command line, and that it has no others.
-/

namespace Intercept

/-! ## Definitions -/

namespace Tokens

/-- A define whose value has not come to its closing quote. -/
def IsOpen (word : Bytes) : Prop := Define.marker <+: word ∧ word.count Bytes.quote = 1

instance (word : Bytes) : Decidable (IsOpen word) := inferInstanceAs (Decidable (_ ∧ _))

/-- Where a reader of tokens stands: the tokens behind it, as they are written, and what it has read
of the next one. -/
structure Reader where
  behind : List Bytes
  word : Bytes
  deriving DecidableEq, Repr

def Reader.step (reader : Reader) (b : UInt8) : Reader :=
  if b = Bytes.space ∧ ¬ IsOpen reader.word then
    { behind := reader.behind ++ [reader.word], word := [] }
  else { reader with word := reader.word ++ [b] }

def Reader.run (reader : Reader) (bytes : Bytes) : Reader := bytes.foldl Reader.step reader

/-- The token that is written so: a define's value loses its quotes and the blank before the closing
one. -/
def unwritten (word : Bytes) : Bytes :=
  match Define.value? word with
  | some quotedValue => Define.marker ++ quotedValue.tail.dropLast.dropLast
  | none => word

/-- The tokens of a command line behind its host, if the line ends behind a token. -/
def ofCommand? (host command : Bytes) : Option (List Bytes) :=
  (Bytes.dropStart? (host ++ [Bytes.space]) command).bind fun line =>
    let reader := Reader.run { behind := [], word := [] } line
    if reader.word = [] then some (reader.behind.map unwritten) else none

/-- A token that is told apart from its neighbours: a define without a quote in its value, or any
other token without a blank. -/
def IsApart (token : Bytes) : Prop :=
  match Define.value? token with
  | some value => Bytes.quote ∉ value
  | none => Bytes.space ∉ token

instance (token : Bytes) : Decidable (IsApart token) :=
  match define : Define.value? token with
  | some value => decidable_of_iff (Bytes.quote ∉ value) (by simp [IsApart, define])
  | none => decidable_of_iff (Bytes.space ∉ token) (by simp [IsApart, define])

/-! ## Open quotes -/

theorem isOpen_marker_append_quote {value : Bytes} (literal : Bytes.quote ∉ value) :
    IsOpen (Define.marker ++ Bytes.quote :: value) := by
  have before : Define.marker.count Bytes.quote = 0 := by decide
  have behind : value.count Bytes.quote = 0 := List.count_eq_zero.mpr literal
  refine ⟨List.prefix_append _ _, ?_⟩
  rw [List.count_append, List.count_cons_self, before, behind]

theorem not_isOpen_quoted {value : Bytes} (literal : Bytes.quote ∉ value) :
    ¬ IsOpen (Define.quoted value) := by
  rintro ⟨-, once⟩
  have opening : (Define.marker ++ Bytes.quote :: value).count Bytes.quote = 1 :=
    (isOpen_marker_append_quote literal).2
  have closing : [Bytes.space, Bytes.quote].count Bytes.quote = 1 := by decide
  rw [Define.quoted, List.count_append, opening, closing] at once
  exact absurd once (by decide)

/-! ## Reading a token -/

namespace Reader

theorem run_cons (reader : Reader) (b : UInt8) (rest : Bytes) :
    reader.run (b :: rest) = (reader.step b).run rest := rfl

theorem run_append (reader : Reader) (front back : Bytes) :
    reader.run (front ++ back) = (reader.run front).run back :=
  List.foldl_append

/-- Bytes go into the token if quotes are open wherever a blank stands. -/
theorem run_inside {word bytes : Bytes}
    (inside : ∀ front back, bytes = front ++ Bytes.space :: back → IsOpen (word ++ front))
    (behind : List Bytes) : run ⟨behind, word⟩ bytes = ⟨behind, word ++ bytes⟩ := by
  induction bytes generalizing word with
  | nil => simp [run]
  | cons b rest ih =>
      have stays : ¬ (b = Bytes.space ∧ ¬ IsOpen word) := by
        rintro ⟨rfl, shut⟩
        have opened := inside [] rest rfl
        rw [List.append_nil] at opened
        exact shut opened
      have later : ∀ front back, rest = front ++ Bytes.space :: back →
          IsOpen (word ++ [b] ++ front) := by
        rintro front back rfl
        rw [List.append_assoc, List.singleton_append]
        exact inside (b :: front) back rfl
      rw [run_cons, step, if_neg stays, ih later, List.append_assoc, List.singleton_append]

theorem run_inside_of_not_mem {bytes : Bytes} (whole : Bytes.space ∉ bytes) (behind : List Bytes)
    (word : Bytes) : run ⟨behind, word⟩ bytes = ⟨behind, word ++ bytes⟩ := by
  refine run_inside ?_ behind
  rintro front back rfl
  exact absurd (List.mem_append_right front List.mem_cons_self) whole

theorem run_space {word : Bytes} (shut : ¬ IsOpen word) (behind : List Bytes) :
    run ⟨behind, word⟩ [Bytes.space] = ⟨behind ++ [word], []⟩ :=
  if_pos ⟨rfl, shut⟩

/-- The define as it is written. Its quotes are open from in front of the value to the blank behind
it. -/
theorem run_quoted {value : Bytes} (literal : Bytes.quote ∉ value) (behind : List Bytes) :
    run ⟨behind, []⟩ (Define.quoted value) = ⟨behind, Define.quoted value⟩ := by
  have parts : Define.quoted value =
      (Define.marker ++ [Bytes.quote]) ++ ((value ++ [Bytes.space]) ++ [Bytes.quote]) := by
    simp [Define.quoted]
  have inside : ∀ front back, value ++ [Bytes.space] = front ++ Bytes.space :: back →
      IsOpen (Define.marker ++ [Bytes.quote] ++ front) := by
    intro front back cut
    have literalFront : Bytes.quote ∉ front := by
      intro member
      have inValue : Bytes.quote ∈ value ++ [Bytes.space] := by
        rw [cut]
        exact List.mem_append_left _ member
      rcases List.mem_append.mp inValue with inside | blank
      · exact literal inside
      · exact absurd (List.mem_singleton.mp blank) (by decide)
    rw [List.append_assoc, List.singleton_append]
    exact isOpen_marker_append_quote literalFront
  have opening : run ⟨behind, []⟩ (Define.marker ++ [Bytes.quote]) =
      ⟨behind, Define.marker ++ [Bytes.quote]⟩ := run_inside_of_not_mem (by decide) behind []
  have closing (word : Bytes) :
      run ⟨behind, word⟩ [Bytes.quote] = ⟨behind, word ++ [Bytes.quote]⟩ :=
    run_inside_of_not_mem (by decide) behind word
  rw [parts, run_append, opening, run_append, run_inside inside, closing, List.append_assoc]

end Reader

/-! ## The tokens of a command line -/

open Invocation

theorem run_written {token : Bytes} (apart : IsApart token) (behind : List Bytes) :
    Reader.run ⟨behind, []⟩ (written token ++ [Bytes.space]) = ⟨behind ++ [written token], []⟩ := by
  rw [Reader.run_append]
  cases define : Define.value? token with
  | none =>
      rw [IsApart, define] at apart
      have shut : ¬ IsOpen token := by
        rintro ⟨⟨value, rfl⟩, -⟩
        rw [Define.value?, Bytes.dropStart?_append] at define
        exact absurd define (Option.some_ne_none value)
      rw [written_of_value?_eq_none define, Reader.run_inside_of_not_mem apart, List.nil_append,
        Reader.run_space shut]
  | some value =>
      rw [IsApart, define] at apart
      rw [written_of_value?_eq_some define, Reader.run_quoted apart,
        Reader.run_space (not_isOpen_quoted apart)]

theorem unwritten_quoted (value : Bytes) :
    unwritten (Define.quoted value) = Define.marker ++ value := by
  have inner : Define.value? (Define.quoted value) =
      some (Bytes.quote :: ((value ++ [Bytes.space]) ++ [Bytes.quote])) := by
    rw [Define.quoted, List.append_assoc, List.cons_append, List.append_cons value]
    exact Bytes.dropStart?_append Define.marker _
  rw [unwritten, inner]
  simp only [List.tail_cons, List.dropLast_concat]

theorem unwritten_written (token : Bytes) : unwritten (written token) = token := by
  cases define : Define.value? token with
  | none => rw [written_of_value?_eq_none define, unwritten, define]
  | some value =>
      rw [written_of_value?_eq_some define, unwritten_quoted]
      exact (Bytes.eq_append_of_dropStart? define).symm

theorem run_tokens {tokens : List Bytes} (apart : ∀ token ∈ tokens, IsApart token)
    (behind : List Bytes) :
    Reader.run ⟨behind, []⟩ (tokens.flatMap fun token => written token ++ [Bytes.space]) =
      ⟨behind ++ tokens.map written, []⟩ := by
  induction tokens generalizing behind with
  | nil => simp [Reader.run]
  | cons token rest ih =>
      obtain ⟨first, later⟩ := List.forall_mem_cons.mp apart
      rw [List.flatMap_cons, Reader.run_append, run_written first, ih later, List.map_cons,
        List.append_assoc, List.singleton_append]

/-- The tokens are read back, whatever they are, as long as they are told apart. -/
theorem ofCommand?_command (host : Bytes) (names : Bytes → Bool) {tokens : List Bytes}
    (apart : ∀ token ∈ tokens, IsApart token) :
    ofCommand? host (assemble host names tokens).command = some tokens := by
  have line : Bytes.dropStart? (host ++ [Bytes.space]) (assemble host names tokens).command =
      some (tokens.flatMap fun token => written token ++ [Bytes.space]) := by
    rw [command_assemble, List.append_cons host Bytes.space (tokens.flatMap _)]
    exact Bytes.dropStart?_append _ _
  have tokensBack : (tokens.map written).map unwritten = tokens := by
    rw [List.map_map]
    exact (List.map_congr_left fun token _ => unwritten_written token).trans (List.map_id tokens)
  rw [ofCommand?, line, Option.bind_some, run_tokens apart, List.nil_append]
  exact congrArg some tokensBack

/-- No token is lost in a command line, and none comes in. One rule reads the tokens back from the
host and the command line, for all tokens of which no define holds a quote in its value and no other
one holds a blank; and two lists of such tokens that give the same command line with one host are
the same list. -/
theorem tokens_of_command (host : Bytes) :
    (∀ names tokens, (∀ token ∈ tokens, IsApart token) →
      ofCommand? host (assemble host names tokens).command = some tokens) ∧
    ∀ firstNames secondNames first second, (∀ token ∈ first, IsApart token) →
      (∀ token ∈ second, IsApart token) →
      (assemble host firstNames first).command = (assemble host secondNames second).command →
      first = second := by
  refine ⟨fun names tokens apart => ofCommand?_command host names apart, ?_⟩
  intro firstNames secondNames first second firstApart secondApart same
  have back : some first = some second := by
    rw [← ofCommand?_command host firstNames firstApart, same,
      ofCommand?_command host secondNames secondApart]
  exact Option.some.inj back

/-- An empty token, a define with blanks at both ends of its value, and a quote. -/
theorem tokens_of_command_blanks :
    let host : Bytes := Bytes.ofChars ['c', 'c']
    let define : Bytes := Define.marker ++ Bytes.ofChars [' ', 'g', ' ']
    let tokens : List Bytes := [[], define, [Bytes.quote]]
    (∀ token ∈ tokens, IsApart token) ∧
      ofCommand? host (assemble host (fun _ => false) tokens).command = some tokens := by
  intro host define tokens
  have apart : ∀ token ∈ tokens, IsApart token := by decide
  exact ⟨apart, (tokens_of_command host).1 (fun _ => false) tokens apart⟩

end Tokens

end Intercept
