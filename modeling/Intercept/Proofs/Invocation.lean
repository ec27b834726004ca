import Intercept.Invocation
import Intercept.Proofs.Log.RoundTrip

/-!
# What an invocation is assembled to

The assembly goes over the tokens once and carries the source along. This module says of each of its
parts what it is: the command is the tokens as they are written, and the source is the first token
that could be one and names something. From this follows what the record of an invocation looks
like.

Results:
1. `command_assemble`, `source_assemble`, `lookups_assemble`, `events_assemble`: the command, the
   source, the names that are looked up and what there is to tell, without the walk.
2. `newline_mem_command_iff`: the command holds a newline exactly where the host or a token does.
3. `source_ne_absent`, `command_ne_nil`, `complete_record_iff`: the record of an invocation.
4. `assemble_by_tokens`: the assembly as a whole, and what its parts do not depend on.
-/

namespace Intercept.Invocation

/-! ## Definitions -/

/-- A token as it is passed on. -/
def written (token : Bytes) : Bytes := (Define.requote? token).getD token

/-- A token that is looked up, if no source was found before. -/
def isCandidate (token : Bytes) : Bool := (Define.requote? token).isNone && mayBeSource token

/-- A token that becomes the source, if none was found before. -/
def isSource (names : Bytes → Bool) (token : Bytes) : Bool :=
  (Define.requote? token).isNone && mayBeSource token && names token

/-- What there is to tell of a token, if it is a define. -/
def requoting? (token : Bytes) : Option Event :=
  (Define.requote? token).map fun requoted => .requoted token requoted

/-- What there is to tell of tokens, in their order: of each define that it was written anew, and of
the source, where it stands, that it was found. -/
def told (names : Bytes → Bool) (tokens : List Bytes) : List Event :=
  (tokens.takeWhile (!isSource names ·)).filterMap requoting? ++
    match tokens.dropWhile (!isSource names ·) with
    | [] => []
    | source :: rest => .foundSource source :: rest.filterMap requoting?

/-- The names that are looked up, in the order of their tokens: every candidate through the first
one that names something. -/
def lookedUp (names : Bytes → Bool) (tokens : List Bytes) : List Bytes :=
  let candidates := tokens.filter isCandidate
  candidates.takeWhile (!names ·) ++ (candidates.find? names).toList

/-- The record that an invocation is logged as. -/
def record (host : Bytes) (names : Bytes → Bool) (tokens : List Bytes) : Record :=
  ⟨(assemble host names tokens).source, (assemble host names tokens).command⟩

/-! ## The parts of an assembly -/

theorem written_of_value?_eq_none {token : Bytes} (other : Define.value? token = none) :
    written token = token := by
  rw [written, Define.requote?, other]
  rfl

theorem written_of_value?_eq_some {token value : Bytes}
    (define : Define.value? token = some value) : written token = Define.quoted value := by
  rw [written, Define.requote?, define]
  rfl

theorem command_assembleFrom (names : Bytes → Bool) (source : Option Bytes) (tokens : List Bytes) :
    (assembleFrom names source tokens).command =
      tokens.flatMap fun token => written token ++ [Bytes.space] := by
  induction tokens generalizing source with
  | nil => rfl
  | cons token rest ih =>
      rw [assembleFrom, List.flatMap_cons]
      cases define : Define.requote? token with
      | some requoted => simp [Assembly.push, written, define, ih]
      | none =>
          simp only
          split
          · split <;> simp [Assembly.push, written, define, ih]
          · simp [Assembly.push, written, define, ih]

theorem command_assemble (host : Bytes) (names : Bytes → Bool) (tokens : List Bytes) :
    (assemble host names tokens).command =
      host ++ Bytes.space :: tokens.flatMap fun token => written token ++ [Bytes.space] := by
  rw [assemble, Assembly.push, command_assembleFrom]

/-- A source that was found before is kept, and otherwise the first one is found. -/
theorem source_assembleFrom (names : Bytes → Bool) (source : Option Bytes) (tokens : List Bytes) :
    (assembleFrom names source tokens).source = source.or (tokens.find? (isSource names)) := by
  induction tokens generalizing source with
  | nil => simp [assembleFrom]
  | cons token rest ih =>
      rw [assembleFrom]
      cases define : Define.requote? token with
      | some requoted =>
          have other : isSource names token = false := by simp [isSource, define]
          rw [List.find?_cons_of_neg (by simp [other])]
          exact ih source
      | none =>
          have test : isSource names token = (mayBeSource token && names token) := by
            simp [isSource, define]
          cases source with
          | some found => simp [Assembly.push, ih]
          | none =>
              cases candidate : mayBeSource token with
              | false => simp [Assembly.push, ih, test, candidate]
              | true =>
                  cases named : names token with
                  | false => simp [Assembly.push, ih, test, candidate, named]
                  | true => simp [Assembly.push, ih, test, candidate, named]

theorem source_assemble (host : Bytes) (names : Bytes → Bool) (tokens : List Bytes) :
    (assemble host names tokens).source = tokens.find? (isSource names) := by
  rw [assemble, Assembly.push, source_assembleFrom, Option.none_or]

/-- Behind the source only defines are told of. -/
theorem events_assembleFrom_some (names : Bytes → Bool) (source : Bytes) (tokens : List Bytes) :
    (assembleFrom names (some source) tokens).events = tokens.filterMap requoting? := by
  induction tokens with
  | nil => rfl
  | cons token rest ih =>
      rw [assembleFrom]
      cases define : Define.requote? token with
      | some requoted => simp [Assembly.push, requoting?, define, ih]
      | none => simp [Assembly.push, requoting?, define, ih]

theorem told_cons_of_not_isSource {names : Bytes → Bool} {token : Bytes}
    (other : isSource names token = false) (rest : List Bytes) :
    told names (token :: rest) = (requoting? token).toList ++ told names rest := by
  unfold told
  rw [List.takeWhile_cons_of_pos (by simp [other]), List.dropWhile_cons_of_pos (by simp [other]),
    List.filterMap_cons]
  cases requoting? token <;> rfl

theorem events_assembleFrom_none (names : Bytes → Bool) (tokens : List Bytes) :
    (assembleFrom names none tokens).events = told names tokens := by
  induction tokens with
  | nil => rfl
  | cons token rest ih =>
      rw [assembleFrom]
      cases define : Define.requote? token with
      | some requoted =>
          have other : isSource names token = false := by simp [isSource, define]
          simp [Assembly.push, told_cons_of_not_isSource other, requoting?, define, ih]
      | none =>
          have test : isSource names token = (mayBeSource token && names token) := by
            simp [isSource, define]
          cases both : mayBeSource token && names token with
          | false =>
              rw [told_cons_of_not_isSource (test.trans both)]
              rcases Bool.and_eq_false_iff.mp both with candidate | named
              · simp [Assembly.push, requoting?, define, candidate, ih]
              · cases mayBeSource token <;> simp [Assembly.push, requoting?, define, named, ih]
          | true =>
              obtain ⟨candidate, named⟩ := Bool.and_eq_true_iff.mp both
              simp [Assembly.push, told, test, candidate, named, events_assembleFrom_some]

theorem events_assemble (host : Bytes) (names : Bytes → Bool) (tokens : List Bytes) :
    (assemble host names tokens).events = told names tokens := by
  rw [assemble, ← events_assembleFrom_none]
  rfl

/-- Behind the source nothing is looked up. -/
theorem lookups_assembleFrom_some (names : Bytes → Bool) (source : Bytes) (tokens : List Bytes) :
    (assembleFrom names (some source) tokens).lookups = [] := by
  induction tokens with
  | nil => rfl
  | cons token rest ih =>
      rw [assembleFrom]
      cases define : Define.requote? token with
      | some requoted => simp [Assembly.push, ih]
      | none => simp [Assembly.push, ih]

theorem lookedUp_cons_of_not_isCandidate {names : Bytes → Bool} {token : Bytes}
    (other : isCandidate token = false) (rest : List Bytes) :
    lookedUp names (token :: rest) = lookedUp names rest := by
  simp only [lookedUp, List.filter_cons_of_neg (Bool.eq_false_iff.mp other)]

theorem lookups_assembleFrom_none (names : Bytes → Bool) (tokens : List Bytes) :
    (assembleFrom names none tokens).lookups = lookedUp names tokens := by
  induction tokens with
  | nil => rfl
  | cons token rest ih =>
      rw [assembleFrom]
      cases define : Define.requote? token with
      | some requoted =>
          have other : isCandidate token = false := by simp [isCandidate, define]
          rw [lookedUp_cons_of_not_isCandidate other, ← ih]
          rfl
      | none =>
          have test : isCandidate token = mayBeSource token := by simp [isCandidate, define]
          cases candidate : mayBeSource token with
          | false =>
              rw [lookedUp_cons_of_not_isCandidate (test.trans candidate), ← ih]
              rfl
          | true =>
              have filtered : (token :: rest).filter isCandidate =
                  token :: rest.filter isCandidate :=
                List.filter_cons_of_pos (test.trans candidate)
              cases named : names token with
              | false =>
                  simp [Assembly.push, lookedUp, filtered, named, ih]
              | true =>
                  simp [Assembly.push, lookedUp, filtered, named, lookups_assembleFrom_some]

theorem lookups_assemble (host : Bytes) (names : Bytes → Bool) (tokens : List Bytes) :
    (assemble host names tokens).lookups = lookedUp names tokens := by
  rw [assemble, ← lookups_assembleFrom_none]
  rfl

/-! ## Tokens that look like a define, or like a source -/

theorem written_eq (token : Bytes) :
    written token =
      if Define.marker <+: token then Define.quoted (token.drop Define.marker.length)
      else token := by
  rw [written, Define.requote?_eq]
  split <;> rfl

theorem isCandidate_eq (token : Bytes) :
    isCandidate token = decide (¬ Define.marker <+: token ∧
      sourceEnding.length < token.length ∧ sourceEnding <:+ token) := by
  rw [isCandidate, Define.requote?_eq, mayBeSource]
  by_cases define : Define.marker <+: token <;>
    simp [define, ← List.isSuffixOf_iff_suffix]

/-- Tokens behind the source are not asked for anything. -/
theorem lookedUp_append_source {names : Bytes → Bool} {source : Bytes}
    (found : isSource names source = true) (before after : List Bytes) :
    lookedUp names (before ++ source :: after) = lookedUp names (before ++ [source]) := by
  obtain ⟨candidate, named⟩ : isCandidate source = true ∧ names source = true :=
    Bool.and_eq_true_iff.mp found
  have stop (rest : List Bytes) : (source :: rest).takeWhile (!names ·) = [] :=
    List.takeWhile_cons_of_neg (by simp [named])
  simp only [lookedUp, List.filter_append, List.filter_cons_of_pos candidate, List.find?_append,
    List.find?_cons_of_pos named, List.takeWhile_append, stop]

theorem source_append_source {names : Bytes → Bool} {source : Bytes}
    (found : isSource names source = true) (before after : List Bytes) :
    (before ++ source :: after).find? (isSource names) =
      (before ++ [source]).find? (isSource names) := by
  rw [List.find?_append, List.find?_append, List.find?_cons_of_pos found,
    List.find?_cons_of_pos found]

/-! ## The record of an invocation -/

/-- The quotes and blanks that a define is written with bring no newline in. -/
theorem newline_mem_written_iff {token : Bytes} :
    Bytes.newline ∈ written token ↔ Bytes.newline ∈ token := by
  unfold written Define.requote?
  cases found : Define.value? token with
  | none => rfl
  | some value =>
      have whole : token = Define.marker ++ value := Bytes.eq_append_of_dropStart? found
      rw [whole]
      simp [Define.quoted, Bytes.newline, Bytes.quote, Bytes.space]

theorem newline_mem_command_iff {host : Bytes} {names : Bytes → Bool} {tokens : List Bytes} :
    Bytes.newline ∈ (record host names tokens).command ↔
      Bytes.newline ∈ host ∨ ∃ token ∈ tokens, Bytes.newline ∈ token := by
  have blank : Bytes.newline ≠ Bytes.space := by decide
  rw [record, command_assemble, List.mem_append, List.mem_cons, List.mem_flatMap]
  simp only [List.mem_append, List.mem_singleton, blank, or_false, false_or,
    newline_mem_written_iff]

theorem command_ne_nil (host : Bytes) (names : Bytes → Bool) (tokens : List Bytes) :
    (record host names tokens).command ≠ [] := by
  rw [record, command_assemble]
  exact List.append_ne_nil_of_right_ne_nil host (List.cons_ne_nil _ _)

theorem source_mem {host : Bytes} {names : Bytes → Bool} {tokens : List Bytes} {source : Bytes}
    (found : (record host names tokens).source = some source) :
    source ∈ tokens ∧ mayBeSource source = true := by
  rw [record, source_assemble] at found
  have test : isSource names source = true := List.find?_some found
  simp only [isSource, Bool.and_eq_true] at test
  exact ⟨List.mem_of_find?_eq_some found, test.1.2⟩

/-- The word for no source does not end as a source does. -/
theorem source_ne_absent (host : Bytes) (names : Bytes → Bool) (tokens : List Bytes) :
    (record host names tokens).source ≠ some Record.absent := by
  intro found
  have candidate : mayBeSource Record.absent = true := (source_mem found).2
  exact absurd candidate (by decide)

/-- The record of an invocation can be read back wherever it stands if nothing in the invocation
holds a newline. -/
theorem complete_record_iff {host : Bytes} {names : Bytes → Bool} {tokens : List Bytes} :
    (record host names tokens).Complete ↔
      Bytes.newline ∉ host ∧ ∀ token ∈ tokens, Bytes.newline ∉ token := by
  have command : Bytes.newline ∉ (record host names tokens).command ↔
      Bytes.newline ∉ host ∧ ∀ token ∈ tokens, Bytes.newline ∉ token := by
    rw [newline_mem_command_iff, not_or]
    simp only [not_exists, not_and]
  constructor
  · intro complete
    exact command.mp complete.command_line
  · intro plain
    refine ⟨⟨?_, command.mpr plain, source_ne_absent host names tokens⟩,
      command_ne_nil host names tokens⟩
    intro source found
    exact plain.2 source (source_mem found).1

/-! ## The whole assembly -/

theorem find?_isSource (names : Bytes → Bool) (tokens : List Bytes) :
    tokens.find? (isSource names) = (tokens.filter isCandidate).find? names := by
  have test (token : Bytes) :
      isSource names token = decide (isCandidate token = true ∧ names token = true) := by
    rw [Bool.decide_and, Bool.decide_eq_true, Bool.decide_eq_true]
    rfl
  rw [List.find?_filter]
  exact congrArg (List.find? · tokens) (funext test)

/-- An assembly by its tokens. The command is the host and the tokens in their order, each followed
by a blank, where what begins with the define's marker has the rest of it in quotes. The candidates
for the source are the tokens that do not begin so, end as a source does and are longer than this
ending; the first of them that names something is the source, and they are looked up one after the
other through it. Told is, in the order of the tokens, each define and the source. So the command
does not depend on what names something, and neither the source nor what is looked up depends on the
host, nor on what stands behind the source. -/
theorem assemble_by_tokens (host : Bytes) (names : Bytes → Bool) (tokens : List Bytes) :
    let assembly := assemble host names tokens
    let candidates := tokens.filter fun token =>
      ¬ Define.marker <+: token ∧ sourceEnding.length < token.length ∧ sourceEnding <:+ token
    assembly.command = host ++ Bytes.space :: tokens.flatMap (fun token =>
      (if Define.marker <+: token then Define.quoted (token.drop Define.marker.length)
        else token) ++ [Bytes.space]) ∧
    assembly.source = candidates.find? names ∧
    assembly.lookups = candidates.takeWhile (!names ·) ++ (candidates.find? names).toList ∧
    assembly.events = told names tokens ∧
    (∀ otherNames, (assemble host otherNames tokens).command = assembly.command) ∧
    ∀ otherHost,
      (assemble otherHost names tokens).source = assembly.source ∧
      (assemble otherHost names tokens).lookups = assembly.lookups ∧
      ∀ before source after later, tokens = before ++ source :: after →
        isSource names source = true →
        (assemble otherHost names (before ++ source :: later)).source = assembly.source ∧
        (assemble otherHost names (before ++ source :: later)).lookups = assembly.lookups := by
  intro assembly candidates
  have filtered : candidates = tokens.filter isCandidate :=
    List.filter_congr fun token _ => (isCandidate_eq token).symm
  refine ⟨?_, ?_, ?_, events_assemble host names tokens, ?_, fun otherHost => ⟨?_, ?_, ?_⟩⟩
  · simp only [← written_eq]
    exact command_assemble host names tokens
  · rw [source_assemble, find?_isSource, filtered]
  · rw [lookups_assemble, lookedUp, filtered]
  · intro otherNames
    rw [command_assemble, command_assemble]
  · rw [source_assemble, source_assemble]
  · rw [lookups_assemble, lookups_assemble]
  · rintro before source after later rfl found
    constructor
    · rw [source_assemble, source_assemble, source_append_source found,
        source_append_source found before after]
    · rw [lookups_assemble, lookups_assemble, lookedUp_append_source found,
        lookedUp_append_source found before after]

/-- Of three candidates the second one names something: it is the source, and the third one is not
looked up, whatever it is. -/
theorem assemble_by_tokens_second :
    let host : Bytes := Bytes.ofChars ['c', 'c']
    let gone : Bytes := Bytes.ofChars ['a', '.', 'c']
    let there : Bytes := Bytes.ofChars ['b', '.', 'c']
    let names : Bytes → Bool := (· == there)
    isSource names there = true ∧
      (assemble host names [gone, there, gone]).source = some there ∧
      (assemble host names [gone, there, gone]).lookups = [gone, there] ∧
      (assemble [] names [gone, there, there]).lookups = [gone, there] := by
  intro host gone there names
  have found : isSource names there = true := by decide
  obtain ⟨-, source, lookups, -, -, others⟩ := assemble_by_tokens host names [gone, there, gone]
  have later := (others []).2.2 [gone] there [gone] [there] rfl found
  exact ⟨found, source, lookups, later.2.trans lookups⟩

end Intercept.Invocation
