import Intercept.Proofs.Shell.Reading
import Intercept.Shell.Lines

/-!
# A command line, as the shell reads it

Between the words of a command line there are blanks, so that its tokens are words, and its first
word is neither a keyword nor an alias nor an assignment. The shell looks at a token as often as it
asks what comes next, and puts it back: it is at the first word while it goes down to the command,
and at the end of the line while it comes up again.

Results:
1. `exists_readSimple`: the arguments are taken one by one.
2. `exists_readList`: the line is one command, of the words of its tokens.
3. `exists_line_command`: so is the command line of an invocation, with nothing behind it.
-/

namespace Intercept.Shell

open Invocation (assemble command_assemble written IsPlain IsPlainHost)

/-! ## Definitions -/

/-- Tokens as they stand in a command line, with a blank behind each of them. -/
def lineOf (tokens : List Bytes) : Bytes :=
  tokens.flatMap fun token => written token ++ [Bytes.space]

theorem lineOf_cons (token : Bytes) (tokens : List Bytes) :
    lineOf (token :: tokens) = written token ++ Bytes.space :: lineOf tokens := by
  rw [lineOf, List.flatMap_cons, List.append_assoc]
  rfl

theorem value?_eq_none_of_isPlainHost {host : Bytes} (plain : IsPlainHost host) :
    Define.value? host = none := by
  refine Option.eq_none_iff_forall_ne_some.mpr fun value define => plain.not_assignment ?_
  rw [Bytes.eq_append_of_dropStart? define]
  exact List.mem_append_left value (by decide)

theorem isPlain_of_isPlainHost {host : Bytes} (plain : IsPlainHost host) : IsPlain host := by
  rw [IsPlain, value?_eq_none_of_isPlainHost plain]
  exact ⟨plain.ne_nil, plain.safe⟩

/-- The reader behind a word. -/
def Source.holding (s : Source) (word : Word) : Source :=
  { s with token := .word, word, quoted := word.any Part.isQuoted }

/-- No text of an alias is being read, and no document. -/
structure Source.IsDirect (s : Source) : Prop where
  goesOn : s.ended = false
  noDocument : s.mark = none
  noAlias : s.expanding = []
  noPending : s.pending = []

/-- The line is behind, and what ended it is still to be taken. -/
structure Source.IsOver (s : Source) : Prop extends s.IsDirect where
  empty : s.rest = []
  isBack : s.putBack = true
  ends : s.token = .endOfText ∨ s.token = .newline

/-- The host has been looked at as the first word of a command, and is still to be taken. -/
structure Source.IsAtHost (s : Source) (host : Bytes) : Prop extends s.IsDirect where
  isBack : s.putBack = true
  isWord : s.token = .word
  holds : s.word = [.plain host]
  noKeyword : Token.keyword? s.language host = none
  noOther : s.aliases.lookup host = none

namespace Reader

variable (readers : CommandReaders)

/-! ## Tokens -/

theorem readRaw_blank (s : Source) {rest : Bytes} (front : s.rest = Bytes.space :: rest)
    (goesOn : s.ended = false) (taken : s.putBack = false) (fuel : Nat) :
    readRaw (fuel + 1) s = readRaw fuel (s.behind rest 0) := by
  rw [readRaw, get_bind, if_neg (by simp [taken]), bind_eq (next_eq s goesOn front (by decide))]
  exact bind_eq (skip_eq front) _

theorem readRaw_end (s : Source) (empty : s.rest = []) (goesOn : s.ended = false)
    (taken : s.putBack = false) (fuel : Nat) :
    readRaw (fuel + 1) s = .ok (.endOfText, { s with token := .endOfText, quoted := false }) := by
  rw [readRaw, get_bind, if_neg (by simp [taken]), bind_eq (next_nil s goesOn empty)]
  rfl

theorem readRaw_putBack (s : Source) (isBack : s.putBack = true) (fuel : Nat) :
    readRaw (fuel + 1) s = .ok (s.token, { s with putBack := false }) := by
  rw [readRaw, get_bind, if_pos isBack]
  rfl

theorem toUInt8_asChar (b : UInt8) : (Bytes.asChar b).toUInt8 = b := by
  have small := b.toNat_lt
  have valid : b.toNat.isValidChar := Or.inl (by omega)
  have value : (Bytes.asChar b).toNat = b.toNat := by
    unfold Bytes.asChar Char.ofNat
    rw [dif_pos valid]
    rfl
  have same : (Bytes.asChar b).toUInt8.toNat = (Bytes.asChar b).toNat % 256 := rfl
  refine UInt8.toNat_inj.mp ?_
  rw [same, value, Nat.mod_eq_of_lt small]

theorem asChar_ne_of_isSafe {b : UInt8} (safe : Words.isSafe b) {c : Char}
    (meant : ¬ Words.isSafe c.toUInt8) : Bytes.asChar b ≠ c := by
  rintro rfl
  rw [toUInt8_asChar] at meant
  exact meant safe

/-- A written token begins with a safe byte. -/
theorem exists_written_eq_cons {token : Bytes} (plain : IsPlain token) :
    ∃ b rest, written token = b :: rest ∧ Words.isSafe b := by
  cases define : Define.value? token with
  | none =>
      rw [IsPlain, define] at plain
      obtain ⟨b, rest, rfl⟩ := List.exists_cons_of_ne_nil plain.1
      exact ⟨b, rest, Invocation.written_of_value?_eq_none define, plain.2 b List.mem_cons_self⟩
  | some value =>
      exact ⟨0x2D, _, Invocation.written_of_value?_eq_some define, by decide⟩

theorem readWord_written {token : Bytes} (plain : IsPlain token) (s : Source)
    {rest : Bytes} (front : s.rest = written token ++ Bytes.space :: rest)
    (goesOn : s.ended = false) (noDocument : s.mark = none) {fuel : Nat}
    (enough : token.length + 6 ≤ fuel) :
    readWord readers fuel s = .ok (.word, (s.behind (Bytes.space :: rest)
      (token.count Bytes.newline)).holding (wordOf token)) := by
  let behindWord := s.behind (Bytes.space :: rest) (token.count Bytes.newline)
  have seen : next behindWord = .ok (some Bytes.space, behindWord) :=
    next_eq behindWord goesOn rfl (by decide)
  unfold readWord
  rw [get_bind]
  simp only
  rw [bind_eq (readParts_written readers plain s front goesOn noDocument enough), bind_eq seen]
  -- a number would be a channel in front of signs, but a blank follows
  cases channelOf? s.language (wordOf token) <;> rfl

theorem readRaw_written {token : Bytes} (plain : IsPlain token) (s : Source)
    {rest : Bytes} (front : s.rest = written token ++ Bytes.space :: rest)
    (goesOn : s.ended = false) (taken : s.putBack = false) (noDocument : s.mark = none)
    {fuel : Nat} (enough : token.length + 7 ≤ fuel) :
    readRaw fuel s = .ok (.word, (s.behind (Bytes.space :: rest)
      (token.count Bytes.newline)).holding (wordOf token)) := by
  obtain ⟨fuel, rfl⟩ : ∃ n, fuel = n + 1 := ⟨fuel - 1, by omega⟩
  obtain ⟨b, more, begins, safe⟩ := exists_written_eq_cons plain
  have seen : next s = .ok (some b, s) := by
    refine next_eq s goesOn (front.trans (congrArg (· ++ _) begins)) ?_
    rintro rfl
    exact absurd safe (by decide)
  have noSign : ∀ c ∈ [' ', '\t', '#', '\n', '(', ')', '&', '|', ';'], Bytes.asChar b ≠ c := by
    have meant : ∀ c ∈ [' ', '\t', '#', '\n', '(', ')', '&', '|', ';'],
        ¬ Words.isSafe c.toUInt8 := List.any_eq_false.mp (by decide)
    exact fun c member => asChar_ne_of_isSafe safe (meant c member)
  rw [readRaw, get_bind, if_neg (by simp [taken]), bind_eq seen]
  refine Eq.trans (congrFun (g := readWord (commandReaders fuel) fuel) ?_ s)
    (readWord_written _ plain s front goesOn noDocument (by omega))
  simp only
  generalize Bytes.asChar b = c at noSign ⊢
  split
  case h_10 => rfl
  all_goals exact absurd rfl (noSign _ (by simp))

theorem leaveAliases_eq {s : Source} (noAlias : s.expanding = []) (before : Nat) :
    leaveAliases before s = .ok (false, s) := by
  cases s
  cases noAlias
  rfl

theorem aliasOf?_eq {s : Source} {word : Bytes} (noAlias : s.aliases.lookup word = none) :
    aliasOf? word s = .ok (none, s) := by
  unfold aliasOf?
  rw [get_bind]
  simp only [noAlias, ite_self]
  rfl

/-- A token is what it is, unless it is a word that is a keyword or an alias. -/
theorem readToken_eq {checks : Checks} (sameLine : checks.newlines = false) {s s' : Source}
    {fuel : Nat} {token : Token} (raw : readRaw fuel s = .ok (token, s'))
    (noAlias : s'.expanding = [])
    (meant : token = .word → ∀ text, plainText? s'.word = some text →
      (checks.keywords → Token.keyword? s'.language text = none) ∧
        (checks.aliases → s'.aliases.lookup text = none)) :
    readToken (fuel + 1) checks s = .ok (token, s') := by
  rw [readToken, get_bind]
  simp only [sameLine, Bool.false_eq_true, if_false]
  rw [bind_eq raw, bind_eq (leaveAliases_eq noAlias _), get_bind]
  simp only [Bool.false_or]
  cases token with
  | word =>
      cases isPlain : plainText? s'.word with
      | none => rfl
      | some text =>
          obtain ⟨noKeyword, noOther⟩ := meant rfl text isPlain
          have notKey :
              (if checks.keywords then Token.keyword? s'.language text else none) = none := by
            split
            · next asked => exact noKeyword asked
            · rfl
          simp only [notKey]
          by_cases quoted : s'.quoted
          · rw [if_pos quoted]
            rfl
          · rw [if_neg quoted]
            by_cases asked : checks.aliases
            · rw [if_pos asked]
              exact bind_eq (aliasOf?_eq (noOther asked)) _
            · rw [if_neg asked]
              rfl
  | _ => rfl

theorem readToken_putBack {checks : Checks} (sameLine : checks.newlines = false) {s : Source}
    (isBack : s.putBack = true) (noAlias : s.expanding = [])
    (meant : s.token = .word → ∀ text, plainText? s.word = some text →
      (checks.keywords → Token.keyword? s.language text = none) ∧
        (checks.aliases → s.aliases.lookup text = none)) (fuel : Nat) :
    readToken (fuel + 2) checks s = .ok (s.token, { s with putBack := false }) :=
  readToken_eq sameLine (readRaw_putBack s isBack fuel) noAlias meant

theorem length_le_length_written (token : Bytes) :
    token.length ≤ (written token).length := by
  cases define : Define.value? token with
  | none => rw [Invocation.written_of_value?_eq_none define]
  | some value =>
      rw [Invocation.written_of_value?_eq_some define, Bytes.eq_append_of_dropStart? define,
        Define.quoted]
      simp only [List.length_append, List.length_cons]
      omega

/-- An argument is read behind a blank. -/
theorem readToken_written {token : Bytes} (plain : IsPlain token) (s : Source)
    {rest : Bytes} (front : s.rest = Bytes.space :: (written token ++ Bytes.space :: rest))
    (direct : s.IsDirect) (taken : s.putBack = false) {fuel : Nat}
    (enough : token.length + 9 ≤ fuel) :
    readToken fuel {} s = .ok (.word, (s.behind (Bytes.space :: rest)
      (token.count Bytes.newline)).holding (wordOf token)) := by
  obtain ⟨fuel, rfl⟩ : ∃ n, fuel = n + 2 := ⟨fuel - 2, by omega⟩
  let behindBlank := s.behind (written token ++ Bytes.space :: rest) 0
  refine readToken_eq rfl ?_ direct.noAlias fun _ _ _ => ⟨nofun, nofun⟩
  rw [readRaw_blank s front direct.goesOn taken]
  refine (readRaw_written plain behindBlank rfl direct.goesOn taken direct.noDocument
    (by omega)).trans ?_
  rw [Source.behind_behind, Nat.zero_add]

/-! ## A simple command -/

theorem putBack_eq {s : Source} (isBack : s.putBack = true) :
    putBack { s with putBack := false } = .ok ((), s) := by
  cases s
  cases isBack
  rfl

theorem readRaw_newline (s : Source) {rest : Bytes} (front : s.rest = Bytes.newline :: rest)
    (goesOn : s.ended = false) (taken : s.putBack = false) (fuel : Nat) :
    readRaw (fuel + 1) s =
      .ok (.newline, { s.behind rest 1 with token := .newline, quoted := false }) := by
  rw [readRaw, get_bind, if_neg (by simp [taken]), bind_eq (next_eq s goesOn front (by decide))]
  exact bind_eq (skip_eq front) _

/-- The end of a line that has a blank there. -/
theorem exists_readToken_end {s : Source} (direct : s.IsDirect) (taken : s.putBack = false)
    {ending : Bytes} (ends : ending = [] ∨ ending = [Bytes.newline])
    (front : s.rest = Bytes.space :: ending) (fuel : Nat) :
    ∃ s' token, readToken (fuel + 3) {} s = .ok (token, s') ∧ s'.token = token ∧
      Source.IsOver { s' with putBack := true } := by
  let behindBlank := s.behind ending 0
  rcases ends with rfl | rfl
  · let atEnd : Source := { behindBlank with token := .endOfText, quoted := false }
    have raw : readRaw (fuel + 2) s = .ok (.endOfText, atEnd) := by
      rw [readRaw_blank s front direct.goesOn taken]
      exact readRaw_end behindBlank rfl direct.goesOn taken fuel
    exact ⟨atEnd, .endOfText, readToken_eq rfl raw direct.noAlias nofun, rfl,
      { direct with empty := rfl, isBack := rfl, ends := Or.inl rfl }⟩
  · let atEnd : Source := { behindBlank.behind [] 1 with token := .newline, quoted := false }
    have raw : readRaw (fuel + 2) s = .ok (.newline, atEnd) := by
      rw [readRaw_blank s front direct.goesOn taken]
      exact readRaw_newline behindBlank rfl direct.goesOn taken fuel
    exact ⟨atEnd, .newline, readToken_eq rfl raw direct.noAlias nofun, rfl,
      { direct with empty := rfl, isBack := rfl, ends := Or.inr rfl }⟩

theorem readSimple_word {words : List Word} {isFirst : Bool} (begins : words.isEmpty = isFirst)
    {s s' : Source} {fuel : Nat} (read : readToken fuel { aliases := isFirst } s = .ok (.word, s'))
    (noAssignment : isFirst → s'.word.assignment? s'.language = none) (line : Nat) :
    readSimple (fuel + 1) line [] words [] s =
      readSimple fuel line [] (s'.word :: words) [] s' := by
  have noName : (if isFirst then s'.word.assignment? s'.language else none) = none := by
    split
    · next first => exact noAssignment first
    · rfl
  conv_lhs => unfold readSimple
  rw [begins, bind_eq read]
  simp only
  rw [get_bind]
  simp only [noName]

theorem readSimple_end {words : List Word} (begun : words.isEmpty = false) {s s' : Source}
    {fuel : Nat} {token : Token} (read : readToken fuel {} s = .ok (token, s'))
    (ends : token = .endOfText ∨ token = .newline) (line : Nat) :
    readSimple (fuel + 1) line [] words [] s =
      .ok (.simple line [] words.reverse [], { s' with putBack := true }) := by
  unfold readSimple
  rw [begun, bind_eq read]
  rcases ends with rfl | rfl <;> rfl

/-- The arguments of a command are taken one by one. -/
theorem exists_readSimple {tokens : List Bytes} (plain : ∀ token ∈ tokens, IsPlain token)
    (s : Source) (direct : s.IsDirect) (taken : s.putBack = false) {ending : Bytes}
    (ends : ending = [] ∨ ending = [Bytes.newline])
    (front : s.rest = Bytes.space :: (lineOf tokens ++ ending))
    (words : List Word) (begun : words.isEmpty = false) (line : Nat) {fuel : Nat}
    (enough : s.rest.length + 9 ≤ fuel) :
    ∃ s', readSimple fuel line [] words [] s =
      .ok (.simple line [] (words.reverse ++ tokens.map wordOf) [], s') ∧ s'.IsOver := by
  obtain ⟨fuel, rfl⟩ : ∃ n, fuel = n + 1 := ⟨fuel - 1, by omega⟩
  induction tokens generalizing s words fuel with
  | nil =>
      obtain ⟨fuel, rfl⟩ : ∃ n, fuel = n + 3 := ⟨fuel - 3, by omega⟩
      obtain ⟨s', token, read, same, isOver⟩ := exists_readToken_end direct taken ends front fuel
      refine ⟨{ s' with putBack := true }, ?_, isOver⟩
      rw [List.map_nil, List.append_nil]
      exact readSimple_end begun read (same ▸ isOver.ends) line
  | cons token tokens ih =>
      obtain ⟨first, later⟩ := List.forall_mem_cons.mp plain
      let rest := lineOf tokens ++ ending
      have front' : s.rest = Bytes.space :: (written token ++ Bytes.space :: rest) := by
        rw [front, lineOf_cons, List.append_assoc]
        rfl
      have lengths := congrArg List.length front'
      rw [List.length_cons, List.length_append, List.length_cons] at lengths
      have shorter := length_le_length_written token
      have nonempty : 0 < (written token).length := by
        obtain ⟨b, more, begins, -⟩ := exists_written_eq_cons first
        simp [begins]
      obtain ⟨fuel, rfl⟩ : ∃ n, fuel = n + 1 := ⟨fuel - 1, by omega⟩
      let behindWord := (s.behind (Bytes.space :: rest)
        (token.count Bytes.newline)).holding (wordOf token)
      have read : readToken (fuel + 1) {} s = .ok (.word, behindWord) :=
        readToken_written first s front' direct taken (by omega)
      have direct' : behindWord.IsDirect := { direct with }
      have length' : behindWord.rest.length = rest.length + 1 := List.length_cons
      obtain ⟨s', others, isOver⟩ :=
        ih later behindWord direct' taken rfl (wordOf token :: words) rfl fuel (by omega)
      refine ⟨s', ?_, isOver⟩
      rw [readSimple_word begun read nofun]
      refine others.trans ?_
      simp

/-! ## A line of one command -/

/-- The end of a line may be asked for again and again. -/
theorem exists_readToken_over {s : Source} (isOver : s.IsOver) :
    ∃ token, (token = .endOfText ∨ token = .newline) ∧
      ∀ checks : Checks, checks.newlines = false → ∀ fuel,
        readToken (fuel + 2) checks s = .ok (token, { s with putBack := false }) := by
  refine ⟨s.token, isOver.ends, fun checks sameLine =>
    readToken_putBack sameLine isOver.isBack isOver.noAlias ?_⟩
  rcases isOver.ends with isEnd | isEnd <;>
  · rw [isEnd]
    exact nofun

theorem readStages_over {s : Source} (isOver : s.IsOver) (first : Command) (fuel : Nat) :
    readStages (fuel + 3) first s = .ok ([first], s) := by
  obtain ⟨token, ends, read⟩ := exists_readToken_over isOver
  rw [readStages, get_bind, bind_eq (read {} rfl fuel)]
  rcases ends with rfl | rfl <;>
  exact bind_eq (putBack_eq isOver.isBack) _

theorem readAndOrBehind_over {s : Source} (isOver : s.IsOver) (first : Command) (fuel : Nat) :
    readAndOrBehind (fuel + 3) first s = .ok (first, s) := by
  obtain ⟨token, ends, read⟩ := exists_readToken_over isOver
  rw [readAndOrBehind, bind_eq (read {} rfl fuel)]
  rcases ends with rfl | rfl <;>
  exact bind_eq (putBack_eq isOver.isBack) _

theorem readToken_host {s : Source} {host : Bytes} (atHost : s.IsAtHost host) {checks : Checks}
    (sameLine : checks.newlines = false) (fuel : Nat) :
    readToken (fuel + 2) checks s = .ok (.word, { s with putBack := false }) := by
  rw [← atHost.isWord]
  refine readToken_putBack sameLine atHost.isBack atHost.noAlias ?_ fuel
  intro _ text isPlain
  rw [atHost.holds] at isPlain
  obtain rfl : host = text := Option.some.inj isPlain
  exact ⟨fun _ => atHost.noKeyword, fun _ => atHost.noOther⟩

theorem mem_of_mem_nameAtFront {bytes : Bytes} {b : UInt8} (member : b ∈ (nameAtFront bytes).2) :
    b ∈ bytes := by
  unfold nameAtFront at member
  split at member
  · split at member
    · rw [List.span_eq_takeWhile_dropWhile] at member
      exact (List.dropWhile_suffix _).subset member
    · exact member
  · exact member

theorem assignment?_eq_none {host : Bytes} (plain : Bytes.equalsSign ∉ host)
    (language : Language) : Word.assignment? language [.plain host] = none := by
  have behind := fun member => plain (mem_of_mem_nameAtFront member)
  have noSign : assignment? host = none := by
    unfold assignment?
    split
    · rfl
    · next b value front =>
        rw [front] at behind
        refine if_neg fun same : b = _ => behind ?_
        rw [← same]
        exact List.mem_cons_self
    · rfl
  unfold Word.assignment?
  simp only [noSign]
  split
  · next wrong => exact nomatch wrong
  · next front =>
      rw [front] at behind
      exact absurd (List.mem_cons_of_mem _ List.mem_cons_self) behind
  · rfl

/-- A command that begins with a host: the host and the tokens behind it. -/
theorem exists_readCommand {host : Bytes} (hostPlain : Bytes.equalsSign ∉ host)
    {tokens : List Bytes} (plain : ∀ token ∈ tokens, IsPlain token) {s : Source}
    (atHost : s.IsAtHost host) {ending : Bytes} (ends : ending = [] ∨ ending = [Bytes.newline])
    (front : s.rest = Bytes.space :: (lineOf tokens ++ ending))
    {fuel : Nat} (enough : s.rest.length + 11 ≤ fuel) :
    ∃ s', readCommand fuel {} s =
      .ok (.simple s.line [] ([.plain host] :: tokens.map wordOf) [], s') ∧ s'.IsOver := by
  obtain ⟨fuel, rfl⟩ : ∃ n, fuel = n + 4 := ⟨fuel - 4, by omega⟩
  let taken : Source := { s with putBack := false }
  have noAssignment : taken.word.assignment? taken.language = none := by
    show s.word.assignment? s.language = none
    rw [atHost.holds]
    exact assignment?_eq_none hostPlain s.language
  have direct : taken.IsDirect := { atHost with }
  have enough' : s.rest.length + 9 ≤ fuel + 2 := by omega
  obtain ⟨s', others, isOver⟩ :=
    exists_readSimple plain taken direct rfl ends front [s.word] rfl s.line enough'
  refine ⟨s', ?_, isOver⟩
  rw [readCommand, get_bind, bind_eq (readToken_host atHost rfl (fuel + 1))]
  show (putBack >>= _) taken = _
  rw [bind_eq (putBack_eq atHost.isBack), get_bind,
    readSimple_word rfl (readToken_host atHost rfl fuel) fun _ => noAssignment]
  refine others.trans ?_
  rw [atHost.holds]
  rfl

theorem exists_readAndOr {host : Bytes} (hostPlain : Bytes.equalsSign ∉ host)
    {tokens : List Bytes} (plain : ∀ token ∈ tokens, IsPlain token) {s : Source}
    (atHost : s.IsAtHost host) {ending : Bytes} (ends : ending = [] ∨ ending = [Bytes.newline])
    (front : s.rest = Bytes.space :: (lineOf tokens ++ ending))
    {fuel : Nat} (enough : s.rest.length + 13 ≤ fuel) :
    ∃ s', readAndOr fuel s =
      .ok (.simple s.line [] ([.plain host] :: tokens.map wordOf) [], s') ∧ s'.IsOver := by
  obtain ⟨fuel, rfl⟩ : ∃ n, fuel = n + 5 := ⟨fuel - 5, by omega⟩
  let taken : Source := { s with putBack := false }
  obtain ⟨s', read, isOver⟩ := exists_readCommand hostPlain plain atHost ends front
    (show s.rest.length + 11 ≤ fuel + 3 by omega)
  have pipeline : readPipeline (fuel + 4) {} s =
      .ok (.simple s.line [] ([.plain host] :: tokens.map wordOf) [], s') := by
    rw [readPipeline, bind_eq (readToken_host atHost rfl (fuel + 1)), if_neg nofun]
    show (putBack >>= _) taken = _
    rw [bind_eq (putBack_eq atHost.isBack)]
    show (readCommand (fuel + 3) {} >>= _) s = _
    rw [bind_eq read, bind_eq (readStages_over isOver _ fuel)]
    rfl
  refine ⟨s', ?_, isOver⟩
  rw [readAndOr, bind_eq pipeline]
  exact readAndOrBehind_over isOver _ (fuel + 1)

theorem readDocuments_eq {s : Source} (noPending : s.pending = []) (fuel : Nat) :
    readDocuments (fuel + 1) s = .ok ((), s) := by
  rw [readDocuments, get_bind, noPending]
  rfl

/-- A newline ends the commands in front of it. -/
theorem readList_newline {s s' : Source} {fuel : Nat}
    (read : readToken (fuel + 1) Checks.command s = .ok (.newline, s'))
    (noPending : s'.pending = []) {done : Command} (begun : done ≠ .nothing) :
    readList (fuel + 2) .line done s = .ok (done, s') := by
  rw [readList]
  · refine (bind_eq read _).trans ?_
    exact bind_eq (readDocuments_eq noPending fuel) _
  · exact begun

/-- A line holds a single command if nothing but its end stands behind the command. -/
theorem exists_readList_simple {s s' : Source} {fuel : Nat}
    (first : readToken (fuel + 4) Checks.command s = .ok (.word, s')) {line : Nat}
    {words : List Word} {t : Source}
    (command : readAndOr (fuel + 4) { s' with putBack := true } = .ok (.simple line [] words [], t))
    (isOver : t.IsOver) :
    ∃ t', readList (fuel + 5) .line .nothing s = .ok (.simple line [] words [], t') ∧
      t'.IsDirect ∧ t'.rest = [] := by
  obtain ⟨token, ends, last⟩ := exists_readToken_over isOver
  let behind : Source := { t with putBack := false }
  have direct : behind.IsDirect := { isOver with }
  rcases ends with rfl | rfl
  · refine ⟨{ behind with token := .endOfText, putBack := true }, ?_, { isOver with },
      isOver.empty⟩
    rw [readList]
    refine (bind_eq first _).trans ?_
    refine (modify_bind _ _ s').trans ?_
    refine (bind_eq command _).trans ?_
    refine (bind_eq (last {} rfl (fuel + 2)) _).trans ?_
    exact bind_eq (readDocuments_eq direct.noPending (fuel + 3)) _
  · refine ⟨behind, ?_, direct, isOver.empty⟩
    rw [readList]
    refine (bind_eq first _).trans ?_
    refine (modify_bind _ _ s').trans ?_
    refine (bind_eq command _).trans ?_
    refine (bind_eq (last {} rfl (fuel + 2)) _).trans ?_
    refine (bind_eq (putBack_eq isOver.isBack) _).trans ?_
    exact readList_newline (last Checks.command rfl (fuel + 1)) isOver.noPending nofun

/-- The line of a command whose words are plain holds these words, and nothing else. -/
theorem exists_readList {host : Bytes} (hostPlain : IsPlainHost host)
    {tokens : List Bytes} (plain : ∀ token ∈ tokens, IsPlain token) (s : Source)
    (direct : s.IsDirect) (taken : s.putBack = false) {ending : Bytes}
    (ends : ending = [] ∨ ending = [Bytes.newline])
    (front : s.rest = lineOf (host :: tokens) ++ ending)
    (noKeyword : Token.keyword? s.language host = none) (noOther : s.aliases.lookup host = none)
    {fuel : Nat} (enough : s.rest.length + 15 ≤ fuel) :
    ∃ s', readList fuel .line .nothing s =
      .ok (.simple s.line [] ((host :: tokens).map wordOf) [], s') ∧ s'.IsDirect ∧
        s'.rest = [] := by
  obtain ⟨fuel, rfl⟩ : ∃ n, fuel = n + 5 := ⟨fuel - 5, by omega⟩
  have isWord : wordOf host = [.plain host] := by
    rw [wordOf, value?_eq_none_of_isPlainHost hostPlain]
  have noNewline : host.count Bytes.newline = 0 :=
    List.count_eq_zero.mpr fun member => absurd (hostPlain.safe _ member) (by decide)
  let rest := lineOf tokens ++ ending
  have front' : s.rest = written host ++ Bytes.space :: rest := by
    rw [front, lineOf_cons, List.append_assoc]
    rfl
  have lengths := congrArg List.length front'
  rw [List.length_append, List.length_cons] at lengths
  have shorter := length_le_length_written host
  let behindHost := (s.behind (Bytes.space :: rest) 0).holding [.plain host]
  have read : readToken (fuel + 4) Checks.command s = .ok (.word, behindHost) := by
    have raw := readRaw_written (isPlain_of_isPlainHost hostPlain) s front' direct.goesOn taken
      direct.noDocument (show host.length + 7 ≤ fuel + 3 by omega)
    rw [noNewline, isWord] at raw
    refine readToken_eq rfl raw direct.noAlias fun _ text isText => ?_
    obtain rfl : host = text := Option.some.inj isText
    exact ⟨fun _ => noKeyword, fun _ => noOther⟩
  let atHost : Source := { behindHost with putBack := true }
  have lengths' : atHost.rest.length = rest.length + 1 := List.length_cons
  have isAtHost : atHost.IsAtHost host :=
    { direct with
      isBack := rfl, isWord := rfl, holds := rfl, noKeyword := noKeyword, noOther := noOther }
  obtain ⟨s', command, isOver⟩ := exists_readAndOr hostPlain.not_assignment plain isAtHost ends rfl
    (show atHost.rest.length + 13 ≤ fuel + 4 by omega)
  rw [List.map_cons, isWord]
  exact exists_readList_simple read command isOver

theorem exists_line_over {s : Source} (direct : s.IsDirect) (empty : s.rest = []) :
    ∃ s', line s = .ok (none, s') := by
  let t : Source := { s with putBack := false, pending := [] }
  let t' : Source := { t with token := .endOfText, quoted := false }
  have read : readToken (stepLimit - 1) Checks.command t = .ok (.endOfText, t') :=
    readToken_eq rfl (readRaw_end t empty direct.goesOn rfl (stepLimit - 3)) direct.noAlias nofun
  have documents : readDocuments (stepLimit - 1) t' = .ok ((), t') :=
    readDocuments_eq rfl (stepLimit - 2)
  have list : readList stepLimit .line .nothing t =
      .ok (.nothing, { t' with putBack := true }) := by
    show readList (stepLimit - 1 + 1) .line .nothing t = _
    rw [readList]
    refine (bind_eq read _).trans ?_
    exact bind_eq documents _
  refine ⟨{ t' with putBack := true }, ?_⟩
  unfold line
  refine (modify_bind _ _ s).trans ?_
  exact bind_eq list _

/-- The line is read as one command, and there is nothing behind it. -/
theorem exists_line {host : Bytes} (hostPlain : IsPlainHost host)
    {tokens : List Bytes} (plain : ∀ token ∈ tokens, IsPlain token) {s : Source}
    (goesOn : s.ended = false) (noDocument : s.mark = none) (noAlias : s.expanding = [])
    {ending : Bytes} (ends : ending = [] ∨ ending = [Bytes.newline])
    (front : s.rest = lineOf (host :: tokens) ++ ending)
    (noKeyword : Token.keyword? s.language host = none) (noOther : s.aliases.lookup host = none)
    (enough : s.rest.length + 15 ≤ stepLimit) :
    ∃ s', line s = .ok (some (.simple s.line [] ((host :: tokens).map wordOf) []), s') ∧
      ∃ s'', line s' = .ok (none, s'') := by
  let t : Source := { s with putBack := false, pending := [] }
  obtain ⟨s', list, direct, empty⟩ := exists_readList hostPlain plain t
    ⟨goesOn, noDocument, noAlias, rfl⟩ rfl ends front noKeyword noOther enough
  refine ⟨s', ?_, exists_line_over direct empty⟩
  unfold line
  refine (modify_bind _ _ s).trans ?_
  exact bind_eq list _

end Reader

/-! ## The command line of an invocation -/

/-- A text is read whole, perhaps with a newline behind it. -/
theorem exists_rest_ofText (language : Language) (isFile : Bool) (text : Bytes) :
    ∃ ending, (ending = [] ∨ ending = [Bytes.newline]) ∧
      (Source.ofText language isFile text).rest = text ++ ending := by
  unfold Source.ofText
  dsimp only
  split
  · exact ⟨[Bytes.newline], Or.inr rfl, rfl⟩
  · exact ⟨[], Or.inl rfl, (List.append_nil _).symm⟩

/-- A shell in which the host is neither a keyword nor an alias reads the command line of an
invocation as one command, whose words are the host and the tokens. -/
theorem exists_line_command {host : Bytes} (hostPlain : IsPlainHost host) (names : Bytes → Bool)
    {tokens : List Bytes} (plain : ∀ token ∈ tokens, IsPlain token) {language : Language}
    (isFile : Bool) (noKeyword : Token.keyword? language host = none)
    {aliases : List (Bytes × Bytes)} (noOther : aliases.lookup host = none)
    (documents : List (Nat × Word)) (nextDocument : Nat)
    (enough : (assemble host names tokens).command.length + 16 ≤ Reader.stepLimit) :
    ∃ after,
      Reader.line { Source.ofText language isFile (assemble host names tokens).command with
        language, aliases, documents, nextDocument } =
          .ok (some (.simple 1 [] ((host :: tokens).map wordOf) []), after) ∧
      ∃ atEnd, Reader.line after = .ok (none, atEnd) := by
  obtain ⟨ending, ends, whole⟩ :=
    exists_rest_ofText language isFile (assemble host names tokens).command
  have same : written host = host :=
    Invocation.written_of_value?_eq_none (value?_eq_none_of_isPlainHost hostPlain)
  refine Reader.exists_line hostPlain plain rfl rfl rfl ends ?_ noKeyword noOther ?_
  · show (Source.ofText language isFile _).rest = _
    rw [whole, command_assemble, lineOf_cons, same]
    rfl
  · show (Source.ofText language isFile _).rest.length + 15 ≤ _
    have short : ending.length ≤ 1 := by
      rcases ends with rfl | rfl
      · exact Nat.zero_le 1
      · exact Nat.le_refl 1
    rw [whole, List.length_append]
    omega

end Intercept.Shell
