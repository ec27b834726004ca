import Intercept.Proofs.Shell.Line
import Intercept.Shell.Call

/-!
# The call that a command line makes

The shell expands the words of a command one after the other, before it calls what they name. The
word of a plain token has no tilde, no braces and no pattern outside quotes, and nothing between
quotes that is expanded. So it comes to one field, whatever the process is like, and leaves the
process as it is.

Results:
1. `fieldsOf_solid`, `expandPaths_eq`: atoms that stand for themselves are one field, and a field of
   such bytes is one path.
2. `expandWord_wordOf`: a token's word comes to the token, with one blank more behind a define.
3. `expandCall_wordOf`: the call of a host has the tokens as its arguments.
-/

namespace Intercept.Shell

open Invocation (IsPlain IsPlainHost padded)

/-! ## Definitions -/

/-- The bytes that mean something in a pattern: a star, a question mark, an opening bracket and a
backslash. -/
def patternSigns : Bytes := [0x2A, 0x3F, 0x5B, 0x5C]

/-- A mark that stands for itself in a pattern. -/
def Mark.IsLiteral (m : Mark) : Prop := m.quoted = true ∨ m.byte ∉ patternSigns

/-- An atom that belongs to a field as it stands. -/
inductive Atom.IsSolid : Atom → Prop where
  | anchor : Atom.IsSolid .anchor
  | mark (m : Mark) : Atom.IsSolid (.mark m false)

/-- The atoms of a token's word. -/
def atomsOf (token : Bytes) : List Atom :=
  match Define.value? token with
  | some value =>
    Atom.whole false Define.marker ++ .anchor :: Atom.whole true (value ++ [Bytes.space])
  | none => Atom.whole false token

/-! ## Computations from a state -/

theorem runFrom_bind {α β : Type} {action : Action α} {p p' : Process} {a : α}
    (step : action.runFrom p = (.ok a, p')) (f : α → Action β) :
    (action >>= f).runFrom p = (f a).runFrom p' := by
  show (ExceptT.bindCont f (action.runFrom p).1 : Action β).run (action.runFrom p).2 = _
  rw [step]
  rfl

theorem runFrom_get_bind {β : Type} (f : Process → Action β) (p : Process) :
    (get >>= f).runFrom p = (f p).runFrom p := rfl

theorem runFrom_mapM {α β : Type} {f : α → Action β} {g : α → β} {p : Process} {as : List α}
    (each : ∀ a ∈ as, (f a).runFrom p = (.ok (g a), p)) :
    (as.mapM f).runFrom p = (.ok (as.map g), p) := by
  induction as with
  | nil => rfl
  | cons a as ih =>
      obtain ⟨first, later⟩ := List.forall_mem_cons.mp each
      rw [List.mapM_cons, runFrom_bind first, runFrom_bind (ih later)]
      rfl

/-! ## Marks that stand for themselves -/

theorem Mark.IsLiteral.not_isBare {m : Mark} (literal : m.IsLiteral) {b : UInt8}
    (special : b ∈ patternSigns) : m.isBare b = false := by
  unfold Mark.isBare
  rcases literal with quoted | plain
  · rw [quoted]
    rfl
  · have other : m.byte ≠ b := fun same => plain (same ▸ special)
    rw [decide_eq_false other, Bool.and_false]

theorem resolveBackslashes_eq {marks : List Mark} (literal : ∀ m ∈ marks, m.IsLiteral) :
    resolveBackslashes marks = marks := by
  fun_induction resolveBackslashes marks with
  | case1 => rfl
  | case2 m =>
      rw [(literal m List.mem_cons_self).not_isBare (by decide)]
      rfl
  | case3 m n rest bare =>
      rw [(literal m List.mem_cons_self).not_isBare (by decide)] at bare
      cases bare
  | case4 m n rest _ ih =>
      rw [ih fun k member => literal k (List.mem_cons_of_mem m member)]

theorem compile_eq {marks : List Mark} (literal : ∀ m ∈ marks, m.IsLiteral) {fuel : Nat}
    (enough : marks.length ≤ fuel) :
    compile fuel marks = marks.map fun m => .exactly m.byte := by
  induction marks generalizing fuel with
  | nil => cases fuel <;> rfl
  | cons m rest ih =>
      obtain ⟨first, later⟩ := List.forall_mem_cons.mp literal
      obtain ⟨fuel, rfl⟩ : ∃ n, fuel = n + 1 := ⟨fuel - 1, by simp at enough; omega⟩
      rw [compile, first.not_isBare (by decide), first.not_isBare (by decide),
        first.not_isBare (by decide), ih later (Nat.le_of_succ_le_succ enough)]
      rfl

theorem bytes?_map_exactly (marks : List Mark) :
    Pattern.bytes? (marks.map fun m => .exactly m.byte) = some (Mark.bytes marks) := by
  induction marks with
  | nil => rfl
  | cons m rest ih =>
      unfold Pattern.bytes? at ih ⊢
      rw [List.map_cons, List.mapM_cons, ih]
      rfl

theorem mem_of_mem_splitMarks {marks segment : List Mark} (member : segment ∈ splitMarks marks)
    {m : Mark} (inside : m ∈ segment) : m ∈ marks := by
  fun_induction splitMarks marks generalizing segment with
  | case1 =>
      rw [List.mem_singleton.mp member] at inside
      exact inside
  | case2 n rest _ ih =>
      rcases List.mem_cons.mp member with rfl | later
      · exact nomatch inside
      · exact List.mem_cons_of_mem n (ih later inside)
  | case3 n rest _ none ih =>
      rw [List.mem_singleton.mp member] at inside
      rw [List.mem_singleton.mp inside]
      exact List.mem_cons_self
  | case4 n rest _ part parts cut ih =>
      rw [cut] at ih
      rcases List.mem_cons.mp member with rfl | later
      · rcases List.mem_cons.mp inside with rfl | behind
        · exact List.mem_cons_self
        · exact List.mem_cons_of_mem n (ih List.mem_cons_self behind)
      · exact List.mem_cons_of_mem n (ih (List.mem_cons_of_mem part later) inside)

/-- A field in which every byte stands for itself is the only path that it stands for. -/
theorem expandPaths_eq (p : Process) {marks : List Mark} (literal : ∀ m ∈ marks, m.IsLiteral) :
    expandPaths p marks = [Mark.bytes marks] := by
  have literalOnly : ∀ segment ∈ (splitMarks (resolveBackslashes marks)).map
      (fun segment => compile segment.length segment), (Pattern.bytes? segment).isSome := by
    rw [resolveBackslashes_eq literal]
    intro pattern member
    obtain ⟨segment, inMarks, rfl⟩ := List.mem_map.mp member
    have own : ∀ m ∈ segment, m.IsLiteral :=
      fun m inside => literal m (mem_of_mem_splitMarks inMarks inside)
    rw [compile_eq own (Nat.le_refl _), bytes?_map_exactly]
    rfl
  unfold expandPaths
  simp only
  rw [List.all_eq_true.mpr literalOnly, Bool.or_true, if_pos rfl]

/-! ## Fields -/

theorem splitAtoms_solid (separators : Separators) {atoms : List Atom}
    (solid : ∀ a ∈ atoms, a.IsSolid) (current : List Mark) (behindBlank : Bool) :
    splitAtoms separators (some current) behindBlank atoms =
      [current.reverse ++ marksOf atoms] := by
  induction atoms generalizing current behindBlank with
  | nil => simp [splitAtoms, marksOf]
  | cons atom rest ih =>
      obtain ⟨first, later⟩ := List.forall_mem_cons.mp solid
      cases first with
      | anchor =>
          rw [splitAtoms, Option.getD_some, ih later]
          rfl
      | mark m =>
          rw [splitAtoms, Bool.false_and, Bool.false_and, if_neg nofun, if_neg nofun,
            Option.getD_some, ih later, List.reverse_cons, List.append_assoc]
          rfl

/-- Atoms that belong to a field as they stand are one field. -/
theorem fieldsOf_solid (separators : Separators) {atoms : List Atom} (nonempty : atoms ≠ [])
    (solid : ∀ a ∈ atoms, a.IsSolid) : fieldsOf separators atoms = [marksOf atoms] := by
  obtain ⟨atom, rest, rfl⟩ := List.exists_cons_of_ne_nil nonempty
  obtain ⟨first, later⟩ := List.forall_mem_cons.mp solid
  unfold fieldsOf
  cases first with
  | anchor => rw [splitAtoms, splitAtoms_solid separators later]; rfl
  | mark m =>
      rw [splitAtoms, Bool.false_and, Bool.false_and, if_neg nofun, if_neg nofun,
        splitAtoms_solid separators later]
      rfl

/-! ## Words -/

/-- Bytes without a tilde at the front are as they stand. -/
theorem plainAtoms_argument (p : Process) {bytes : Bytes} (noTilde : bytes.head? ≠ some 0x7E)
    (last : Bool) : plainAtoms p .argument true last bytes = Atom.whole false bytes := by
  have own : tildeAtoms p last (Atom.whole false) bytes = Atom.whole false bytes := by
    unfold tildeAtoms
    split
    · exact absurd rfl noTilde
    · rfl
  exact own

theorem expandParts_wordOf (output : Command → Action Bytes) (p : Process) {token : Bytes}
    (plain : IsPlain token) :
    (expandParts output .argument true (wordOf token)).runFrom p = (.ok (atomsOf token), p) := by
  unfold wordOf atomsOf
  cases define : Define.value? token with
  | none =>
      have noTilde : token.head? ≠ some 0x7E := by
        rw [IsPlain, define] at plain
        exact fun tilde => absurd (plain.2 _ (List.mem_of_head? tilde)) (by decide)
      simp only [expandParts, expandPart]
      show (Except.ok (plainAtoms p .argument true true token ++ []), p) = _
      rw [plainAtoms_argument p noTilde, List.append_nil]
  | some value =>
      simp only [expandParts, expandPart]
      show (Except.ok (plainAtoms p .argument true false Define.marker ++
        (.anchor :: (Atom.whole true (value ++ [Bytes.space]) ++ []) ++ [])), p) = _
      rw [plainAtoms_argument p (by decide), List.append_nil, List.append_nil]

theorem isSolid_of_mem_whole {quoted : Bool} {bytes : Bytes} :
    ∀ a ∈ Atom.whole quoted bytes, a.IsSolid := by
  intro a member
  obtain ⟨b, -, rfl⟩ := List.mem_map.mp member
  exact .mark ⟨b, quoted⟩

theorem marksOf_append (front back : List Atom) :
    marksOf (front ++ back) = marksOf front ++ marksOf back := List.filterMap_append

theorem marksOf_whole (quoted : Bool) (bytes : Bytes) :
    marksOf (Atom.whole quoted bytes) = bytes.map fun b => ⟨b, quoted⟩ := by
  induction bytes with
  | nil => rfl
  | cons b rest ih => exact congrArg (⟨b, quoted⟩ :: ·) ih

theorem bytes_marksOf_whole (quoted : Bool) (bytes : Bytes) :
    Mark.bytes (marksOf (Atom.whole quoted bytes)) = bytes := by
  rw [marksOf_whole, Mark.bytes, List.map_map]
  exact List.map_id bytes

theorem isLiteral_of_safe {bytes : Bytes} (safe : ∀ b ∈ bytes, Words.isSafe b) :
    ∀ m ∈ marksOf (Atom.whole false bytes), m.IsLiteral := by
  have meant : ∀ b ∈ patternSigns, ¬ Words.isSafe b := List.any_eq_false.mp (by decide)
  intro m member
  rw [marksOf_whole] at member
  obtain ⟨b, inBytes, rfl⟩ := List.mem_map.mp member
  exact Or.inr fun special => meant b special (safe b inBytes)

theorem isLiteral_of_quoted (bytes : Bytes) :
    ∀ m ∈ marksOf (Atom.whole true bytes), m.IsLiteral := by
  intro m member
  rw [marksOf_whole] at member
  obtain ⟨b, -, rfl⟩ := List.mem_map.mp member
  exact Or.inl rfl

/-- The atoms of a plain token are one field without a pattern, which holds the token. -/
theorem atomsOf_plain {token : Bytes} (plain : IsPlain token) :
    atomsOf token ≠ [] ∧ (∀ a ∈ atomsOf token, a.IsSolid) ∧
      (∀ m ∈ marksOf (atomsOf token), m.IsLiteral) ∧
      Mark.bytes (marksOf (atomsOf token)) = padded 1 token := by
  unfold atomsOf
  cases define : Define.value? token with
  | none =>
      rw [IsPlain, define] at plain
      refine ⟨fun empty => plain.1 (List.map_eq_nil_iff.mp empty), isSolid_of_mem_whole,
        isLiteral_of_safe plain.2, ?_⟩
      rw [bytes_marksOf_whole, Invocation.padded_of_value?_eq_none define]
  | some value =>
      simp only [marksOf_append]
      refine ⟨List.append_ne_nil_of_right_ne_nil _ (List.cons_ne_nil _ _), ?_, ?_, ?_⟩
      · refine List.forall_mem_append.mpr ⟨isSolid_of_mem_whole, ?_⟩
        exact List.forall_mem_cons.mpr ⟨.anchor, isSolid_of_mem_whole⟩
      · exact List.forall_mem_append.mpr ⟨isLiteral_of_safe Reader.isSafe_of_mem_marker,
          isLiteral_of_quoted _⟩
      · obtain rfl : token = Define.marker ++ value := Bytes.eq_append_of_dropStart? define
        rw [Invocation.padded_marker_append, Mark.bytes, List.map_append]
        exact congrArg₂ (· ++ ·) (bytes_marksOf_whole false _) (bytes_marksOf_whole true _)

/-! ## What is passed on -/

/-- Outside quotes there are no braces in the word of a plain token. -/
theorem alternatives_wordOf {token : Bytes} (plain : IsPlain token) :
    (wordOf token).alternatives = [wordOf token] := by
  have noBraces : ((wordOf token).flatMap Piece.ofPart).any (·.isSign '\x7b') = false := by
    unfold wordOf
    cases define : Define.value? token with
    | none =>
        rw [IsPlain, define] at plain
        refine List.any_eq_false.mpr fun piece member brace => ?_
        rw [List.flatMap_singleton] at member
        obtain ⟨b, inToken, rfl⟩ := List.mem_map.mp member
        have isBrace : b = 0x7B := of_decide_eq_true brace
        exact absurd (plain.2 b inToken) (isBrace ▸ by decide)
    | some value => rfl
  unfold Word.alternatives
  simp only
  rw [noBraces, if_neg nofun]

theorem expandWord_wordOf (output : Command → Action Bytes) (p : Process) {token : Bytes}
    (plain : IsPlain token) :
    (expandWord output (wordOf token)).runFrom p = (.ok [padded 1 token], p) := by
  obtain ⟨nonempty, solid, literal, bytes⟩ := atomsOf_plain plain
  have fields : (fieldsOf p.separators (atomsOf token)).flatMap (expandPaths p) =
      [padded 1 token] := by
    rw [fieldsOf_solid p.separators nonempty solid, List.flatMap_singleton,
      expandPaths_eq p literal, bytes]
  have words : (if p.switches.isOn "braceexpand" then (wordOf token).alternatives
      else [wordOf token]) = [wordOf token] := by
    rw [alternatives_wordOf plain, ite_self]
  unfold expandWord
  rw [runFrom_get_bind, words]
  refine (runFrom_bind (runFrom_mapM (g := fun _ => [padded 1 token]) ?_) _).trans rfl
  intro word member
  rw [List.mem_singleton.mp member, runFrom_bind (expandParts_wordOf output p plain)]
  exact congrArg (fun fields => (Except.ok fields, p)) fields

/-- The fields of the arguments are put behind those that the call has. -/
theorem expandCall_arguments (output : Command → Action Bytes) (p : Process) {tokens : List Bytes}
    (plain : ∀ token ∈ tokens, IsPlain token) (fields : List Bytes) :
    (expandCall output { fields, next := .argument } (tokens.map wordOf)).runFrom p =
      (.ok { fields := fields ++ tokens.map (padded 1), next := .argument }, p) := by
  induction tokens generalizing fields with
  | nil =>
      rw [List.map_nil, List.map_nil, List.append_nil]
      rfl
  | cons token tokens ih =>
      obtain ⟨first, later⟩ := List.forall_mem_cons.mp plain
      rw [List.map_cons, expandCall]
      refine (runFrom_bind (expandWord_wordOf output p first) _).trans ?_
      refine (ih later (fields ++ [padded 1 token])).trans ?_
      rw [List.append_assoc]
      rfl

/-- The call of a host that is no command of the shell: a host and its arguments. -/
theorem expandCall_wordOf (output : Command → Action Bytes) (p : Process) {host : Bytes}
    (hostPlain : IsPlainHost host) (notOwn : Builtin.find? p.language host = none)
    {tokens : List Bytes} (plain : ∀ token ∈ tokens, IsPlain token) :
    (expandCall output {} ((host :: tokens).map wordOf)).runFrom p =
      (.ok { fields := host :: tokens.map (padded 1), next := .argument }, p) := by
  let isFunction (name : Bytes) : Bool := (p.functions.lookup name).isSome
  have named : Call.push p.language isFunction {} host =
      { fields := [host], next := .argument } := by
    unfold Call.push Call.named
    simp only [notOwn]
    exact ite_self _
  rw [List.map_cons, expandCall]
  refine (runFrom_bind (expandWord_wordOf output p (isPlain_of_isPlainHost hostPlain)) _).trans ?_
  rw [Invocation.padded_of_value?_eq_none (value?_eq_none_of_isPlainHost hostPlain)]
  show (expandCall output (Call.push p.language isFunction {} host) (tokens.map wordOf)).runFrom p =
    _
  rw [named]
  exact expandCall_arguments output p plain [host]

end Intercept.Shell
