import Intercept.EventLog.Expression.Escape

/-!
# Sets of characters

A set stands between brackets: characters, ranges, kinds and other sets, and operators between
groups of them. Read are how deep the sets in it lie, and whether it names any character.
-/

namespace Intercept.EventLog.Expression

/-- What is known of a set. -/
structure Extent where
  depth : Nat := 0
  namesAny : Bool := false
  deriving DecidableEq, Repr

/-- The members of a set since its last operator. -/
structure Members where
  count : Nat := 0
  extent : Extent := {}
  deriving DecidableEq, Repr

namespace Members

/-- The members with one more. -/
def add (members : Members) (depth : Nat) : Members :=
  { count := members.count + 1, extent := ⟨max members.extent.depth depth, true⟩ }

/-- Several members lie one level below what holds them. -/
def whole (members : Members) : Extent :=
  if members.count ≥ 2 then { members.extent with depth := members.extent.depth + 1 }
  else members.extent

/-- The members behind what stands before an operator, if there is one. -/
def after (members : Members) : Option Extent → Extent
  | none => members.whole
  | some left =>
    { depth := max left.depth members.whole.depth + 1
      namesAny := left.namesAny || members.whole.namesAny }

end Members

/-- The sets that have names. -/
def setNames : List String :=
  ["alnum", "alpha", "ascii", "blank", "cntrl", "digit", "graph", "lower", "print", "punct",
    "space", "upper", "word", "xdigit"]

/-- Whether a set by its name is turned round, and what follows it, if the text behind a bracket is
one. -/
def namedSet? (text : List Char) : Option (Bool × List Char) :=
  match text with
  | ':' :: rest =>
    let (isNegated, rest) := match rest with
      | '^' :: rest => (true, rest)
      | rest => (false, rest)
    match rest.span (· ≠ ':') with
    | (name, ':' :: ']' :: after) =>
      if setNames.contains (String.ofList name) then some (isNegated, after) else none
    | _ => none
  | _ => none

/-- The dashes at the beginning of a set, which stand for themselves, and what follows. -/
def firstDashes (m : Manner) : Nat → Members → List Char → Option (Members × List Char)
  | 0, _, _ => none
  | fuel + 1, members, text =>
    match text with
    | '-' :: rest => (m.next? rest).bind (firstDashes m fuel (members.add 0))
    | _ => some (members, text)

/-- The members with which a set begins, and what follows: a closing bracket that comes first stands
for itself. -/
def firstMembers (m : Manner) (text : List Char) : Option (Members × List Char) := do
  let (members, rest) ← firstDashes m (text.length + 1) {} text
  match members.count, rest with
  | 0, ']' :: after => (m.next? after).map (members.add 0, ·)
  | _, _ => some (members, rest)

/-- What a text begins with inside brackets, and what follows it. -/
def item? (m : Manner) : List Char → Option (Escape × List Char)
  | [] => none
  | '\\' :: rest => escape? m rest
  | c :: rest => some (.character c false, rest)

/-- Whether a dash does not begin a range, given what follows it. -/
def isLastDash (m : Manner) (text : List Char) : Bool :=
  let ahead :=
    if m.isSpaced then
      match text.dropWhile Characters.isBlank with
      | '#' :: rest => rest.dropWhile Characters.isBlank
      | rest => rest
    else text
  ahead.head?.any fun c => c = ']' || c = '-'

/-- What follows a character, a kind or a range in a set, if it may stand there. -/
def afterMember? (m : Manner) (text : List Char) : Option (List Char) := do
  let (first, rest) ← item? m text
  let alone (rest : List Char) : Option (List Char) :=
    match first with
    | .character c _ => if m.admitsMember c then some rest else none
    | .kind isNegated => if m.admitsKind isNegated then some rest else none
    | .place _ => none
  match ← m.next? rest with
  | '-' :: behind =>
    if isLastDash m behind then alone ('-' :: behind)
    else
      match first, ← item? m (← m.next? behind) with
      | .character c _, (.character d _, rest) =>
        if c ≤ d ∧ m.admitsMember c ∧ m.admitsMember d then some rest else none
      | _, _ => none
  | rest => alone rest

/-- A set from the text behind its opening bracket, and what follows it. -/
def set? (m : Manner) : Nat → List Char → Option (Extent × List Char)
  | 0, _ => none
  | fuel + 1, text => do
    let (isNegated, inside) ← match ← m.next? text with
      | '^' :: rest => (m.next? rest).map (true, ·)
      | rest => some (false, rest)
    let (members, rest) ← firstMembers m inside
    let (extent, after) ← members? fuel none members rest
    if isNegated && !m.allScripts || extent.namesAny && m.allScripts && m.foldsCase then none
    else some ({ extent with depth := extent.depth + 1 }, after)
where
  /-- The members of a set up to its closing bracket, and what follows that. -/
  members? : Nat → Option Extent → Members → List Char → Option (Extent × List Char)
    | 0, _, _, _ => none
    | fuel + 1, left, members, text =>
      match m.skip text with
      | [] => none
      | ']' :: rest => some (members.after left, rest)
      | '&' :: '&' :: rest | '-' :: '-' :: rest | '~' :: '~' :: rest =>
        members? fuel (some (members.after left)) {} rest
      | '[' :: rest =>
        match namedSet? rest with
        | some (isNegated, after) =>
          if m.allScripts || !isNegated then members? fuel left (members.add 0) after else none
        | none => do
          let (extent, after) ← set? m fuel rest
          members? fuel left
            { count := members.count + 1
              extent := ⟨max members.extent.depth extent.depth,
                members.extent.namesAny || extent.namesAny⟩ } after
      | rest => do members? fuel left (members.add 0) (← afterMember? m rest)

end Intercept.EventLog.Expression
