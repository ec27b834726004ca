import Intercept.EventLog.Expression.Manner

/-!
# How a group begins

Behind its bracket a group may have a name, or flags. Flags that are closed at once are no group and
hold for the rest of the one around them.
-/

namespace Intercept.EventLog.Expression

inductive Opening where
  /-- A group, its name if it has one, and how it is read. -/
  | group (name : Option String) (inside : Manner)
  /-- Flags only. -/
  | flags (manner : Manner)
  deriving DecidableEq, Repr

/-- Whether a character may stand in the name of a group. -/
def isOfName (isFirst : Bool) (c : Char) : Bool :=
  if isFirst then c = '_' || Characters.isAlphabetic c
  else "_.[]".contains c || Characters.isAlphanumeric c

/-- The name of a group, and what follows the angle bracket that closes it. -/
def groupName? (text : List Char) : Option (String × List Char) :=
  match text.span (· ≠ '>') with
  | (first :: others, _ :: rest) =>
    if isOfName true first && others.all (isOfName false) then
      some (String.ofList (first :: others), rest)
    else none
  | _ => none

/-- The flags up to the sign that ends them, that sign, and what follows. Nothing is given twice,
and something follows a minus. -/
def flags? (m : Manner) (seen : List Char) : List Char → Option (Manner × Char × List Char)
  | [] => none
  | c :: rest =>
    if c = ':' ∨ c = ')' then
      if seen.head? = some '-' ∨ c = ')' ∧ seen = [] then none else some (m, c, rest)
    else if seen.contains c || !"imsUuRx-".contains c then none
    else flags? (m.turned (!seen.contains '-') c) (c :: seen) rest

/-- How a group begins whose opening bracket stands before the text, and what follows. -/
def opening? (m : Manner) (text : List Char) : Option (Opening × List Char) :=
  match m.skip text with
  | '?' :: '=' :: _ | '?' :: '!' :: _ | '?' :: '<' :: '=' :: _ | '?' :: '<' :: '!' :: _ => none
  | '?' :: 'P' :: '<' :: rest | '?' :: '<' :: rest =>
    (groupName? rest).map fun (name, rest) => (.group (some name) m, rest)
  | '?' :: rest =>
    (flags? m [] rest).map fun (manner, sign, rest) =>
      (if sign = ':' then .group none manner else .flags manner, rest)
  | rest => some (.group none m, rest)

end Intercept.EventLog.Expression
