import Intercept.Shell.Regular.Basic

/-!
# What an expression matches

Of all stretches that an expression matches, the one that begins first counts, and of those the
longest. Where it can be taken apart in several ways, what stands first in the expression takes as
much as it can.
-/

namespace Intercept.Shell

/-- A text in which something is looked for. -/
structure Subject where
  text : Array UInt8
  /-- Whether small letters and capitals are the same. -/
  ignoresCase : Bool := false
  /-- Whether lines end inside the text. -/
  hasLines : Bool := false

/-- A letter in the other case. -/
def otherCase (b : UInt8) : UInt8 :=
  if 0x41 ≤ b && b ≤ 0x5A then b + 0x20 else if 0x61 ≤ b && b ≤ 0x7A then b - 0x20 else b

/-- How far a part of an expression has come: the place in the text, and the stretches of groups. -/
structure Reached where
  place : Nat
  groups : List (Nat × Nat × Nat) := []
  deriving DecidableEq, Repr

namespace Reached

/-- The stretch of a group, from one place to another. -/
def group? (r : Reached) (number : Nat) : Option (Nat × Nat) := r.groups.lookup number

def withGroup (r : Reached) (number start : Nat) : Reached :=
  { r with groups := (number, start, r.place) :: r.groups.filter (·.1 ≠ number) }

end Reached

namespace Subject

def ofBytes (bytes : Bytes) (ignoresCase hasLines : Bool := false) : Subject :=
  { text := bytes.toArray, ignoresCase, hasLines }

def slice (s : Subject) (start stop : Nat) : Bytes := (s.text.extract start stop).toList

/-- Whether the byte at a place belongs to a word. -/
def isWordAt (s : Subject) (place : Nat) : Bool := (s.text[place]?).any isNameByte

/-- Whether a place is of a kind. -/
def isAt (s : Subject) (place : Nat) (e : Edge) : Bool :=
  let before := 0 < place && s.isWordAt (place - 1)
  let behind := s.isWordAt place
  let isNewline (at_ : Nat) : Bool := s.hasLines && s.text[at_]? = some Bytes.newline
  match e with
  | .lineStart => place = 0 || isNewline (place - 1)
  | .lineEnd => place = s.text.size || isNewline place
  | .textStart => place = 0
  | .textEnd => place = s.text.size
  | .wordStart => !before && behind
  | .wordEnd => before && !behind
  | .word isOne => (before != behind) = isOne

/-- Whether a byte of the text is in a set. -/
def admits (s : Subject) (set : ByteSet) (b : UInt8) : Bool :=
  set.contains b || (s.ignoresCase && set.contains (otherCase b) && !set.inverted)

/-- Whether two stretches hold the same bytes. -/
def isSame (s : Subject) (first second : Bytes) : Bool :=
  let folded (b : UInt8) : UInt8 := if s.ignoresCase then max b (otherCase b) else b
  first.map folded = second.map folded

/-- All that is reached by any number of steps, what is reached by more of them first. Each place is
reached once. The first argument bounds the number of steps. -/
def closure (step : Reached → List Reached) :
    Nat → Reached → List Nat × List Reached → List Nat × List Reached
  | 0, _, state => state
  | fuel + 1, r, (places, all) =>
    if places.contains r.place then (places, all)
    else
      let (places, all) := (step r).foldl (fun state next =>
        if r.place < next.place then closure step fuel next state else state)
        (r.place :: places, all)
      (places, all ++ [r])

/-- What is reached by so many steps at most, what is reached by more of them first. -/
def upTo (step : Reached → List Reached) : Nat → List Reached → List Reached
  | 0, all => all
  | count + 1, all =>
    let further := ((all.flatMap step).filter fun r => all.all (·.place < r.place) ||
      !all.contains r).eraseDups
    if further.isEmpty then all else (upTo step count further ++ all).eraseDups

/-- What is reached by exactly so many steps. -/
def exactly (step : Reached → List Reached) : Nat → List Reached → List Reached
  | 0, all => all
  | count + 1, all =>
    let next := (all.flatMap step).eraseDups
    if next.isEmpty || next = all then next else exactly step count next

/-- All that an expression can reach, in the order in which it is to be tried. -/
def reach (s : Subject) : Regular → Reached → List Reached
  | .nothing, r => [r]
  | .one set, r =>
    match s.text[r.place]? with
    | some b => if s.admits set b then [{ r with place := r.place + 1 }] else []
    | none => []
  | .edge e, r => if s.isAt r.place e then [r] else []
  | .again number, r =>
    match r.group? number with
    | none => []
    | some (start, stop) =>
      let length := stop - start
      if s.isSame (s.slice start stop) (s.slice r.place (r.place + length)) then
        [{ r with place := r.place + length }]
      else []
  | .group number inner, r => (s.reach inner r).map fun after => after.withGroup number r.place
  | .behind first second, r => ((s.reach first r).flatMap (s.reach second)).eraseDups
  | .either first second, r => (s.reach first r ++ s.reach second r).eraseDups
  | .repeated least most inner, r =>
    let step := s.reach inner
    let started := exactly step least [r]
    match most with
    | some most => upTo step (most - least) started
    | none =>
      (started.flatMap fun r => (closure step (s.text.size + 1) r ([], [])).2).eraseDups

/-- The longest match that begins at a place. -/
def matchAt? (s : Subject) (expression : Regular) (start : Nat) : Option Reached :=
  (s.reach expression { place := start }).foldl (fun best r =>
    match best with
    | none => some r
    | some best => some (if best.place < r.place then r else best)) none

/-- The first match that begins at a place or behind it, with where it begins. The first argument is
how many places there are. -/
def searchFrom? (s : Subject) (expression : Regular) : Nat → Nat → Option (Nat × Reached)
  | 0, _ => none
  | count + 1, start =>
    match s.matchAt? expression start with
    | some r => some (start, r)
    | none => s.searchFrom? expression count (start + 1)

/-- The first match that begins at a place or behind it, with where it begins. -/
def search? (s : Subject) (expression : Regular) (start : Nat := 0) : Option (Nat × Reached) :=
  s.searchFrom? expression (s.text.size + 1 - start) start

end Subject

end Intercept.Shell
