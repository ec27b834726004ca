import Intercept.Shell.Editor.Script
import Intercept.Shell.Regular.Match

/-!
# Substitutions

Matches of an expression are replaced by texts that may hold what groups have matched. An empty
match right behind another one does not count.
-/

namespace Intercept.Shell.Editor

/-- How the letters of a replacement are written: all that follow, and the next one. -/
structure Casing where
  all : CaseChange := .none
  next : CaseChange := .none

namespace Casing

def apply (how : CaseChange) (b : UInt8) : UInt8 :=
  match how with
  | .upper | .upperNext => if 0x61 ≤ b && b ≤ 0x7A then b - 0x20 else b
  | .lower | .lowerNext => if 0x41 ≤ b && b ≤ 0x5A then b + 0x20 else b
  | .none => b

/-- A text as it is written, and how the rest is. -/
def write (c : Casing) : Bytes → Bytes × Casing
  | [] => ([], c)
  | b :: rest =>
    let first := if c.next = .none then apply c.all b else apply c.next b
    (first :: rest.map (apply c.all), { c with next := .none })

def change (c : Casing) (how : CaseChange) : Casing :=
  match how with
  | .upperNext | .lowerNext => { c with next := how }
  | how => { all := how, next := .none }

end Casing

/-- What replaces a match that begins at a place. -/
def replacementText (subject : Subject) (start : Nat) (r : Reached) (parts : List Replacing) :
    Bytes :=
  (parts.foldl (fun (text, casing) part =>
    match part with
    | .change how => (text, Casing.change casing how)
    | .text bytes =>
      let (own, casing) := casing.write bytes
      (text ++ own, casing)
    | .group number =>
      let (first, last) := if number = 0 then (start, r.place) else (r.group? number).getD (0, 0)
      let (own, casing) := casing.write (subject.slice first last)
      (text ++ own, casing)) (([], {}) : Bytes × Casing)).1

/-- The text from a place on with matches replaced, and whether there were any. So many matches have
been seen, and the last one has ended at a place. The first argument bounds their number. -/
def replaceFrom (subject : Subject) (expression : Regular) (s : Substitution) :
    Nat → Nat → Nat → Option Nat → Bytes × Bool
  | 0, start, _, _ => (subject.slice start subject.text.size, false)
  | fuel + 1, start, seen, lastEnd =>
    match subject.search? expression start with
    | none => (subject.slice start subject.text.size, false)
    | some (first, r) =>
      let front := subject.slice start first
      let isEmpty := r.place = first
      let step := subject.slice first (first + 1)
      if subject.text.size < first then (front, false)
      else if isEmpty && lastEnd = some first then
        if subject.text.size ≤ first then (front, false)
        else
          let (rest, found) := replaceFrom subject expression s fuel (first + 1) seen none
          (front ++ step ++ rest, found)
      else
        let counts := s.number ≤ seen + 1
        let own := if counts then replacementText subject first r s.replacement
          else subject.slice first r.place
        if counts && !s.isGlobal then
          (front ++ own ++ subject.slice r.place subject.text.size, true)
        else if isEmpty then
          if subject.text.size ≤ first then (front ++ own, counts)
          else
            let (rest, found) :=
              replaceFrom subject expression s fuel (first + 1) (seen + 1) none
            (front ++ own ++ step ++ rest, found || counts)
        else
          let (rest, found) :=
            replaceFrom subject expression s fuel r.place (seen + 1) (some r.place)
          (front ++ own ++ rest, found || counts)

/-- The text with matches replaced, if there are any. -/
def Substitution.apply? (s : Substitution) (expression : Regular) (text : Bytes) : Option Bytes :=
  let subject := Subject.ofBytes text s.sought.ignoresCase s.sought.hasLines
  let (replaced, found) := replaceFrom subject expression s (2 * text.length + 2) 0 0 none
  if found then some replaced else none

end Intercept.Shell.Editor
