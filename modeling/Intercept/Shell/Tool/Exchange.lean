import Intercept.Shell.Pattern
import Intercept.Shell.Tool.Inputs

/-!
# Exchanging bytes

The tool that puts other bytes in the place of those of a set, leaves bytes out, or makes one of
several that are the same. A set is written as bytes, ranges, classes and repetitions.
-/

namespace Intercept.Shell.Tool

/-- A part of a set. -/
inductive SetPart where
  | bytes (own : Bytes)
  /-- A class, by its name. -/
  | named (name : String) (own : Bytes)
  /-- The bytes that count as the same as one. -/
  | same (b : UInt8)
  /-- A byte so often, or as often as is needed if that is not said. -/
  | often (b : UInt8) (count : Option Nat)
  deriving DecidableEq, Repr

namespace SetPart

/-- The bytes of ranges. -/
def bytesOfRanges (ranges : List (UInt8 × UInt8)) : Bytes :=
  ((List.range 256).map UInt8.ofNat).filter fun b =>
    ranges.any fun (low, high) => low ≤ b && b ≤ high

def own : SetPart → Bytes
  | bytes own => own
  | named _ own => own
  | same b => [b]
  | often b count => List.replicate (count.getD 0) b

/-- Whether the part is a class of small letters or of capitals. -/
def isCase : SetPart → Bool
  | named name _ => name = "upper" || name = "lower"
  | _ => false

end SetPart

/-- The bytes that a text with backslashes stands for, each with whether it stood behind one, and
what is to be warned of. -/
def unescaped : Bytes → List Mark × List Bytes
  | [] => ([], [])
  | [0x5C] =>
    ([⟨0x5C, false⟩],
      [Bytes.ofString "warning: an unescaped backslash at end of string is not portable"])
  | 0x5C :: b :: rest =>
    let isOctal (b : UInt8) : Bool := 0x30 ≤ b && b ≤ 0x37
    let digits := (b :: rest).take 3 |>.takeWhile isOctal
    let value (digits : Bytes) : Nat := digits.foldl (fun n d => 8 * n + (d.toNat - 48)) 0
    let taken := if 255 < value digits then digits.take 2 else digits
    let others := unescaped (rest.drop (taken.length - 1))
    let warnings := if 255 < value digits then
        [Bytes.ofString "warning: the ambiguous octal escape \\" ++ digits ++
          Bytes.ofString " is being\n\tinterpreted as the 2-byte sequence \\0" ++ digits.take 2 ++
          Bytes.ofString ", " ++ digits.drop 2]
      else []
    let own : UInt8 := match Bytes.asChar b with
      | 'a' => 0x07
      | 'b' => 0x08
      | 'f' => 0x0C
      | 'n' => 0x0A
      | 'r' => 0x0D
      | 't' => 0x09
      | 'v' => 0x0B
      | _ => if taken.isEmpty then b else UInt8.ofNat (value taken)
    (⟨own, true⟩ :: others.1, warnings ++ others.2)
  | b :: rest =>
    let others := unescaped rest
    (⟨b, false⟩ :: others.1, others.2)
termination_by text => text.length

/-- The text between a sign and the same sign with a closing bracket, and what follows. -/
def bracketed? (sign : UInt8) (marks : List Mark) : Option (List Mark × List Mark) :=
  let places := List.range marks.length
  (places.find? fun n =>
    ((marks[n]?).any (·.isBare sign)) && ((marks[n + 1]?).any (·.isBare 0x5D))).map fun n =>
      (marks.take n, marks.drop (n + 2))

/-- A part that begins with an opening bracket, and what follows it; none if it is only that. -/
def bracketPart? (marks : List Mark) : Option (Except Bytes (SetPart × List Mark)) :=
  match marks with
  | opening :: sign :: rest =>
    if !opening.isBare 0x5B then none
    else if sign.isBare 0x3A then
      (bracketed? 0x3A rest).map fun (name, rest) =>
        let text := Mark.bytes name
        match namedSets.find? fun (known, _) => Bytes.ofString known = text with
        | some (known, ranges) => .ok (.named known (SetPart.bytesOfRanges ranges), rest)
        | none =>
          if text.isEmpty then .error (Bytes.ofString "missing character class name '[::]'")
          else .error (Bytes.ofString "invalid character class " ++ quotedText text)
    else if sign.isBare 0x3D then
      (bracketed? 0x3D rest).map fun (name, rest) =>
        match name with
        | [m] => .ok (.same m.byte, rest)
        | [] => .error (Bytes.ofString "missing equivalence class character '[==]'")
        | _ => .error (Mark.bytes name ++
            Bytes.ofString ": equivalence class operand must be a single character")
    else
      match rest with
      | star :: rest =>
        if !star.isBare 0x2A then none
        else
          let digits := rest.takeWhile fun m => !m.isBare 0x5D
          match rest.drop digits.length with
          | [] => none
          | _ :: rest =>
            let text := Mark.bytes digits
            let base := if text.head? = some 0x30 then 8 else 10
            let value := text.foldl (fun n d => base * n + (d.toNat - 48)) 0
            if !text.all isDigit then
              some (.error (Bytes.ofString "invalid repeat count " ++ quotedText text ++
                Bytes.ofString " in [c*n] construct"))
            else some (.ok (.often sign.byte (if value = 0 then none else some value), rest))
      | [] => none
  | _ => none

/-- The parts of a set. The first argument bounds their number. -/
def setParts : Nat → List Mark → Except Bytes (List SetPart)
  | 0, _ => .ok []
  | _ + 1, [] => .ok []
  | fuel + 1, m :: rest =>
    match bracketPart? (m :: rest) with
    | some (.error message) => .error message
    | some (.ok (part, rest)) => (setParts fuel rest).map (part :: ·)
    | none =>
      match rest with
      | dash :: last :: after =>
        if dash.isBare 0x2D then
          if last.byte < m.byte then
            let visible (b : UInt8) : Bytes := if isPrintable b then [b] else visibleEscape b
            .error (Bytes.ofString "range-endpoints of '" ++ visible m.byte ++ 0x2D ::
              visible last.byte ++
              Bytes.ofString "' are in reverse collating sequence order")
          else
            let own := SetPart.bytesOfRanges [(m.byte, last.byte)]
            (setParts fuel after).map (.bytes own :: ·)
        else (setParts fuel rest).map (.bytes [m.byte] :: ·)
      | _ => (setParts fuel rest).map (.bytes [m.byte] :: ·)

/-- What the options of an exchange ask for. -/
structure Exchange where
  inverted : Bool
  deletes : Bool
  squeezes : Bool
  cutsFirst : Bool

/-- Bytes with those that replace them. -/
abbrev Replacements := List (UInt8 × UInt8)

/-- All bytes of parts. -/
def allBytes (parts : List SetPart) : Bytes := parts.flatMap SetPart.own

/-- The bytes of a first set. -/
def firstSet (inverted : Bool) (parts : List SetPart) : Except Bytes Bytes :=
  let isRepeat : SetPart → Bool
    | .often .. => true
    | _ => false
  if parts.any isRepeat then
    .error (Bytes.ofString "the [c*] repeat construct may not appear in string1")
  else
    let own := allBytes parts
    .ok (if inverted then ((List.range 256).map UInt8.ofNat).filter (!own.contains ·) else own)

/-- Parts in which a repetition without a count fills up a length. -/
def filled (length : Nat) (parts : List SetPart) : List SetPart :=
  let others := (allBytes parts).length
  parts.map fun
    | .often b none => .often b (some (length - others))
    | part => part

/-- Each part with the number of bytes before it. -/
def withOffsets (parts : List SetPart) : List (Nat × SetPart) :=
  (parts.foldl (fun (all, offset) part =>
    (all ++ [(offset, part)], offset + part.own.length)) (([], 0) : List (Nat × SetPart) × Nat)).1

/-- The replacements that two sets stand for. A failure is a message. -/
def replacements (e : Exchange) (first second : List SetPart) : Except Bytes Replacements := do
  let own ← firstSet e.inverted first
  let fail (message : String) : Except Bytes Replacements := .error (Bytes.ofString message)
  let isOpen : SetPart → Bool
    | .often _ none => true
    | _ => false
  let isOther : SetPart → Bool
    | .named name _ => name ≠ "upper" && name ≠ "lower"
    | _ => false
  let isSame : SetPart → Bool
    | .same _ => true
    | _ => false
  let isNamed : SetPart → Bool
    | .named .. => true
    | _ => false
  let full := filled own.length second
  let other := allBytes full
  let cases := (withOffsets first).filter (·.2.isCase)
  let isAligned := ((withOffsets full).filter (·.2.isCase)).all fun (offset, _) =>
    cases.any (·.1 = offset)
  if 1 < (second.filter isOpen).length then
    fail "only one [c*] repeat construct may appear in string2"
  else if second.any isSame then
    fail "[=c=] expressions may not appear in string2 when translating"
  else if second.any isOther then
    fail ("when translating, the only character classes that may appear in\n" ++
      "string2 are 'upper' and 'lower'")
  else if !isAligned || (e.inverted && second.any SetPart.isCase) then
    fail "misaligned [:upper:] and/or [:lower:] construct"
  else if other.length < own.length && !e.cutsFirst && other.isEmpty then
    fail "when not truncating set1, string2 must be non-empty"
  else if other.length < own.length && !e.cutsFirst && (second.getLast?.any SetPart.isCase) then
    fail ("when translating with string1 longer than string2,\n" ++
      "the latter string must not end with a character class")
  else
    let padded := other ++
      List.replicate (own.length - other.length) (other.getLastD 0)
    if e.inverted && first.any isNamed && !(padded.take own.length).all (· = padded.headD 0) then
      fail ("when translating with complemented character classes,\n" ++
        "string2 must map all characters in the domain to one")
    else return own.zip (if e.cutsFirst then other else padded)

/-- The text in which of several bytes in a row that are the same and in a set one is left. -/
def squeezed (set : UInt8 → Bool) : Option UInt8 → Bytes → Bytes
  | _, [] => []
  | before, b :: rest =>
    if before = some b && set b then squeezed set before rest
    else b :: squeezed set (some b) rest

/-- A set as a table of all bytes. -/
def membership (own : Bytes) : UInt8 → Bool :=
  let table := own.foldl (fun (table : Array Bool) b => table.set! b.toNat true)
    (Array.replicate 256 false)
  fun b => (table[b.toNat]?).getD false

/-- What is to be done with the text that is read. A failure is a message. -/
def exchangeOf (e : Exchange) (first : List SetPart) (second : Option (List SetPart)) :
    Except Bytes (Bytes → Bytes) := do
  let own := membership (← firstSet e.inverted first)
  match second with
  | none =>
    return if e.deletes then List.filter (!own ·) else squeezed own none
  | some second =>
    let other := membership (allBytes (filled 0 second))
    if e.deletes then return fun text => squeezed other none (text.filter (!own ·))
    else
      let pairs ← replacements e first second
      let table := pairs.foldl (fun (table : Array UInt8) (b, new) => table.set! b.toNat new)
        ((Array.range 256).map UInt8.ofNat)
      let exchange (text : Bytes) : Bytes := text.map fun b => (table[b.toNat]?).getD b
      return if e.squeezes then fun text => squeezed other none (exchange text) else exchange

/-- Puts bytes in the place of others, and leaves bytes out. -/
def tr (use : Use) : Action Nat := do
  let e : Exchange :=
    { inverted := use.hasAny "cC", deletes := use.has 'd', squeezes := use.has 's',
      cutsFirst := use.has 't' }
  let least := if e.deletes = e.squeezes then 2 else 1
  let most := if e.deletes && !e.squeezes then 1 else 2
  let refuse (message : Bytes) (hint : Option String) : Action Nat := do
    remark message
    if let some hint := hint then Action.tell (Bytes.ofString hint)
    tellHelp
    return 1
  match use.operands with
  | [] => refuse (Bytes.ofString "missing operand") none
  | operands =>
    if operands.length < least then
      refuse (Bytes.ofString "missing operand after " ++ quotedText (operands.getLastD []))
        (some (if e.squeezes
          then "Two strings must be given when both deleting and squeezing repeats."
          else "Two strings must be given when translating."))
    else if let some extra := operands[most]? then
      refuse (Bytes.ofString "extra operand " ++ quotedText extra)
        (if operands.length = 2
          then some "Only one string may be given when deleting without squeezing repeats."
          else none)
    else
      let read (text : Bytes) : Action (Except Bytes (List SetPart)) := do
        let (marks, warnings) := unescaped text
        for warning in warnings do remark warning
        return setParts (marks.length + 1) marks
      let sets ← operands.mapM read
      let work : Except Bytes (Bytes → Bytes) := do
        match ← sets.mapM id with
        | [first] => exchangeOf e first none
        | first :: second :: _ => exchangeOf e first (some second)
        | [] => .ok id
      match work with
      | .error message =>
        remark message
        return 1
      | .ok work =>
        match contentsOfName (← get) inputSign with
        | .ok text =>
          takeFrom inputSign text.length
          return if ← emit (work text) then 0 else 1
        | .error cause =>
          remark (Bytes.ofString s!"read error: {reason cause}")
          return 1

def trOptions : Use.Known :=
  { letters := "AcCdst"
    names := [("complement", 'c'), ("delete", 'd'), ("squeeze-repeats", 's'),
      ("truncate-set1", 't')] }

end Intercept.Shell.Tool
