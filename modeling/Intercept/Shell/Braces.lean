import Intercept.Shell.Command

/-!
# Words in braces

In the extended language braces that hold words between commas, or two ends of a row of numbers or
letters, make several words out of one, before anything else in the word is expanded.
-/

namespace Intercept.Shell

/-- A byte outside quotes, or another part of a word. -/
inductive Piece where
  | sign (byte : UInt8)
  | other (part : Part)

namespace Piece

def ofPart : Part → List Piece
  | .plain bytes => bytes.map .sign
  | part => [.other part]

def toPart : Piece → Part
  | sign byte => .plain [byte]
  | other own => own

/-- Whether the piece is a byte outside quotes. -/
def isSign (piece : Piece) (c : Char) : Bool :=
  match piece with
  | sign byte => byte = c.toUInt8
  | other _ => false

end Piece

/-- The word of some pieces. -/
def wordOfPieces (pieces : List Piece) : Word :=
  pieces.foldr (fun piece word => consPart piece.toPart word) []

namespace Braces

/-- What stands in front of the brace that closes one which is open, and behind it. A brace closes
only behind a comma or two dots; `isReady` holds where there was one. -/
def close (depth : Nat) (isReady : Bool) : List Piece → Option (List Piece × List Piece)
  | [] => none
  | piece :: rest =>
    let behind (depth : Nat) (isReady : Bool) : Option (List Piece × List Piece) :=
      (close depth isReady rest).map fun (inner, after) => (piece :: inner, after)
    let isRow := piece.isSign '.' && rest.head?.any (·.isSign '.') &&
      !(rest.drop 1).head?.any (·.isSign '\x7d')
    if piece.isSign '\x7b' then behind (depth + 1) isReady
    else if piece.isSign '\x7d' then
      if depth = 0 && isReady then some ([], rest) else behind (depth - 1) isReady
    else behind depth (isReady || (depth = 0 && (piece.isSign ',' || isRow)))

/-- The pieces between the commas that stand in no inner braces. -/
def split (depth : Nat) : List Piece → List (List Piece)
  | [] => [[]]
  | piece :: rest =>
    let onto (depth : Nat) : List (List Piece) :=
      match split depth rest with
      | first :: others => (piece :: first) :: others
      | [] => [[piece]]
    if piece.isSign ',' && depth = 0 then [] :: split 0 rest
    else if piece.isSign '\x7b' then onto (depth + 1)
    else if piece.isSign '\x7d' then onto (depth - 1)
    else onto depth

/-- The numbers from one to another, a step apart. -/
def row (first last : Int) (step : Int) : List Int :=
  let width := if step = 0 then 1 else step.natAbs
  let count := (last - first).natAbs / width + 1
  (List.range count).map fun n =>
    if first ≤ last then first + (n * width : Nat) else first - (n * width : Nat)

/-- A number with zeros behind its sign, up to a width. -/
def padded (width : Nat) (n : Int) : Bytes :=
  let digits := digitsOf n.natAbs
  let sign : Bytes := if n < 0 then [0x2D] else []
  sign ++ List.replicate (width - sign.length - digits.length) 0x30 ++ digits

/-- The greatest number of words in a row. -/
def rowLimit : Nat := 1000000

/-- The texts of a row that is given by its ends, and perhaps a step. Zeros in front of an end give
all numbers the same width. -/
def rowOf? (text : Bytes) : Option (List Bytes) :=
  let isLetter (b : UInt8) : Bool := (0x41 ≤ b && b ≤ 0x5A) || (0x61 ≤ b && b ≤ 0x7A)
  let ends (text : Bytes) : List Bytes :=
    match Bytes.breakAt 0x2E text with
    | (first, some (0x2E :: rest)) =>
      match Bytes.breakAt 0x2E rest with
      | (second, some (0x2E :: third)) => [first, second, third]
      | (second, none) => [first, second]
      | _ => []
    | _ => []
  let hasZeros (text : Bytes) : Bool :=
    match text with
    | 0x30 :: _ :: _ => true
    | 0x2D :: 0x30 :: _ :: _ => true
    | _ => false
  let build (first last : Bytes) (step : Int) : Option (List Bytes) :=
    match first, last, integer? first, integer? last with
    | _, _, some m, some n =>
      let width := if hasZeros first || hasZeros last then max first.length last.length else 0
      if rowLimit < (n - m).natAbs then none else some ((row m n step).map (padded width))
    | [m], [n], none, none =>
      if isLetter m && isLetter n then
        some ((row m.toNat n.toNat step).map fun n => [UInt8.ofNat n.toNat])
      else none
    | _, _, _, _ => none
  match ends text with
  | [first, last] => build first last 1
  | [first, last, step] => (integer? step).bind (build first last)
  | _ => none

/-- The bytes of pieces all of which are bytes outside quotes. -/
def bytes? (pieces : List Piece) : Option Bytes :=
  pieces.mapM fun
    | .sign byte => some byte
    | .other _ => none

/-- The rows of pieces that some pieces with braces stand for. The first argument bounds the number
of braces; `atStart` holds at the front of a word, where two braces alone mean nothing. -/
def expand : Nat → (atStart : Bool) → List Piece → List (List Piece)
  | 0, _, pieces => [pieces]
  | _, _, [] => [[]]
  | fuel + 1, atStart, piece :: rest =>
    let passed : List (List Piece) := (expand fuel false rest).map (piece :: ·)
    let isEmpty := atStart && (rest.isEmpty || rest.head?.any (·.isSign '\x7d'))
    if !piece.isSign '\x7b' || isEmpty then passed
    else
      match close 0 false rest with
      | none => passed
      | some (inner, after) =>
        let behind := expand fuel true after
        let inFront : List (List Piece) :=
          if inner.any (·.isSign ',') then (split 0 inner).flatMap (expand fuel true)
          else
            match (bytes? inner).bind rowOf? with
            | some texts => texts.map fun text => text.map Piece.sign
            | none => [piece :: inner ++ [.sign 0x7D]]
        inFront.flatMap fun front => behind.map (front ++ ·)

end Braces

/-- The words that a word with braces stands for. One that comes to nothing is left out. -/
def Word.alternatives (word : Word) : List Word :=
  let pieces := word.flatMap Piece.ofPart
  if pieces.any (·.isSign '\x7b') then
    ((Braces.expand (pieces.length + 1) true pieces).map wordOfPieces).filter (!·.isEmpty)
  else [word]

end Intercept.Shell
