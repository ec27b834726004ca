/-!
# Byte strings

Arguments, paths and logs are byte strings: nothing says that they are text. A byte string is a
list, so that a statement about one is proved by induction on it.
-/

namespace Intercept

/-- A string of bytes. -/
abbrev Bytes := List UInt8

namespace Bytes

/-- The bytes of ASCII characters. -/
def ofChars (cs : List Char) : Bytes := cs.map Char.toUInt8

/-- The UTF-8 bytes of a text. -/
def ofString (s : String) : Bytes := s.toList.flatMap String.utf8EncodeChar

/-- The character of a byte, for a comparison with characters of ASCII. -/
def asChar (b : UInt8) : Char := Char.ofNat b.toNat

def tab : UInt8 := 0x09
def newline : UInt8 := 0x0A
def space : UInt8 := 0x20
def quote : UInt8 := 0x22
def slash : UInt8 := 0x2F
def equalsSign : UInt8 := 0x3D

/-- The parts between the occurrences of a separator; there is one more part than separators. -/
def splitAt (separator : UInt8) : Bytes → List Bytes
  | [] => [[]]
  | b :: rest =>
    if b = separator then [] :: splitAt separator rest
    else
      match splitAt separator rest with
      | [] => [[b]]
      | part :: parts => (b :: part) :: parts

/-- The parts with the separator written between neighbours. -/
def joinWith (separator : UInt8) : List Bytes → Bytes
  | [] => []
  | [part] => part
  | part :: parts => part ++ separator :: joinWith separator parts

/-- Everything before the first separator and, if there is one, everything after it. -/
def breakAt (separator : UInt8) : Bytes → Bytes × Option Bytes
  | [] => ([], none)
  | b :: rest =>
    if b = separator then ([], some rest)
    else
      let (before, after) := breakAt separator rest
      (b :: before, after)

/-- What follows `start`, if the bytes begin with it. -/
def dropStart? (start : Bytes) (bytes : Bytes) : Option Bytes :=
  match start, bytes with
  | [], rest => some rest
  | _ :: _, [] => none
  | s :: ss, b :: bs => if s = b then dropStart? ss bs else none

theorem dropStart?_append (start rest : Bytes) : dropStart? start (start ++ rest) = some rest := by
  induction start with
  | nil => cases rest <;> rfl
  | cons s ss ih => simp [dropStart?, ih]

theorem eq_append_of_dropStart? {start bytes rest : Bytes}
    (found : dropStart? start bytes = some rest) : bytes = start ++ rest := by
  induction start generalizing bytes with
  | nil => cases bytes <;> simp_all [dropStart?]
  | cons s ss ih =>
      cases bytes with
      | nil => simp [dropStart?] at found
      | cons b bs =>
          by_cases equal : s = b
          · simp only [dropStart?, if_pos equal] at found
            simp [equal, ih found]
          · simp [dropStart?, equal] at found

theorem splitAt_ne_nil (separator : UInt8) (bytes : Bytes) : splitAt separator bytes ≠ [] := by
  cases bytes with
  | nil => simp [splitAt]
  | cons b rest =>
      simp only [splitAt]
      split
      · simp
      · split <;> simp

/-- Splitting loses nothing but the separators. -/
theorem joinWith_splitAt (separator : UInt8) (bytes : Bytes) :
    joinWith separator (splitAt separator bytes) = bytes := by
  induction bytes with
  | nil => rfl
  | cons b rest ih =>
      obtain ⟨part, parts, cut⟩ := List.exists_cons_of_ne_nil (splitAt_ne_nil separator rest)
      rw [cut] at ih
      by_cases equal : b = separator
      · simp [splitAt, equal, cut, joinWith, ih]
      · cases parts with
        | nil => simp [splitAt, equal, cut, joinWith] at ih ⊢; exact ih
        | cons next others => simp [splitAt, equal, cut, joinWith] at ih ⊢; exact ih

end Bytes

end Intercept
