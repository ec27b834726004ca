import Intercept.Json
import Mathlib.Data.List.Basic

/-!
# The tokens of a JSON text

A text is taken apart into its tokens, one character after the other: brackets, commas and colons,
the words `null`, `true` and `false`, and strings with all their escapes, whoever wrote them; the
blanks between are dropped. Both layouts of a value are read as the tokens of the value, in which
nothing is left of the layout.

Results:
1. `scan?_escapeChar`, `reads_quoted`: a string is read back from its escapes.
2. `Reads.append`: what is read between tokens is read part by part.
3. `reads_compactChars`, `reads_spreadChars`: the tokens of the two layouts.
-/

namespace Intercept.Json

/-! ## Definitions -/

/-- What a JSON text is made of, the blanks between apart. -/
inductive Token where
  | openArray
  | closeArray
  | openObject
  | closeObject
  | comma
  | colon
  | null
  | bool (b : Bool)
  | str (s : String)
  deriving DecidableEq, Repr

mutual

/-- The tokens of a value. -/
def tokens : Json → List Token
  | null => [.null]
  | bool b => [.bool b]
  | str s => [.str s]
  | arr items => .openArray :: itemTokens items ++ [.closeArray]
  | obj fields => .openObject :: fieldTokens fields ++ [.closeObject]

def itemTokens : List Json → List Token
  | [] => []
  | item :: [] => item.tokens
  | item :: next :: rest => item.tokens ++ .comma :: itemTokens (next :: rest)

def fieldTokens : List (String × Json) → List Token
  | [] => []
  | (name, value) :: [] => .str name :: .colon :: value.tokens
  | (name, value) :: next :: rest =>
    .str name :: .colon :: value.tokens ++ .comma :: fieldTokens (next :: rest)

end

/-- Where a reader of tokens stands: between tokens, in a word of which some letters are owed, in a
string behind some of its characters, behind a backslash there, in the number of a character of
which more digits are owed behind the next, or behind the first half of a character. -/
inductive Place where
  | between
  | word (owed : List Char) (token : Token)
  | quoted (before : List Char)
  | escape (before : List Char)
  | number (before : List Char) (half : Option Nat) (value owed : Nat)
  | half (before : List Char) (half : Nat) (owed : List Char)
  deriving DecidableEq, Repr

/-- A character that may stand between tokens. -/
def isBlank (c : Char) : Bool := c = ' ' || c = '\t' || c = '\n' || c = '\r'

/-- The token of a single character. -/
def mark? (c : Char) : Option Token :=
  if c = '[' then some .openArray
  else if c = ']' then some .closeArray
  else if c = '\x7b' then some .openObject
  else if c = '\x7d' then some .closeObject
  else if c = ',' then some .comma
  else if c = ':' then some .colon
  else none

/-- The word that begins with a letter: what follows of it, and its token. -/
def word? (c : Char) : Option (List Char × Token) :=
  if c = 'n' then some (['u', 'l', 'l'], .null)
  else if c = 't' then some (['r', 'u', 'e'], .bool true)
  else if c = 'f' then some (['a', 'l', 's', 'e'], .bool false)
  else none

/-- The value of a hexadecimal digit, in lower case or in upper case. -/
def hexValue? (c : Char) : Option Nat :=
  if '0' ≤ c ∧ c ≤ '9' then some (c.toNat - 48)
  else if 'a' ≤ c ∧ c ≤ 'f' then some (c.toNat - 87)
  else if 'A' ≤ c ∧ c ≤ 'F' then some (c.toNat - 55)
  else none

/-- The character that a letter behind a backslash stands for. -/
def escaped? (c : Char) : Option Char :=
  if c = '"' then some '"'
  else if c = '\\' then some '\\'
  else if c = '/' then some '/'
  else if c = 'b' then some '\x08'
  else if c = 't' then some '\t'
  else if c = 'n' then some '\n'
  else if c = 'f' then some '\x0c'
  else if c = 'r' then some '\r'
  else none

/-- The place behind the number of a character. A number beyond the first plane of characters is
written in two halves. -/
def numbered? (before : List Char) (half : Option Nat) (value : Nat) : Option Place :=
  let isFirst : Bool := 0xD800 ≤ value && value < 0xDC00
  let isSecond : Bool := 0xDC00 ≤ value && value < 0xE000
  match half with
  | none =>
    if isFirst then some (.half before value ['\\', 'u'])
    else if isSecond then none
    else some (.quoted (before ++ [Char.ofNat value]))
  | some first =>
    if isSecond then
      let whole := 0x10000 + (first - 0xD800) * 0x400 + (value - 0xDC00)
      some (.quoted (before ++ [Char.ofNat whole]))
    else none

/-- One character of a text: the tokens that it finishes, and the place behind it. -/
def Place.step? : Place → Char → Option (List Token × Place)
  | between, c =>
    if isBlank c then some ([], between)
    else if c = '"' then some ([], quoted [])
    else
      match mark? c with
      | some token => some ([token], between)
      | none => (word? c).map fun (owed, token) => ([], word owed token)
  | word [] _, _ => none
  | word (letter :: owed) token, c =>
    if c ≠ letter then none
    else if owed = [] then some ([token], between)
    else some ([], word owed token)
  | quoted before, c =>
    if c = '"' then some ([.str (String.ofList before)], between)
    else if c = '\\' then some ([], escape before)
    else if c.toNat < 0x20 then none
    else some ([], quoted (before ++ [c]))
  | escape before, c =>
    if c = 'u' then some ([], number before none 0 3)
    else (escaped? c).map fun meant => ([], quoted (before ++ [meant]))
  | number before first value owed, c =>
    (hexValue? c).bind fun digit =>
      match owed with
      | 0 => (numbered? before first (value * 16 + digit)).map fun place => ([], place)
      | owed + 1 => some ([], number before first (value * 16 + digit) owed)
  | half _ _ [], _ => none
  | half before first (letter :: owed), c =>
    if c ≠ letter then none
    else if owed = [] then some ([], number before (some first) 0 3)
    else some ([], half before first owed)

/-- The tokens of a text from some place on, if it is made of tokens. -/
def Place.scan? : Place → List Char → Option (List Token)
  | between, [] => some []
  | _, [] => none
  | place, c :: rest =>
    match place.step? c with
    | none => none
    | some (finished, next) => (finished ++ ·) <$> next.scan? rest

/-- Between tokens the text is read as the given ones, whatever follows it. -/
def Reads (text : List Char) (read : List Token) : Prop :=
  ∀ rest, Place.between.scan? (text ++ rest) = (read ++ ·) <$> Place.between.scan? rest

/-! ## One character -/

namespace Place

theorem scan?_cons {place next : Place} {c : Char} {finished : List Token}
    (one : place.step? c = some (finished, next)) (rest : List Char) :
    place.scan? (c :: rest) = (finished ++ ·) <$> next.scan? rest := by
  cases place <;> simp only [scan?, one]

/-- A character that finishes no token. -/
theorem scan?_cons_of_silent {place next : Place} {c : Char}
    (one : place.step? c = some ([], next)) (rest : List Char) :
    place.scan? (c :: rest) = next.scan? rest :=
  (scan?_cons one rest).trans (id_map _)

/-- A word is read when its last letter is. -/
theorem scan?_word {owed : List Char} {token : Token} (nonempty : owed ≠ []) (rest : List Char) :
    (word owed token).scan? (owed ++ rest) = (token :: ·) <$> between.scan? rest := by
  induction owed with
  | nil => exact absurd rfl nonempty
  | cons letter owed ih =>
      rw [List.cons_append]
      by_cases last : owed = []
      · subst last
        have one : (word [letter] token).step? letter = some ([token], between) := by simp [step?]
        exact scan?_cons one rest
      · have one : (word (letter :: owed) token).step? letter = some ([], word owed token) := by
          simp [step?, last]
        rw [scan?_cons_of_silent one, ih last]

end Place

/-! ## Strings -/

theorem hexValue?_hexDigit {n : Nat} (digit : n < 16) : hexValue? (hexDigit n) = some n := by
  have table : ∀ m < 16, hexValue? (hexDigit m) = some m := by decide
  exact table n digit

/-- A character is written as a letter behind a backslash, as its number there, or as it is. -/
theorem escapeChar_cases (c : Char) :
    (∃ letter, escapeChar c = ['\\', letter] ∧ escaped? letter = some c ∧ letter ≠ 'u') ∨
    c.toNat < 0x20 ∧ escapeChar c =
      ['\\', 'u', '0', '0', hexDigit (c.toNat / 16), hexDigit (c.toNat % 16)] ∨
    (c ≠ '"' ∧ c ≠ '\\' ∧ ¬ c.toNat < 0x20) ∧ escapeChar c = [c] := by
  by_cases quote : c = '"'
  · exact Or.inl ⟨'"', by simp [escapeChar, quote], by rw [quote]; rfl, by decide⟩
  by_cases slash : c = '\\'
  · exact Or.inl ⟨'\\', by simp [escapeChar, slash], by rw [slash]; rfl, by decide⟩
  unfold escapeChar
  rw [if_neg quote, if_neg slash]
  -- Five control characters have a letter of their own.
  iterate 5
    split
    · next is => exact Or.inl ⟨_, rfl, by rw [is]; rfl, by decide⟩
  split
  · next control => exact Or.inr (Or.inl ⟨control, rfl⟩)
  · next raw => exact Or.inr (Or.inr ⟨⟨quote, slash, raw⟩, rfl⟩)

namespace Place

/-- Behind a backslash stands a letter for a character. -/
theorem scan?_escape {before : List Char} {letter c : Char} (meant : escaped? letter = some c)
    (other : letter ≠ 'u') (rest : List Char) :
    (quoted before).scan? ('\\' :: letter :: rest) = (quoted (before ++ [c])).scan? rest := by
  have slash : (quoted before).step? '\\' = some ([], escape before) := rfl
  have one : (escape before).step? letter = some ([], quoted (before ++ [c])) := by
    simp only [step?, if_neg other, meant, Option.map_some]
  rw [scan?_cons_of_silent slash, scan?_cons_of_silent one]

/-- Or a number of four digits, here of a character of the first 256. -/
theorem scan?_number (before : List Char) {n : Nat} (small : n < 256) (rest : List Char) :
    (quoted before).scan?
        ('\\' :: 'u' :: '0' :: '0' :: hexDigit (n / 16) :: hexDigit (n % 16) :: rest) =
      (quoted (before ++ [Char.ofNat n])).scan? rest := by
  have slash : (quoted before).step? '\\' = some ([], escape before) := rfl
  have number₀ : (escape before).step? 'u' = some ([], number before none 0 3) := rfl
  have first : (number before none 0 3).step? '0' = some ([], number before none 0 2) := rfl
  have second : (number before none 0 2).step? '0' = some ([], number before none 0 1) := rfl
  have third : (number before none 0 1).step? (hexDigit (n / 16)) =
      some ([], number before none (n / 16) 0) := by
    simp only [step?, hexValue?_hexDigit (show n / 16 < 16 by omega), Option.bind_some,
      Nat.zero_mul, Nat.zero_add]
  have fourth : (number before none (n / 16) 0).step? (hexDigit (n % 16)) =
      some ([], quoted (before ++ [Char.ofNat n])) := by
    have whole : n / 16 * 16 + n % 16 = n := by omega
    have single : numbered? before none n = some (quoted (before ++ [Char.ofNat n])) := by
      have notFirst : ¬ 0xD800 ≤ n := by omega
      have notSecond : ¬ 0xDC00 ≤ n := by omega
      simp [numbered?, notFirst, notSecond]
    simp only [step?, hexValue?_hexDigit (show n % 16 < 16 by omega), Option.bind_some, whole,
      single, Option.map_some]
  rw [scan?_cons_of_silent slash, scan?_cons_of_silent number₀, scan?_cons_of_silent first,
    scan?_cons_of_silent second, scan?_cons_of_silent third, scan?_cons_of_silent fourth]

/-- A character is read back, however it is written. -/
theorem scan?_escapeChar (before : List Char) (c : Char) (rest : List Char) :
    (quoted before).scan? (escapeChar c ++ rest) = (quoted (before ++ [c])).scan? rest := by
  rcases escapeChar_cases c with
    ⟨letter, written, meant, other⟩ | ⟨control, written⟩ | ⟨⟨quote, slash, raw⟩, written⟩
  · rw [written]
    exact scan?_escape meant other rest
  · rw [written]
    have number := scan?_number before (show c.toNat < 256 by omega) rest
    rwa [Char.ofNat_toNat] at number
  · have one : (quoted before).step? c = some ([], quoted (before ++ [c])) := by
      simp only [step?, if_neg quote, if_neg slash, if_neg raw]
    rw [written]
    exact scan?_cons_of_silent one rest

/-- The rest of a string, up to its closing quote. -/
theorem scan?_quoted (before cs rest : List Char) :
    (quoted before).scan? (cs.flatMap escapeChar ++ '"' :: rest) =
      (.str (String.ofList (before ++ cs)) :: ·) <$> between.scan? rest := by
  induction cs generalizing before with
  | nil =>
      have closing : (quoted before).step? '"' = some ([.str (String.ofList before)], between) :=
        rfl
      rw [List.append_nil]
      exact scan?_cons closing rest
  | cons c cs ih =>
      rw [List.flatMap_cons, List.append_assoc, scan?_escapeChar, ih, List.append_assoc,
        List.singleton_append]

end Place

/-! ## Texts by their parts -/

theorem reads_nil : Reads [] [] := fun _ => (id_map _).symm

theorem Reads.append {front back : List Char} {first later : List Token} (h : Reads front first)
    (h' : Reads back later) : Reads (front ++ back) (first ++ later) := by
  intro rest
  rw [List.append_assoc, h, h']
  cases Place.between.scan? rest with
  | none => rfl
  | some more => exact congrArg some (List.append_assoc first later more).symm

theorem Reads.mark {text : List Char} {read : List Token} (c : Char) (token : Token)
    (one : Place.between.step? c = some ([token], .between)) (h : Reads text read) :
    Reads (c :: text) (token :: read) := by
  have alone : Reads [c] [token] := fun rest => Place.scan?_cons one rest
  exact alone.append h

theorem Reads.blank {text : List Char} {read : List Token} {c : Char} (blank : isBlank c = true)
    (h : Reads text read) : Reads (c :: text) read := by
  have one : Place.between.step? c = some ([], .between) := if_pos blank
  intro rest
  rw [List.cons_append, Place.scan?_cons_of_silent one, h]

theorem reads_word {c : Char} {owed : List Char} {token : Token}
    (one : Place.between.step? c = some ([], .word owed token)) (nonempty : owed ≠ []) :
    Reads (c :: owed) [token] := by
  intro rest
  rw [List.cons_append, Place.scan?_cons_of_silent one, Place.scan?_word nonempty]
  rfl

theorem reads_null : Reads ['n', 'u', 'l', 'l'] [.null] :=
  reads_word rfl (List.cons_ne_nil _ _)

theorem reads_boolText (b : Bool) : Reads (boolText b) [.bool b] := by
  cases b with
  | false => exact reads_word rfl (List.cons_ne_nil _ _)
  | true => exact reads_word rfl (List.cons_ne_nil _ _)

theorem reads_quoted (s : String) : Reads (quoted s) [.str s] := by
  intro rest
  have opening : Place.between.step? '"' = some ([], .quoted []) := rfl
  rw [quoted, List.append_assoc, List.cons_append, List.singleton_append,
    Place.scan?_cons_of_silent opening, Place.scan?_quoted, List.nil_append, String.ofList_toList]
  rfl

/-- A string is read that no layout here writes: a character as the numbers of its halves. -/
example : Place.between.scan?
    ['"', '\\', 'u', 'd', '8', '3', 'D', '\\', 'u', 'd', 'e', '0', '0', '"'] =
    some [.str (String.singleton (Char.ofNat 0x1F600))] := by decide

theorem reads_lineAt (level : Nat) : Reads (lineAt level) [] := by
  refine Reads.blank rfl ?_
  induction 2 * level with
  | zero => exact reads_nil
  | succ n ih => exact Reads.blank rfl ih

/-! ## The two layouts -/

mutual

theorem reads_compactChars : ∀ value : Json, Reads value.compactChars value.tokens
  | null => reads_null
  | bool b => reads_boolText b
  | str s => reads_quoted s
  | arr items => by
      rw [compactChars, tokens]
      exact ((reads_compactItems items).mark '[' .openArray rfl).append
        (reads_nil.mark ']' .closeArray rfl)
  | obj fields => by
      rw [compactChars, tokens]
      exact ((reads_compactFields fields).mark '\x7b' .openObject rfl).append
        (reads_nil.mark '\x7d' .closeObject rfl)

theorem reads_compactItems : ∀ items : List Json, Reads (compactItems items) (itemTokens items)
  | [] => reads_nil
  | item :: [] => reads_compactChars item
  | item :: next :: rest => by
      rw [compactItems, itemTokens]
      exact (reads_compactChars item).append
        ((reads_compactItems (next :: rest)).mark ',' .comma rfl)

theorem reads_compactFields :
    ∀ fields : List (String × Json), Reads (compactFields fields) (fieldTokens fields)
  | [] => reads_nil
  | (name, value) :: [] => by
      rw [compactFields, fieldTokens]
      exact (reads_quoted name).append ((reads_compactChars value).mark ':' .colon rfl)
  | (name, value) :: next :: rest => by
      rw [compactFields, fieldTokens]
      exact ((reads_quoted name).append ((reads_compactChars value).mark ':' .colon rfl)).append
        ((reads_compactFields (next :: rest)).mark ',' .comma rfl)

end

mutual

theorem reads_spreadChars :
    ∀ (level : Nat) (value : Json), Reads (value.spreadChars level) value.tokens
  | _, null => reads_null
  | _, bool b => reads_boolText b
  | _, str s => reads_quoted s
  | _, arr [] => (reads_nil.mark ']' .closeArray rfl).mark '[' .openArray rfl
  | level, arr (item :: rest) => by
      rw [spreadChars, tokens, List.append_assoc]
      exact ((reads_spreadItems (level + 1) (item :: rest)).mark '[' .openArray rfl).append
        ((reads_lineAt level).append (reads_nil.mark ']' .closeArray rfl))
  | _, obj [] => (reads_nil.mark '\x7d' .closeObject rfl).mark '\x7b' .openObject rfl
  | level, obj (field :: rest) => by
      rw [spreadChars, tokens, List.append_assoc]
      exact ((reads_spreadFields (level + 1) (field :: rest)).mark '\x7b' .openObject rfl).append
        ((reads_lineAt level).append (reads_nil.mark '\x7d' .closeObject rfl))

theorem reads_spreadItems : ∀ (level : Nat) (items : List Json),
    Reads (spreadItems level items) (itemTokens items)
  | _, [] => reads_nil
  | level, item :: [] => (reads_lineAt level).append (reads_spreadChars level item)
  | level, item :: next :: rest => by
      rw [spreadItems, itemTokens]
      exact ((reads_lineAt level).append (reads_spreadChars level item)).append
        ((reads_spreadItems level (next :: rest)).mark ',' .comma rfl)

theorem reads_spreadFields : ∀ (level : Nat) (fields : List (String × Json)),
    Reads (spreadFields level fields) (fieldTokens fields)
  | _, [] => reads_nil
  | level, (name, value) :: [] => by
      rw [spreadFields, fieldTokens]
      exact ((reads_lineAt level).append (reads_quoted name)).append
        (((reads_spreadChars level value).blank rfl).mark ':' .colon rfl)
  | level, (name, value) :: next :: rest => by
      rw [spreadFields, fieldTokens]
      exact (((reads_lineAt level).append (reads_quoted name)).append
        (((reads_spreadChars level value).blank rfl).mark ':' .colon rfl)).append
        ((reads_spreadFields level (next :: rest)).mark ',' .comma rfl)

end

end Intercept.Json
