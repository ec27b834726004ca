import Intercept.Proofs.Json.Tokens
import Intercept.Proofs.Text.Decoding

/-!
# Reading a JSON text

A reader of JSON goes over the tokens of a text once. It keeps the arrays and objects that it is
inside of, each with what it has read of them, and every token finishes a value, begins one, or
leads to the next one. A text is read as a value exactly if its tokens are those of the value: none
is left over, and no comma or colon is missing. So both layouts of a value are read as this value.
Numbers are left out, since no value of this library holds one.

Results:
1. `run?_tokens`: a reader in front of the tokens of a value gets behind it.
2. `read_run?`: what a reader has read is known from where it stands.
3. `ofTokens?_eq_some_iff`: the tokens that are read as a value.
4. `ofBytes?_compact`, `ofBytes?_spread`: the value of its two layouts.
-/

namespace Intercept.Json

/-! ## Definitions -/

/-- A value that has been begun: the items in front of the one that is read now, or the fields in
front and the name of this one. -/
inductive Frame where
  | items (before : List Json)
  | fields (before : List (String × Json)) (name : String)

/-- Where a reader of values stands: in front of a value, in front of the name of a field, between
such a name and its colon, or behind a value. Outside of it are the values that have been begun, the
innermost first. -/
inductive State where
  | value (outer : List Frame)
  | name (before : List (String × Json)) (outer : List Frame)
  | colon (before : List (String × Json)) (name : String) (outer : List Frame)
  | behind (value : Json) (outer : List Frame)

/-- One token. An array or object can be closed behind a value, or if nothing of it was read. -/
def State.step? : State → Token → Option State
  | value outer, .null => some (behind .null outer)
  | value outer, .bool b => some (behind (.bool b) outer)
  | value outer, .str s => some (behind (.str s) outer)
  | value outer, .openArray => some (value (.items [] :: outer))
  | value outer, .openObject => some (name [] outer)
  | value (.items [] :: outer), .closeArray => some (behind (.arr []) outer)
  | name before outer, .str word => some (colon before word outer)
  | name [] outer, .closeObject => some (behind (.obj []) outer)
  | colon before word outer, .colon => some (value (.fields before word :: outer))
  | behind v (.items before :: outer), .comma => some (value (.items (before ++ [v]) :: outer))
  | behind v (.items before :: outer), .closeArray => some (behind (.arr (before ++ [v])) outer)
  | behind v (.fields before word :: outer), .comma => some (name (before ++ [(word, v)]) outer)
  | behind v (.fields before word :: outer), .closeObject =>
    some (behind (.obj (before ++ [(word, v)])) outer)
  | _, _ => none

def State.run? : State → List Token → Option State
  | state, [] => some state
  | state, token :: rest => (state.step? token).bind fun next => next.run? rest

/-- The value that some tokens are. -/
def ofTokens? (read : List Token) : Option Json :=
  match (State.value []).run? read with
  | some (.behind value []) => some value
  | _ => none

/-- The value that a text writes. -/
def ofChars? (text : List Char) : Option Json := (Place.between.scan? text).bind ofTokens?

/-- The value that encoded text writes. -/
def ofBytes? (bytes : Bytes) : Option Json :=
  (Utf8.text? bytes).bind fun text => ofChars? text.toList

/-- The tokens of a value that has been begun. -/
def Frame.read : Frame → List Token
  | items before => .openArray :: before.flatMap fun item => item.tokens ++ [.comma]
  | fields before name =>
    .openObject :: before.flatMap (fun field => fieldTokens [field] ++ [.comma]) ++
      [.str name, .colon]

def readOf (outer : List Frame) : List Token := outer.reverse.flatMap Frame.read

/-- The tokens that a reader has read. -/
def State.read : State → List Token
  | value outer => readOf outer
  | name before outer =>
    readOf outer ++ .openObject :: before.flatMap fun field => fieldTokens [field] ++ [.comma]
  | colon before word outer =>
    readOf outer ++
      .openObject :: before.flatMap (fun field => fieldTokens [field] ++ [.comma]) ++ [.str word]
  | behind v outer => readOf outer ++ v.tokens

/-! ## From the tokens of a value to the value -/

namespace State

theorem run?_cons {state next : State} {token : Token} (one : state.step? token = some next)
    (rest : List Token) : state.run? (token :: rest) = next.run? rest := by
  rw [run?, one, Option.bind_some]

end State

mutual

theorem run?_tokens : ∀ (value : Json) (outer : List Frame) (rest : List Token),
    (State.value outer).run? (value.tokens ++ rest) = (State.behind value outer).run? rest
  | null, _, _ => rfl
  | bool _, _, _ => rfl
  | str _, _, _ => rfl
  | arr [], _, _ => rfl
  | arr (item :: items), outer, rest => by
      have opened : (State.value outer).step? .openArray = some (.value (.items [] :: outer)) := rfl
      rw [tokens, List.append_assoc, List.cons_append, State.run?_cons opened]
      exact run?_itemTokens (item :: items) (List.cons_ne_nil _ _) [] outer rest
  | obj [], _, _ => rfl
  | obj (field :: fields), outer, rest => by
      have opened : (State.value outer).step? .openObject = some (.name [] outer) := rfl
      rw [tokens, List.append_assoc, List.cons_append, State.run?_cons opened]
      exact run?_fieldTokens (field :: fields) (List.cons_ne_nil _ _) [] outer rest

theorem run?_itemTokens : ∀ items : List Json, items ≠ [] →
    ∀ (before : List Json) (outer : List Frame) (rest : List Token),
    (State.value (.items before :: outer)).run? (itemTokens items ++ ([.closeArray] ++ rest)) =
      (State.behind (.arr (before ++ items)) outer).run? rest
  | [], nonempty, _, _, _ => absurd rfl nonempty
  | item :: [], _, before, outer, rest => by
      rw [itemTokens, run?_tokens item]
      rfl
  | item :: next :: items, _, before, outer, rest => by
      have parted : (State.behind item (.items before :: outer)).step? .comma =
          some (.value (.items (before ++ [item]) :: outer)) := rfl
      rw [itemTokens, List.append_assoc, run?_tokens item, List.cons_append,
        State.run?_cons parted, run?_itemTokens (next :: items) (List.cons_ne_nil _ _),
        List.append_assoc, List.singleton_append]

theorem run?_fieldTokens : ∀ fields : List (String × Json), fields ≠ [] →
    ∀ (before : List (String × Json)) (outer : List Frame) (rest : List Token),
    (State.name before outer).run? (fieldTokens fields ++ ([.closeObject] ++ rest)) =
      (State.behind (.obj (before ++ fields)) outer).run? rest
  | [], nonempty, _, _, _ => absurd rfl nonempty
  | (name, value) :: [], _, before, outer, rest => by
      have named : (State.name before outer).step? (.str name) = some (.colon before name outer) :=
        rfl
      have parted : (State.colon before name outer).step? .colon =
          some (.value (.fields before name :: outer)) := rfl
      rw [fieldTokens, List.cons_append, List.cons_append, State.run?_cons named,
        State.run?_cons parted, run?_tokens value]
      rfl
  | (name, value) :: next :: fields, _, before, outer, rest => by
      have named : (State.name before outer).step? (.str name) = some (.colon before name outer) :=
        rfl
      have parted : (State.colon before name outer).step? .colon =
          some (.value (.fields before name :: outer)) := rfl
      have ended : (State.behind value (.fields before name :: outer)).step? .comma =
          some (.name (before ++ [(name, value)]) outer) := rfl
      rw [fieldTokens, List.append_assoc, List.cons_append, List.cons_append,
        State.run?_cons named, State.run?_cons parted, run?_tokens value, List.cons_append,
        State.run?_cons ended, run?_fieldTokens (next :: fields) (List.cons_ne_nil _ _),
        List.append_assoc, List.singleton_append]

end

/-! ## From what was read to its tokens -/

theorem itemTokens_cons {items : List Json} (more : items ≠ []) (item : Json) :
    itemTokens (item :: items) = item.tokens ++ .comma :: itemTokens items := by
  obtain ⟨next, rest, rfl⟩ := List.exists_cons_of_ne_nil more
  rw [itemTokens]

theorem fieldTokens_cons {fields : List (String × Json)} (more : fields ≠ [])
    (field : String × Json) :
    fieldTokens (field :: fields) = fieldTokens [field] ++ .comma :: fieldTokens fields := by
  obtain ⟨next, rest, rfl⟩ := List.exists_cons_of_ne_nil more
  rw [fieldTokens, fieldTokens]

theorem itemTokens_concat (before : List Json) (item : Json) :
    itemTokens (before ++ [item]) =
      before.flatMap (fun item => item.tokens ++ [.comma]) ++ item.tokens := by
  induction before with
  | nil => rfl
  | cons first rest ih =>
      have more : rest ++ [item] ≠ [] := List.append_ne_nil_of_right_ne_nil rest (by simp)
      rw [List.cons_append, itemTokens_cons more, ih, List.flatMap_cons, List.append_assoc,
        List.append_assoc, List.singleton_append]

theorem fieldTokens_concat (before : List (String × Json)) (field : String × Json) :
    fieldTokens (before ++ [field]) =
      before.flatMap (fun field => fieldTokens [field] ++ [.comma]) ++ fieldTokens [field] := by
  induction before with
  | nil => rfl
  | cons first rest ih =>
      have more : rest ++ [field] ≠ [] := List.append_ne_nil_of_right_ne_nil rest (by simp)
      rw [List.cons_append, fieldTokens_cons more, ih, List.flatMap_cons, List.append_assoc,
        List.append_assoc, List.singleton_append]

theorem readOf_cons (frame : Frame) (outer : List Frame) :
    readOf (frame :: outer) = readOf outer ++ frame.read := by
  rw [readOf, List.reverse_cons, List.flatMap_append, List.flatMap_singleton]
  rfl

namespace State

/-- One token more is read. -/
theorem read_step? {state next : State} {token : Token} (one : state.step? token = some next) :
    next.read = state.read ++ [token] := by
  unfold step? at one
  split at one
  all_goals cases one
  all_goals
    simp [State.read, readOf_cons, Frame.read, tokens, itemTokens, fieldTokens, itemTokens_concat,
      fieldTokens_concat]

theorem read_run? {state last : State} {ts : List Token} (ended : state.run? ts = some last) :
    last.read = state.read ++ ts := by
  induction ts generalizing state with
  | nil => rw [← Option.some.inj ended, List.append_nil]
  | cons token rest ih =>
      obtain ⟨next, one, more⟩ := Option.bind_eq_some_iff.mp ended
      rw [ih more, read_step? one, List.append_assoc, List.singleton_append]

end State

/-- Some tokens are read as a value exactly if they are the tokens of the value. -/
theorem ofTokens?_eq_some_iff {ts : List Token} {value : Json} :
    ofTokens? ts = some value ↔ ts = value.tokens := by
  constructor
  · intro found
    unfold ofTokens? at found
    split at found
    · next last ended =>
      rw [← Option.some.inj found]
      exact (State.read_run? ended).symm
    · exact nomatch found
  · rintro rfl
    have ended : (State.value []).run? value.tokens = some (.behind value []) := by
      rw [← List.append_nil value.tokens, run?_tokens]
      rfl
    rw [ofTokens?, ended]

/-! ## Texts -/

theorem ofChars?_of_reads {text : List Char} {value : Json} (h : Reads text value.tokens) :
    ofChars? text = some value := by
  have scanned : Place.between.scan? text = some value.tokens := by
    have whole := h []
    rw [List.append_nil] at whole
    exact whole.trans (congrArg some (List.append_nil _))
  rw [ofChars?, scanned, Option.bind_some]
  exact ofTokens?_eq_some_iff.mpr rfl

theorem ofBytes?_ofString (s : String) : ofBytes? (Bytes.ofString s) = ofChars? s.toList := by
  rw [ofBytes?, Utf8.text?_eq_some_iff.mpr rfl, Option.bind_some]

/-- A value is read back from its layout on one line. -/
theorem ofBytes?_compact (value : Json) : ofBytes? (Bytes.ofString value.compact) = some value := by
  rw [ofBytes?_ofString, compact, String.toList_ofList]
  exact ofChars?_of_reads (reads_compactChars value)

/-- A value is read back from its layout over lines, with the end of the last line. -/
theorem ofBytes?_spread (value : Json) :
    ofBytes? (Bytes.ofString (value.spread ++ "\n")) = some value := by
  have ended : Reads (value.spreadChars 0 ++ ['\n']) (value.tokens ++ []) :=
    (reads_spreadChars 0 value).append (reads_nil.blank rfl)
  rw [List.append_nil] at ended
  have chars : (value.spread ++ "\n").toList = value.spreadChars 0 ++ ['\n'] := by
    rw [String.toList_append, spread, String.toList_ofList]
    rfl
  rw [ofBytes?_ofString, chars]
  exact ofChars?_of_reads ended

end Intercept.Json
