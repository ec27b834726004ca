import Intercept.Proofs.Invocation
import Intercept.Proofs.Log.Shown
import Intercept.Proofs.Text.Decoding

/-!
# An invocation that is shown

A command line is shown as text when there is something to tell about it. Its parts are joined by
bytes of ASCII: the blank behind each token, the marker and the quotes of a define, the newlines of
a record. So what is shown is what the tokens would be assembled to if each of them were shown
first, and no token becomes a define or a source by being shown, or stops being one.

Results:
1. `dropStart?_lossy`, `requote?_lossy`: a token that is shown is a define exactly if it is one.
2. `mayBeSource_lossy`: the same of sources.
3. `command_lossy`: the command line of tokens that are shown.
4. `toBytes_shown`, `ofString_display`: the record that is displayed.
5. `shown_as_run`: all of this together.
-/

namespace Intercept

open Utf8 (IsAscii lossy)

/-! ## Defines -/

/-- What is shown begins with a word of ASCII exactly if the bytes do. -/
theorem Bytes.dropStart?_lossy {start : Bytes} (ascii : ∀ b ∈ start, IsAscii b) (bytes : Bytes) :
    dropStart? start (lossy bytes) = (dropStart? start bytes).map lossy := by
  cases found : dropStart? start bytes with
  | some rest =>
      rw [eq_append_of_dropStart? found, Utf8.lossy_append ascii, dropStart?_append]
      rfl
  | none =>
      refine Option.eq_none_iff_forall_ne_some.mpr fun rest shown => ?_
      obtain ⟨after, rfl, -⟩ :=
        Utf8.exists_of_lossy_eq_append ascii (eq_append_of_dropStart? shown)
      rw [dropStart?_append] at found
      exact nomatch found

namespace Define

theorem isAscii_marker : ∀ b ∈ marker, IsAscii b := Utf8.isAscii_of_all (by decide)

theorem value?_lossy (token : Bytes) : value? (lossy token) = (value? token).map lossy :=
  Bytes.dropStart?_lossy isAscii_marker token

theorem lossy_quoted (value : Bytes) : lossy (quoted value) = quoted (lossy value) := by
  have opening : ∀ b ∈ marker ++ [Bytes.quote], IsAscii b := Utf8.isAscii_of_all (by decide)
  have shape (inner : Bytes) :
      quoted inner = (marker ++ [Bytes.quote]) ++ (inner ++ Bytes.space :: [Bytes.quote]) := by
    simp [quoted]
  rw [shape, shape, Utf8.lossy_append opening, Utf8.lossy_append_cons (by decide)]
  rfl

theorem requote?_lossy (token : Bytes) : requote? (lossy token) = (requote? token).map lossy := by
  rw [requote?, value?_lossy, requote?, Option.map_map, Option.map_map]
  exact congrArg (Option.map · (value? token)) (funext fun value => (lossy_quoted value).symm)

theorem marker_prefix_lossy_iff {token : Bytes} : marker <+: lossy token ↔ marker <+: token := by
  constructor
  · rintro ⟨rest, shown⟩
    obtain ⟨after, rfl, -⟩ := Utf8.exists_of_lossy_eq_append isAscii_marker shown.symm
    exact List.prefix_append marker after
  · rintro ⟨rest, rfl⟩
    rw [Utf8.lossy_append isAscii_marker]
    exact List.prefix_append marker (lossy rest)

end Define

namespace Invocation

/-! ## Sources -/

theorem mayBeSource_iff {token : Bytes} :
    mayBeSource token = true ↔ ∃ stem, stem ≠ [] ∧ token = stem ++ sourceEnding := by
  rw [mayBeSource, Bool.and_eq_true, decide_eq_true_iff, List.isSuffixOf_iff_suffix]
  constructor
  · rintro ⟨longer, stem, rfl⟩
    refine ⟨stem, ?_, rfl⟩
    rintro rfl
    exact absurd longer (Nat.lt_irrefl _)
  · rintro ⟨stem, nonempty, rfl⟩
    have length : 0 < stem.length := List.length_pos_of_ne_nil nonempty
    refine ⟨?_, List.suffix_append stem sourceEnding⟩
    rw [List.length_append]
    omega

/-- No token becomes a candidate for the source by being shown, and none stops being one. -/
theorem mayBeSource_lossy (token : Bytes) : mayBeSource (lossy token) = mayBeSource token := by
  rw [Bool.eq_iff_iff, mayBeSource_iff, mayBeSource_iff]
  constructor
  · rintro ⟨stem, nonempty, shown⟩
    obtain ⟨before, after, rfl, front, back⟩ :=
      Utf8.exists_of_lossy_eq_append_cons (by decide) shown
    refine ⟨before, ?_, ?_⟩
    · rintro rfl
      exact nonempty front.symm
    · rw [(Utf8.lossy_eq_iff (Utf8.isAscii_of_all (by decide))).mp back]
      rfl
  · rintro ⟨stem, nonempty, rfl⟩
    refine ⟨lossy stem, fun nothing => nonempty (Utf8.lossy_eq_nil_iff.mp nothing), ?_⟩
    exact (Utf8.lossy_append_cons (by decide) stem _).trans rfl

/-! ## The command line -/

theorem written_lossy (token : Bytes) : written (lossy token) = lossy (written token) := by
  rw [written, written, Define.requote?_lossy]
  cases Define.requote? token <;> rfl

theorem lossy_flatMap_written (tokens : List Bytes) :
    lossy (tokens.flatMap fun token => written token ++ [Bytes.space]) =
      (tokens.map lossy).flatMap fun token => written token ++ [Bytes.space] := by
  induction tokens with
  | nil => rfl
  | cons token rest ih =>
      rw [List.flatMap_cons, List.append_assoc, List.singleton_append,
        Utf8.lossy_append_cons (by decide), ih, List.map_cons, List.flatMap_cons, written_lossy,
        List.append_assoc, List.singleton_append]

/-- What is shown of a command line is the command line of what is shown of its parts. -/
theorem command_lossy (host : Bytes) (names others : Bytes → Bool) (tokens : List Bytes) :
    lossy (assemble host names tokens).command =
      (assemble (lossy host) others (tokens.map lossy)).command := by
  rw [command_assemble, command_assemble, Utf8.lossy_append_cons (by decide),
    lossy_flatMap_written]

end Invocation

/-! ## The record -/

namespace Record

theorem sourceLine_shown (r : Record) : r.shown.sourceLine = lossy r.sourceLine := by
  unfold sourceLine shown
  cases r.source with
  | none => exact (Log.lossy_eq_absent_iff.mpr rfl).symm
  | some source => rfl

/-- What is shown of a written record is the record of what is shown, written. -/
theorem toBytes_shown (r : Record) : r.shown.toBytes = lossy r.toBytes := by
  have shape (r : Record) : r.toBytes =
      r.sourceLine ++ Bytes.newline :: (r.command ++ Bytes.newline :: [Bytes.newline]) := by
    simp [toBytes]
  rw [shape, shape, sourceLine_shown, Utf8.lossy_append_cons (by decide),
    Utf8.lossy_append_cons (by decide)]
  rfl

/-- What is displayed of a record is the record of what is shown, written. -/
theorem ofString_display (r : Record) : Bytes.ofString r.display = r.shown.toBytes := by
  rw [display, Utf8.ofString_text, toBytes_shown]

end Record

/-- What is shown is what was run and logged. The command line, shown, is the one that is assembled
of the tokens when each of them is shown first; a token that is shown is a define exactly if it is
one, with its value in quotes shown alike, and a candidate for the source exactly if it is one. A
record is displayed as the record of the texts of its source and command would be written, and these
are the texts that its JSON view holds. -/
theorem Invocation.shown_as_run (host : String) (names others : Bytes → Bool)
    (tokens : List Bytes) :
    (∀ bytes, lossy bytes = Bytes.ofString (Utf8.text bytes)) ∧
    lossy (assemble (Bytes.ofString host) names tokens).command =
      (assemble (Bytes.ofString host) others (tokens.map lossy)).command ∧
    (∀ token,
      (Define.marker <+: lossy token ↔ Define.marker <+: token) ∧
      mayBeSource (lossy token) = mayBeSource token ∧
      Define.requote? (lossy token) = (Define.requote? token).map lossy) ∧
    ∀ r : Record, ∃ (source : Option String) (command : String),
      source = r.source.map Utf8.text ∧ command = Utf8.text r.command ∧
      r.toJson = .obj [("source_file", source.elim .null .str), ("command", .str command)] ∧
      Bytes.ofString r.display =
        Record.toBytes ⟨source.map Bytes.ofString, Bytes.ofString command⟩ := by
  refine ⟨fun bytes => (Utf8.ofString_text bytes).symm, ?_, fun token => ⟨?_, ?_, ?_⟩, fun r => ?_⟩
  · rw [command_lossy _ names others, Utf8.lossy_ofString]
  · exact Define.marker_prefix_lossy_iff
  · exact mayBeSource_lossy token
  · exact Define.requote?_lossy token
  · refine ⟨_, _, rfl, rfl, ?_, ?_⟩
    · rw [Record.toJson]
      cases r.source <;> rfl
    · have shown : r.shown =
          ⟨(r.source.map Utf8.text).map Bytes.ofString, Bytes.ofString (Utf8.text r.command)⟩ := by
        rw [Record.shown, Option.map_map, Utf8.ofString_text]
        exact congrArg (Record.mk · _) (congrArg (Option.map · r.source)
          (funext fun source => (Utf8.ofString_text source).symm))
      rw [Record.ofString_display, shown]

end Intercept
