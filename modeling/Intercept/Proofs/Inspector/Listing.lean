import Intercept.Proofs.Inspector
import Intercept.Proofs.Inspector.Views
import Intercept.Proofs.Log.Extension
import Mathlib.Data.List.Induction
import Mathlib.Data.List.Nodup

/-!
# Sources that are listed once

Listing every source once keeps it at the first of its places. Read from the left, one more source
at the end changes the listing only if it is new, and then it comes last; every statement about the
listing follows by adding the sources one by one. Sources are compared as bytes, so that the listing
as JSON may show the same text twice.

Results:
1. `eraseDups_eq_firstPlaces`: the listing by its places.
2. `eraseDups_append_eq`: the listing of two lists, one after the other.
3. `listed_once`: what is printed for a log.
4. `listed_once_not_extended`: a log whose listing is taken back by what is appended to it.
-/

namespace Intercept.Inspector

/-! ## Definitions -/

/-- What stands at this place stands at no earlier one. -/
def IsFirst (xs : List Bytes) (i : Nat) : Prop := ∀ j < i, xs[j]? ≠ xs[i]?

instance (xs : List Bytes) (i : Nat) : Decidable (IsFirst xs i) :=
  inferInstanceAs (Decidable (∀ j < i, xs[j]? ≠ xs[i]?))

/-- The first places, in order. -/
def firstPlaces (xs : List Bytes) : List Nat := (List.range xs.length).filter (IsFirst xs ·)

/-! ## One more source -/

theorem isFirst_append {xs : List Bytes} {i : Nat} (inside : i < xs.length) (ys : List Bytes) :
    IsFirst (xs ++ ys) i ↔ IsFirst xs i := by
  refine forall₂_congr fun j earlier => ?_
  rw [List.getElem?_append_left (earlier.trans inside), List.getElem?_append_left inside]

theorem isFirst_concat_length {xs : List Bytes} {x : Bytes} :
    IsFirst (xs ++ [x]) xs.length ↔ x ∉ xs := by
  rw [List.mem_iff_getElem?, not_exists]
  constructor
  · intro first j found
    have inside : j < xs.length := (List.getElem?_eq_some_iff.mp found).1
    apply first j inside
    rw [List.getElem?_append_left inside, List.getElem?_concat_length, found]
  · intro new j inside found
    rw [List.getElem?_append_left inside, List.getElem?_concat_length] at found
    exact new j found

/-- So is its place to the first places. -/
theorem firstPlaces_concat (xs : List Bytes) (x : Bytes) :
    firstPlaces (xs ++ [x]) =
      if x ∈ xs then firstPlaces xs else firstPlaces xs ++ [xs.length] := by
  have front : (List.range xs.length).filter (IsFirst (xs ++ [x]) ·) = firstPlaces xs := by
    refine List.filter_congr fun i member => ?_
    exact decide_eq_decide.mpr (isFirst_append (List.mem_range.mp member) [x])
  have length : (xs ++ [x]).length = xs.length + 1 := List.length_append
  rw [firstPlaces, length, List.range_succ, List.filter_append, front]
  by_cases old : x ∈ xs
  · have later : ¬ IsFirst (xs ++ [x]) xs.length := fun first => isFirst_concat_length.mp first old
    simp [old, later]
  · have first : IsFirst (xs ++ [x]) xs.length := isFirst_concat_length.mpr old
    simp [old, first]

/-! ## All of them -/

/-- Each source is kept at the first of its places. -/
theorem eraseDups_eq_firstPlaces (xs : List Bytes) :
    xs.eraseDups = (firstPlaces xs).filterMap fun i => xs[i]? := by
  induction xs using List.reverseRecOn with
  | nil => rfl
  | append_singleton xs x ih =>
      have front : (firstPlaces xs).filterMap (fun i => (xs ++ [x])[i]?) = xs.eraseDups := by
        rw [ih]
        refine List.filterMap_congr fun i member => ?_
        have inside : i < xs.length := List.mem_range.mp (List.mem_of_mem_filter member)
        exact List.getElem?_append_left inside
      rw [eraseDups_concat, firstPlaces_concat]
      split
      · exact front.symm
      · rw [List.filterMap_append, front, List.filterMap_cons_some List.getElem?_concat_length]
        rfl

theorem eraseDups_sublist (xs : List Bytes) : xs.eraseDups.Sublist xs := by
  induction xs using List.reverseRecOn with
  | nil => exact List.Sublist.refl []
  | append_singleton xs x ih =>
      rw [eraseDups_concat]
      split
      · exact ih.trans (List.sublist_append_left xs [x])
      · exact ih.append (List.Sublist.refl [x])

/-- They are listed in the order of these places. -/
theorem pairwise_idxOf_eraseDups (xs : List Bytes) :
    xs.eraseDups.Pairwise fun x y => xs.idxOf x < xs.idxOf y := by
  induction xs using List.reverseRecOn with
  | nil => exact List.Pairwise.nil
  | append_singleton xs x ih =>
      have place {y : Bytes} (member : y ∈ xs.eraseDups) : (xs ++ [x]).idxOf y = xs.idxOf y :=
        List.idxOf_append_of_mem (List.mem_eraseDups.mp member)
      have front : xs.eraseDups.Pairwise fun y z => (xs ++ [x]).idxOf y < (xs ++ [x]).idxOf z :=
        ih.imp_of_mem fun inside inside' before => by rwa [place inside, place inside']
      rw [eraseDups_concat]
      split
      · exact front
      · next new =>
        refine List.pairwise_append.mpr
          ⟨front, List.pairwise_singleton _ _, fun y inside z last => ?_⟩
        have behind : (xs ++ [x]).idxOf x = xs.length := by
          rw [List.idxOf_append, if_neg new, List.idxOf_cons_self, Nat.zero_add]
        rw [List.mem_singleton.mp last, place inside, behind]
        exact List.idxOf_lt_length_iff.mpr (List.mem_eraseDups.mp inside)

theorem nodup_eraseDups (xs : List Bytes) : xs.eraseDups.Nodup :=
  (pairwise_idxOf_eraseDups xs).imp fun before same => (same ▸ before).false

/-- Of sources that come later, those are added that are new. -/
theorem eraseDups_append_eq (xs ys : List Bytes) :
    (xs ++ ys).eraseDups = xs.eraseDups ++ ys.eraseDups.filter (· ∉ xs) := by
  induction ys using List.reverseRecOn with
  | nil => rw [List.append_nil, List.eraseDups_nil, List.filter_nil, List.append_nil]
  | append_singleton ys y ih =>
      rw [← List.append_assoc, eraseDups_concat, eraseDups_concat, ih]
      -- What comes last is known from the later sources, from those in front, or from neither.
      by_cases inLater : y ∈ ys
      · rw [if_pos inLater, if_pos (List.mem_append_right xs inLater)]
      · rw [if_neg inLater, List.filter_append, ← List.append_assoc]
        by_cases inFront : y ∈ xs
        · simp [inFront]
        · simp [inFront, inLater]

/-! ## What is printed -/

theorem listed_append (rs others : List Record) :
    listed true (rs ++ others) =
      listed true rs ++ (listed true others).filter (· ∉ Record.sources rs) := by
  rw [listed_eq_eraseDups, listed_eq_eraseDups, listed_eq_eraseDups, Record.sources_append]
  exact eraseDups_append_eq _ _

/-- More sources at the end only add to what is printed. -/
theorem printSources_prefix {rs others : List Record}
    (longer : Record.sources rs <+: Record.sources others) :
    printSources .plain (listed true rs) <+: printSources .plain (listed true others) := by
  obtain ⟨later, whole⟩ := longer
  have added : listed true others =
      listed true rs ++ later.eraseDups.filter (· ∉ Record.sources rs) := by
    rw [listed_eq_eraseDups, listed_eq_eraseDups, ← whole]
    exact eraseDups_append_eq _ _
  rw [added, printSources, printSources, List.flatMap_append]
  exact List.prefix_append _ _

/-- Two sources of one text are shown as this text twice. -/
theorem two_le_count_text {xs : List Bytes} {x y : Bytes} (inside : x ∈ xs) (inside' : y ∈ xs)
    (differ : x ≠ y) (same : Utf8.text x = Utf8.text y) :
    2 ≤ (xs.map Utf8.text).count (Utf8.text x) := by
  obtain ⟨before, after, rfl⟩ := List.append_of_mem inside
  have shown {zs : List Bytes} (member : y ∈ zs) : 0 < (zs.map Utf8.text).count (Utf8.text x) :=
    List.count_pos_iff.mpr (same ▸ List.mem_map_of_mem member)
  rw [List.map_append, List.map_cons, List.count_append, List.count_cons_self]
  rcases List.mem_append.mp inside' with front | back
  · have := shown front
    omega
  · have := shown ((List.mem_cons.mp back).resolve_left differ.symm)
    omega

/-- What is printed when every source is listed once. The listing holds the sources at those places
where no earlier place holds the same bytes: it names none twice, is a part of the sources in their
order, leaves none out, and is in the order of the first places. Records that come later add their
own listing, less the sources that are known, so that appending to a log only adds to the output,
unless it makes a blank line of a last chunk that is a newline; and then it only adds to the output
for the records in front of this one. Two sources of the same text are both kept. The lines of the
plain output are the listing byte for byte, and the JSON output is read as the texts of the listing,
one for each of its sources and in their order. -/
theorem listed_once {log : Bytes} {rs : List Record} (success : Log.read log = .ok rs) :
    let xs := Record.sources rs
    let once := listed true rs
    once = ((List.range xs.length).filter fun i => ∀ j < i, xs[j]? ≠ xs[i]?).filterMap
      (fun i => xs[i]?) ∧
    once.Nodup ∧ once.Sublist xs ∧ (∀ x, x ∈ once ↔ x ∈ xs) ∧
    once.Pairwise (fun x y => xs.idxOf x < xs.idxOf y) ∧
    (∀ others, listed true (rs ++ others) = once ++ (listed true others).filter (· ∉ xs)) ∧
    (∀ more others, Log.read (log ++ more) = .ok others →
      (((Log.chunks log).getLast? = some [Bytes.newline] → ¬ [Bytes.newline] <+: more) →
        printSources .plain once <+: printSources .plain (listed true others)) ∧
      printSources .plain (listed true rs.dropLast) <+: printSources .plain (listed true others)) ∧
    (∀ x ∈ xs, ∀ y ∈ xs, x ≠ y → Utf8.text x = Utf8.text y →
      once.count x = 1 ∧ once.count y = 1 ∧ 2 ≤ (once.map Utf8.text).count (Utf8.text x)) ∧
    outputLines (printSources .plain once) = once ∧
    Json.ofBytes? (printSources .json once) =
      some (.arr (once.map fun x => .str (Utf8.text x))) ∧
    ∀ (readFile : Bytes → Except Fault Bytes) (build : Build) (terminal : Bool)
      (file : Option Bytes) (format : OutputFormat) (level : Level),
      readFile (file.getD build.settings.results) = .ok log →
      (report readFile build terminal ⟨.sources file true, format, level⟩).output =
        printSources format once := by
  intro xs once
  have without : once = xs.eraseDups := listed_eq_eraseDups rs
  have members (x : Bytes) : x ∈ once ↔ x ∈ xs := by rw [without, List.mem_eraseDups]
  have distinct : once.Nodup := without ▸ nodup_eraseDups xs
  refine ⟨without.trans (eraseDups_eq_firstPlaces xs), distinct, without ▸ eraseDups_sublist xs,
    members, without ▸ pairwise_idxOf_eraseDups xs, listed_append rs, ?_, ?_,
    outputLines_printSources success true, ofBytes?_jsonLines _, ?_⟩
  · intro more others longer
    constructor
    · intro unpaired
      exact printSources_prefix (Log.sources_prefix_of_read success longer unpaired)
    · exact printSources_prefix ((Log.dropLast_prefix_of_read success longer).filterMap _)
  · intro x inside y inside' differ same
    have kept := (members x).mpr inside
    have kept' := (members y).mpr inside'
    exact ⟨List.count_eq_one_of_mem distinct kept, List.count_eq_one_of_mem distinct kept',
      two_le_count_text kept kept' differ same⟩
  · intro readFile build terminal file format level found
    exact output_report_sources found success terminal true format level

/-- Two sources that are no text, the first of them again, and another log behind. -/
theorem listed_once_same_text :
    let rs : List Record := [⟨some [0xFF], [0x61]⟩, ⟨some [0xFE], [0x61]⟩, ⟨some [0xFF], [0x62]⟩]
    let later : List Record := [⟨some [0xFE], [0x61]⟩, ⟨some [0x62], [0x61]⟩]
    Log.read (Record.allToBytes rs) = .ok rs ∧
      Log.read (Record.allToBytes rs ++ Record.allToBytes later) = .ok (rs ++ later) ∧
      listed true rs = [[0xFF], [0xFE]] ∧
      2 ≤ ((listed true rs).map Utf8.text).count (Utf8.text [0xFF]) ∧
      listed true (rs ++ later) = [[0xFF], [0xFE], [0x62]] ∧
      printSources .plain (listed true rs) <+: printSources .plain (listed true (rs ++ later)) ∧
      (report (fun _ => .ok (Record.allToBytes rs)) Build.installed true
        ⟨.sources none true, .json, .warn⟩).output = printSources .json [[0xFF], [0xFE]] := by
  intro rs later
  have success : Log.read (Record.allToBytes rs) = .ok rs := by decide
  have longer : Log.read (Record.allToBytes rs ++ Record.allToBytes later) = .ok (rs ++ later) := by
    decide
  have once : listed true rs = [[0xFF], [0xFE]] := by decide
  have facts := listed_once success
  obtain ⟨-, -, -, -, -, -, extended, shown, -, -, reported⟩ := facts
  refine ⟨success, longer, once, ?_, by decide, ?_, ?_⟩
  · exact (shown [0xFF] (by decide) [0xFE] (by decide) (by decide) (by decide)).2.2
  · exact (extended _ _ longer).1 (by decide)
  · rw [← once]
    exact reported _ Build.installed true none .json .warn rfl

/-- A log of nothing but a newline names the empty source, and lists it on an empty line. With
another newline behind it, the log is a blank line and lists nothing. -/
theorem listed_once_not_extended :
    let output (log : Bytes) := (report (fun _ => .ok log) Build.installed false
      ⟨.sources none true, .plain, .warn⟩).output
    let log : Bytes := [Bytes.newline]
    let more : Bytes := [Bytes.newline]
    Log.read log = .ok [⟨some [], []⟩] ∧ Log.read (log ++ more) = .ok [] ∧
      output log = [Bytes.newline] ∧ output (log ++ more) = [] ∧
      ¬ output log <+: output (log ++ more) := by
  decide

end Intercept.Inspector
