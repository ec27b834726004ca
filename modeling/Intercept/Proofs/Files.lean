import Intercept.Files.Path
import Intercept.Proofs.Lines

/-!
# A file that is appended to

A path is followed through directories and links, which stay where they are when the contents of a
file change or a file is created. So a path that leads to a file, or to where one could be created,
leads to that file afterwards, and bytes that were appended are found at the end of what it held.

Results:
1. `get?_setContents`, `get?_setContents_of_leadsOn`: what is at the places of a tree after the
   contents of a file changed.
2. `appendAt_behind`: a process that appends to a file changes nothing of what it finds of itself.
3. `follow_of_stay`, `find_of_stay`: a path leads to the same place where its way stays.
4. `exists_append`: what is read of a file after bytes were appended to it.
-/

namespace Intercept.Files

/-! ## Definitions -/

/-- A tree whose nodes have numbers that have been given, and in which all places that hold the
number of a file hold the file. -/
structure Tree.Sound (tree : Tree) : Prop where
  counted : ∀ entry ∈ tree.entries, entry.attributes.number ≤ tree.numbers
  shared : ∀ held ∈ tree.entries, ∀ other ∈ tree.entries,
    held.attributes.number = other.attributes.number →
      ∀ contents, held.node = .file contents → other.node = .file contents

/-- No node of the tree has the number that stands for none. -/
def Tree.Numbered (tree : Tree) : Prop := ∀ entry ∈ tree.entries, entry.attributes.number ≠ 0

/-- The tree with other entries in front of its own. -/
def Tree.behind (tree : Tree) (own : List Entry) : Tree :=
  { tree with entries := own ++ tree.entries }

/-- What a process finds of itself: nothing that has a number, and no file. -/
structure Entry.Own (entry : Entry) : Prop where
  number : entry.attributes.number = 0
  noFile : ∀ contents, entry.node ≠ .file contents

/-- Whether a path can go on behind a node. -/
def Node.leadsOn : Node → Bool
  | directory | link _ => true
  | _ => false

/-- The node that a path leads to, if there is one. -/
def Found.node? : Found → Option Node
  | .node _ held => some held
  | .free _ => none

/-- A path leads to a file with some contents, or to where an empty one can be created. -/
inductive Found.Holds : Found → Bytes → Prop
  | file (place : Place) (contents : Bytes) : Holds (.node place (.file contents)) contents
  | free (place : Place) : Holds (.free place) []

/-! ## Places after a change -/

namespace Tree

theorem entry?_changeNumbered (tree : Tree) (number : Nat) {change : Entry → Entry}
    (keeps : ∀ entry, (change entry).place = entry.place) (place : Place) :
    Tree.entry? (tree.changeNumbered number change) place =
      (tree.entry? place).map fun entry =>
        if entry.attributes.number = number then change entry else entry := by
  have keeps' : ∀ entry : Entry,
      (if entry.attributes.number = number then change entry else entry).place = entry.place := by
    intro entry
    split
    · exact keeps entry
    · rfl
  unfold changeNumbered entry?
  rw [List.find?_map]
  exact congrArg _ (congrArg (List.find? · _) (funext fun entry => by simp [keeps']))

/-- A node that is no directory stands in an entry of its own. -/
theorem exists_entry? {tree : Tree} {place : Place} {node : Node}
    (held : tree.get? place = some node) (proper : node ≠ .directory) :
    place ≠ [] ∧ ∃ entry ∈ tree.entries, tree.entry? place = some entry ∧ entry.node = node := by
  unfold get? at held
  split at held
  · exact absurd (Option.some.inj held).symm proper
  · next below =>
    obtain ⟨entry, found, rfl⟩ := Option.map_eq_some_iff.mp held
    exact ⟨below, entry, List.mem_of_find?_eq_some found, found, rfl⟩

theorem setContents_eq {tree : Tree} {place : Place} {entry : Entry}
    (found : tree.entry? place = some entry) (contents : Bytes) :
    tree.setContents place contents = tree.changeNumbered entry.attributes.number fun entry =>
      { entry with
        node := .file contents
        attributes := { entry.attributes with time := tree.now } } := by
  rw [setContents, changeAt, found]

theorem entry?_setContents {tree : Tree} {place : Place} {entry : Entry}
    (found : tree.entry? place = some entry) (contents : Bytes) (other : Place) :
    Tree.entry? (tree.setContents place contents) other =
      (tree.entry? other).map fun own =>
        if own.attributes.number = entry.attributes.number then
          { own with
            node := .file contents
            attributes := { own.attributes with time := tree.now } }
        else own := by
  rw [setContents_eq found, entry?_changeNumbered]
  exact fun _ => rfl

theorem get?_setContents {tree : Tree} {place : Place} {before : Bytes}
    (held : tree.get? place = some (.file before)) (contents : Bytes) :
    (tree.setContents place contents).get? place = some (.file contents) := by
  obtain ⟨below, entry, -, found, -⟩ := exists_entry? held nofun
  rw [get?, if_neg below, entry?_setContents found, found, Option.map_some, Option.map_some,
    if_pos rfl]

/-- Directories and links stay where they are when the contents of a file change. -/
theorem get?_setContents_of_leadsOn {tree : Tree} (sound : tree.Sound) {place : Place}
    {before : Bytes} (held : tree.get? place = some (.file before)) (contents : Bytes)
    {other : Place} {node : Node} (leadsOn : node.leadsOn) (there : tree.get? other = some node) :
    (tree.setContents place contents).get? other = some node := by
  obtain ⟨-, entry, inTree, found, file⟩ := exists_entry? held nofun
  unfold get? at there ⊢
  split
  · next top => rwa [if_pos top] at there
  · next below =>
    rw [if_neg below] at there
    obtain ⟨own, foundOwn, rfl⟩ := Option.map_eq_some_iff.mp there
    have apart : own.attributes.number ≠ entry.attributes.number := by
      intro same
      have isFile : own.node = .file before := sound.shared entry inTree own
        (List.mem_of_find?_eq_some foundOwn) same.symm before file
      rw [isFile] at leadsOn
      exact nomatch leadsOn
    rw [entry?_setContents found, foundOwn, Option.map_some, Option.map_some, if_neg apart]

theorem Sound.setContents {tree : Tree} (sound : tree.Sound) {place : Place} {before : Bytes}
    (held : tree.get? place = some (.file before)) (contents : Bytes) :
    (tree.setContents place contents).Sound := by
  obtain ⟨-, entry, inTree, found, file⟩ := exists_entry? held nofun
  have number : ∀ own : Entry,
      (if own.attributes.number = entry.attributes.number then
        { own with
          node := .file contents
          attributes := { own.attributes with time := tree.now } }
      else own).attributes.number = own.attributes.number := by
    intro own
    split <;> rfl
  rw [setContents_eq found]
  constructor
  · intro changed member
    obtain ⟨own, inside, rfl⟩ := List.mem_map.mp member
    rw [number]
    exact sound.counted own inside
  · intro first member second member' same text isFile
    obtain ⟨own, inside, rfl⟩ := List.mem_map.mp member
    obtain ⟨own', inside', rfl⟩ := List.mem_map.mp member'
    rw [number, number] at same
    by_cases changed : own.attributes.number = entry.attributes.number
    · rw [if_pos changed] at isFile
      rw [if_pos (same.symm.trans changed)]
      exact isFile
    · rw [if_neg changed] at isFile
      rw [if_neg fun changed' => changed (same.trans changed')]
      exact sound.shared own inside own' inside' same text isFile

theorem get?_create {tree : Tree} {place : Place} (below : place ≠ []) (node : Node) (mode : Nat) :
    (tree.create place node mode).get? place = some node :=
  get?_put tree ⟨place, node, ⟨mode, tree.now, tree.numbers + 1⟩⟩ below

theorem get?_create_of_ne {tree : Tree} {place other : Place} (differs : other ≠ place)
    (node : Node) (mode : Nat) :
    (tree.create place node mode).get? other = tree.get? other :=
  get?_put_of_ne tree ⟨place, node, ⟨mode, tree.now, tree.numbers + 1⟩⟩ differs

/-- The number of a new node belongs to no other one. -/
theorem Sound.create {tree : Tree} (sound : tree.Sound) (place : Place) (node : Node) (mode : Nat) :
    (tree.create place node mode).Sound := by
  have cases' : ∀ entry ∈ (tree.create place node mode).entries, entry ∈ tree.entries ∨
      entry = ⟨place, node, ⟨mode, tree.now, tree.numbers + 1⟩⟩ := by
    intro entry member
    rcases List.mem_append.mp member with old | new
    · exact Or.inl (List.mem_filter.mp old).1
    · exact Or.inr (List.mem_singleton.mp new)
  constructor
  · intro entry member
    rcases cases' entry member with old | rfl
    · exact Nat.le_succ_of_le (sound.counted entry old)
    · exact Nat.le_refl _
  · intro first member second member' same text isFile
    rcases cases' first member with old | rfl <;> rcases cases' second member' with old' | rfl
    · exact sound.shared first old second old' same text isFile
    · have counted := sound.counted first old
      simp only at same
      omega
    · have counted := sound.counted second old'
      simp only at same
      omega
    · exact isFile

/-- Bytes are added to the file that a path leads to, or become one that is created. -/
theorem exists_appendAt {tree : Tree} (sound : tree.Sound) {found : Found} {contents : Bytes}
    (there : tree.get? found.place = found.node?) (holds : found.Holds contents) (bytes : Bytes) :
    ∃ after, tree.appendAt found.place bytes = .ok after ∧ after.Sound ∧
      after.get? found.place = some (.file (contents ++ bytes)) ∧
      ∀ place node, node.leadsOn → tree.get? place = some node → after.get? place = some node := by
  cases holds with
  | file place contents =>
      have held : tree.get? place = some (.file contents) := there
      refine ⟨_, by rw [appendAt, Found.place, held], sound.setContents held _,
        get?_setContents held _, fun _ _ => get?_setContents_of_leadsOn sound held _⟩
  | free place =>
      have absent : tree.get? place = none := there
      have below : place ≠ [] := by
        rintro rfl
        exact nomatch absent
      refine ⟨tree.create place (.file bytes) (Node.file bytes).usualMode,
        by rw [appendAt, Found.place, absent], sound.create place _ _, get?_create below _ _,
        fun other node _ inTree => ?_⟩
      have differs : other ≠ place := by
        rintro rfl
        exact nomatch absent.symm.trans inTree
      rwa [get?_create_of_ne differs]

theorem Numbered.appendAt {tree after : Tree} (numbered : tree.Numbered) {place : Place}
    {bytes : Bytes} (appended : tree.appendAt place bytes = .ok after) : after.Numbered := by
  unfold Tree.appendAt at appended
  split at appended
  · cases appended
    unfold setContents changeAt
    split
    · next entry _ =>
      intro changed member
      obtain ⟨own, inside, rfl⟩ := List.mem_map.mp member
      split
      · exact numbered own inside
      · exact numbered own inside
    · exact numbered
  · exact nomatch appended
  · cases appended
    exact numbered
  · cases appended
    intro entry member
    rcases List.mem_append.mp member with old | new
    · exact numbered entry (List.mem_filter.mp old).1
    · rw [List.mem_singleton.mp new]
      exact Nat.succ_ne_zero _

/-! ## Trees that are made anew -/

/-- A change that leaves each node what it is, and its number. -/
theorem Sound.map {tree : Tree} (sound : tree.Sound) (change : Entry → Entry)
    (node : ∀ entry, (change entry).node = entry.node)
    (number : ∀ entry, (change entry).attributes.number = entry.attributes.number)
    (now : Moment) : Sound { tree with entries := tree.entries.map change, now } := by
  constructor
  · intro changed member
    obtain ⟨entry, inside, rfl⟩ := List.mem_map.mp member
    rw [number]
    exact sound.counted entry inside
  · intro first member second member' same contents isFile
    obtain ⟨entry, inside, rfl⟩ := List.mem_map.mp member
    obtain ⟨entry', inside', rfl⟩ := List.mem_map.mp member'
    rw [number, number] at same
    rw [node] at isFile ⊢
    exact sound.shared entry inside entry' inside' same contents isFile

theorem Numbered.map {tree : Tree} (numbered : tree.Numbered) (change : Entry → Entry)
    (number : ∀ entry, (change entry).attributes.number = entry.attributes.number)
    (now : Moment) : Numbered { tree with entries := tree.entries.map change, now } := by
  intro changed member
  obtain ⟨entry, inside, rfl⟩ := List.mem_map.mp member
  rw [number]
  exact numbered entry inside

/-- Other rights change neither a node nor its number. -/
theorem exists_setMode (tree : Tree) (place : Place) (mode : Nat) :
    ∃ change : Entry → Entry, (∀ entry, (change entry).node = entry.node) ∧
      (∀ entry, (change entry).attributes.number = entry.attributes.number) ∧
      tree.setMode place mode = { tree with entries := tree.entries.map change } := by
  unfold setMode changeAt
  split
  · next found _ =>
    refine ⟨_, fun entry => ?_, fun entry => ?_, rfl⟩ <;> split <;> rfl
  · exact ⟨id, fun _ => rfl, fun _ => rfl, by rw [List.map_id]⟩

theorem Sound.setMode {tree : Tree} (sound : tree.Sound) (place : Place) (mode : Nat) :
    (tree.setMode place mode).Sound := by
  obtain ⟨change, node, number, changed⟩ := exists_setMode tree place mode
  rw [changed]
  exact sound.map change node number tree.now

theorem Numbered.setMode {tree : Tree} (numbered : tree.Numbered) (place : Place) (mode : Nat) :
    (tree.setMode place mode).Numbered := by
  obtain ⟨change, -, number, changed⟩ := exists_setMode tree place mode
  rw [changed]
  exact numbered.map change number tree.now

/-- The nodes of a new tree are numbered in their order, from one. -/
theorem exists_of_mem_ofNodes {nodes : List (Place × Node)} {entry : Entry}
    (member : entry ∈ (ofNodes nodes).entries) :
    ∃ n place, nodes[n]? = some (place, entry.node) ∧ entry.attributes.number = n + 1 := by
  obtain ⟨⟨⟨place, node⟩, n⟩, inside, rfl⟩ := List.mem_map.mp member
  exact ⟨n, place, List.mem_zipIdx_iff_getElem?.mp inside, rfl⟩

theorem numbered_ofNodes (nodes : List (Place × Node)) : (ofNodes nodes).Numbered := by
  intro entry member
  obtain ⟨n, -, -, number⟩ := exists_of_mem_ofNodes member
  rw [number]
  exact Nat.succ_ne_zero n

theorem sound_ofNodes (nodes : List (Place × Node)) : (ofNodes nodes).Sound := by
  constructor
  · intro entry member
    obtain ⟨n, place, inNodes, number⟩ := exists_of_mem_ofNodes member
    obtain ⟨inside, -⟩ := List.getElem?_eq_some_iff.mp inNodes
    rw [number]
    exact inside
  · intro first member second member' same contents isFile
    obtain ⟨n, place, inNodes, number⟩ := exists_of_mem_ofNodes member
    obtain ⟨n', place', inNodes', number'⟩ := exists_of_mem_ofNodes member'
    obtain rfl : n = n' := by omega
    rw [inNodes] at inNodes'
    rw [← isFile]
    exact (congrArg Prod.snd (Option.some.inj inNodes')).symm

/-! ## The tree as a process sees it -/

theorem Sound.behind {tree : Tree} (sound : tree.Sound) (numbered : tree.Numbered)
    {own : List Entry} (apart : ∀ entry ∈ own, entry.Own) : (tree.behind own).Sound := by
  constructor
  · intro entry member
    rcases List.mem_append.mp member with mine | shared
    · rw [(apart entry mine).number]
      exact Nat.zero_le _
    · exact sound.counted entry shared
  · intro first member second member' same contents isFile
    rcases List.mem_append.mp member with mine | shared
    · exact absurd isFile ((apart first mine).noFile contents)
    · rcases List.mem_append.mp member' with mine' | shared'
      · exact absurd (same.trans (apart second mine').number) (numbered first shared)
      · exact sound.shared first shared second shared' same contents isFile

theorem Sound.of_behind {tree : Tree} {own : List Entry} (sound : (tree.behind own).Sound) :
    tree.Sound where
  counted := fun entry member => sound.counted entry (List.mem_append_right own member)
  shared := fun first member second member' =>
    sound.shared first (List.mem_append_right own member) second
      (List.mem_append_right own member')

theorem entry?_behind (tree : Tree) (own : List Entry) (place : Place) :
    Tree.entry? (tree.behind own) place =
      (own.find? fun entry => decide (entry.place = place)).or (tree.entry? place) :=
  List.find?_append

/-- A file that a process sees, or a free name, is none of its own entries. -/
theorem outside_of_holds {tree : Tree} {own : List Entry} (apart : ∀ entry ∈ own, entry.Own)
    {found : Found} {contents : Bytes} (holds : found.Holds contents)
    (there : (tree.behind own).get? found.place = found.node?) :
    found.place ≠ [] ∧ ∀ entry ∈ own, entry.place ≠ found.place := by
  cases holds with
  | file place contents =>
      have held : (tree.behind own).get? place = some (.file contents) := there
      obtain ⟨below, entry, -, seen, isFile⟩ := exists_entry? held nofun
      refine ⟨below, fun mine inOwn same => ?_⟩
      rw [entry?_behind] at seen
      cases first : own.find? fun entry => decide (entry.place = place) with
      | none => exact absurd (decide_eq_true same) (List.find?_eq_none.mp first mine inOwn)
      | some other =>
          rw [first, Option.some_or] at seen
          cases seen
          exact (apart entry (List.mem_of_find?_eq_some first)).noFile contents isFile
  | free place =>
      have below : place ≠ [] := by
        rintro rfl
        exact nomatch there
      refine ⟨below, fun mine inOwn same => ?_⟩
      have absent : (tree.behind own).get? place = none := there
      rw [get?, if_neg below, Option.map_eq_none_iff, entry?_behind,
        Option.or_eq_none_iff] at absent
      exact List.find?_eq_none.mp absent.1 mine inOwn (decide_eq_true same)

theorem entry?_behind_of_outside (tree : Tree) {own : List Entry} {place : Place}
    (outside : ∀ entry ∈ own, entry.place ≠ place) :
    Tree.entry? (tree.behind own) place = tree.entry? place := by
  rw [entry?_behind, List.find?_eq_none.mpr fun entry member => by simpa using outside entry member,
    Option.none_or]

theorem get?_behind_of_outside (tree : Tree) {own : List Entry} {place : Place}
    (outside : ∀ entry ∈ own, entry.place ≠ place) :
    (tree.behind own).get? place = tree.get? place := by
  rw [get?, get?, entry?_behind_of_outside tree outside]

/-- A process that changes a file changes none of its own entries. -/
theorem setContents_behind {tree : Tree} (numbered : tree.Numbered) {own : List Entry}
    (apart : ∀ entry ∈ own, entry.Own) {place : Place} {entry : Entry}
    (outside : ∀ entry ∈ own, entry.place ≠ place) (found : tree.entry? place = some entry)
    (contents : Bytes) :
    (tree.behind own).setContents place contents =
      (tree.setContents place contents).behind own := by
  have found' : Tree.entry? (tree.behind own) place = some entry :=
    (entry?_behind_of_outside tree outside).trans found
  have numberNe : entry.attributes.number ≠ 0 := numbered entry (List.mem_of_find?_eq_some found)
  rw [setContents_eq found, setContents_eq found']
  unfold changeNumbered behind
  rw [List.map_append]
  congr 2
  refine (List.map_congr_left fun mine inOwn => if_neg ?_).trans (List.map_id own)
  rw [(apart mine inOwn).number]
  exact numberNe.symm

theorem create_behind (tree : Tree) {own : List Entry} {place : Place}
    (outside : ∀ entry ∈ own, entry.place ≠ place) (node : Node) (mode : Nat) :
    (tree.behind own).create place node mode = (tree.create place node mode).behind own := by
  have kept : own.filter (fun entry => decide (entry.place ≠ place)) = own :=
    List.filter_eq_self.mpr fun entry member => decide_eq_true (outside entry member)
  unfold create put erase behind
  simp only [List.filter_append, kept, List.append_assoc]

theorem appendAt_behind {tree : Tree} (numbered : tree.Numbered) {own : List Entry}
    (apart : ∀ entry ∈ own, entry.Own) {found : Found} {contents : Bytes}
    (holds : found.Holds contents) (there : (tree.behind own).get? found.place = found.node?)
    (bytes : Bytes) :
    (tree.behind own).appendAt found.place bytes =
      (tree.appendAt found.place bytes).map (·.behind own) := by
  obtain ⟨-, outside⟩ := outside_of_holds apart holds there
  have there' : tree.get? found.place = found.node? :=
    (get?_behind_of_outside tree outside).symm.trans there
  unfold appendAt
  rw [there, there']
  cases holds with
  | file place contents =>
      obtain ⟨-, entry, -, seen, -⟩ := exists_entry? there' nofun
      exact congrArg Except.ok (setContents_behind numbered apart outside seen _)
  | free place => exact congrArg Except.ok (create_behind tree outside _ _)

/-- What is appended behind further entries is appended to the tree itself. -/
theorem exists_appendAt_of_behind {tree : Tree} (numbered : tree.Numbered) {own : List Entry}
    (apart : ∀ entry ∈ own, entry.Own) {found : Found} {contents : Bytes}
    (holds : found.Holds contents) (there : (tree.behind own).get? found.place = found.node?)
    {bytes : Bytes} {after : Tree}
    (appended : (tree.behind own).appendAt found.place bytes = .ok after) :
    ∃ inner, tree.appendAt found.place bytes = .ok inner ∧ inner.behind own = after := by
  rw [appendAt_behind numbered apart holds there] at appended
  cases inside : tree.appendAt found.place bytes with
  | error cause =>
      rw [inside] at appended
      exact nomatch appended
  | ok inner =>
      rw [inside] at appended
      exact ⟨inner, rfl, Except.ok.inj appended⟩

/-! ## Following a path -/

/-- The last name of a path leads to the file that has it. -/
theorem follow_singleton {tree : Tree} (creates : Bool) {links : Nat} {directory : Place}
    {name text : Bytes} (proper : ¬ (name = [] ∨ name = here)) (down : name ≠ above)
    (short : ¬ longestName < name.length)
    (there : tree.get? (directory ++ [name]) = some (.file text)) :
    tree.follow creates links directory [name] =
      .ok (.node (directory ++ [name]) (.file text)) := by
  simp [follow, proper, down, short, there]

/-- A path leads to what is there. -/
theorem get?_of_follow {tree : Tree} {creates : Bool} {links : Nat} {directory : Place}
    {names : List Bytes} {found : Found} {contents : Bytes}
    (reached : tree.follow creates links directory names = .ok found)
    (holds : found.Holds contents) : tree.get? found.place = found.node? := by
  fun_induction tree.follow creates links directory names with
  | case1 =>
      cases reached
      cases holds
  | case2 links directory name rest passed ih => exact ih reached
  | case3 links directory rest proper ih => exact ih reached
  | case4 => exact nomatch reached
  | case5 => exact nomatch reached
  | case6 links directory name rest proper down notCreated short place absent last =>
      cases reached
      exact absent
  | case7 => exact nomatch reached
  | case8 directory name rest proper down notCreated short place links there ih => exact ih reached
  | case9 => exact nomatch reached
  | case10 directory name rest proper down notCreated short place target links there start ih =>
      exact ih reached
  | case11 links directory name proper down short place node other there =>
      cases reached
      exact there
  | case12 => exact nomatch reached

/-- The way of a path goes through directories and links. Where these stay, and a file stands at its
end, the path leads to this file. -/
theorem follow_of_stay {tree after : Tree}
    (stay : ∀ place node, node.leadsOn → tree.get? place = some node →
      after.get? place = some node)
    {links : Nat} {directory : Place} {names : List Bytes} {found : Found} {contents : Bytes}
    (reached : tree.follow true links directory names = .ok found)
    (holds : found.Holds contents) {text : Bytes} (now : after.get? found.place = some (.file text))
    (creates : Bool) :
    after.follow creates links directory names = .ok (.node found.place (.file text)) := by
  fun_induction tree.follow true links directory names with
  | case1 directory =>
      cases reached
      cases holds
  | case2 links directory name rest passed ih =>
      rw [follow, if_pos passed]
      exact ih reached
  | case3 links directory rest proper ih =>
      rw [follow, if_neg proper, if_pos rfl]
      exact ih reached
  | case4 => exact nomatch reached
  | case5 => exact nomatch reached
  | case6 links directory name rest proper down notCreated short place absent last =>
      cases reached
      have ends : rest = [] :=
        Classical.byContradiction fun more => notCreated ⟨rfl, more, last.1⟩
      subst ends
      exact follow_singleton creates proper down short now
  | case7 => exact nomatch reached
  | case8 directory name rest proper down notCreated short place links there ih =>
      have there' : after.get? (directory ++ [name]) = some .directory := stay _ _ rfl there
      have notCreated' : ¬ (creates = true ∧ rest ≠ [] ∧ rest.all (· = [])) :=
        fun refused => notCreated ⟨rfl, refused.2⟩
      rw [follow, if_neg proper, if_neg down, if_neg notCreated', if_neg short]
      simp only [there']
      exact ih reached
  | case9 => exact nomatch reached
  | case10 directory name rest proper down notCreated short place target links there start ih =>
      have there' : after.get? (directory ++ [name]) = some (.link target) := stay _ _ rfl there
      have notCreated' : ¬ (creates = true ∧ rest ≠ [] ∧ rest.all (· = [])) :=
        fun refused => notCreated ⟨rfl, refused.2⟩
      rw [follow, if_neg proper, if_neg down, if_neg notCreated', if_neg short]
      simp only [there']
      exact ih reached
  | case11 links directory name proper down short place node other there =>
      cases reached
      exact follow_singleton creates proper down short now
  | case12 => exact nomatch reached

/-! ## Paths of files -/

/-- A path that leads somewhere is followed from the root or from the directory it is seen from. -/
theorem follow_of_find {tree : Tree} {creates : Bool} {directory : Place} {path : Bytes}
    {found : Found} (reached : tree.find directory path creates = .ok found) :
    ¬ path.contains 0 ∧ path ≠ [] ∧ ¬ pathLimit ≤ path.length ∧
      tree.follow creates linkLimit (if path.head? = some Bytes.slash then [] else directory)
        (Bytes.splitAt Bytes.slash path) = .ok found := by
  unfold find at reached
  split at reached
  · exact nomatch reached
  split at reached
  · exact nomatch reached
  split at reached
  · exact nomatch reached
  next noNul named short =>
  refine ⟨noNul, named, short, ?_⟩
  simp only at reached
  split at reached
  · exact nomatch reached
  · next followed =>
    split at reached
    · exact nomatch reached
    · cases reached
      exact followed
  · next followed =>
    cases reached
    exact followed

theorem find_of_follow {tree : Tree} {creates : Bool} {directory : Place} {path : Bytes}
    {place : Place} {node : Node} (noNul : ¬ path.contains 0) (named : path ≠ [])
    (short : ¬ pathLimit ≤ path.length)
    (followed : tree.follow creates linkLimit
      (if path.head? = some Bytes.slash then [] else directory)
      (Bytes.splitAt Bytes.slash path) = .ok (.node place node)) :
    tree.find directory path creates = .ok (.node place node) := by
  rw [find, if_neg noNul, if_neg named, if_neg short]
  simp only [followed]

/-- Where the way of a path stays, and a file stands at its end, the path leads to this file. -/
theorem find_of_stay {tree after : Tree}
    (stay : ∀ place node, node.leadsOn → tree.get? place = some node →
      after.get? place = some node)
    {directory : Place} {path : Bytes} {found : Found} {contents : Bytes}
    (reached : tree.find directory path true = .ok found) (holds : found.Holds contents)
    {text : Bytes} (now : after.get? found.place = some (.file text)) (creates : Bool) :
    after.find directory path creates = .ok (.node found.place (.file text)) := by
  obtain ⟨noNul, named, short, followed⟩ := follow_of_find reached
  exact find_of_follow noNul named short (follow_of_stay stay followed holds now creates)

theorem find_of_findToWrite {tree : Tree} {directory : Place} {path : Bytes} {found : Found}
    (reached : tree.findToWrite directory path = .ok found) :
    tree.find directory path true = .ok found := by
  unfold findToWrite at reached
  cases seen : tree.find directory path true with
  | error cause =>
      rw [seen] at reached
      exact nomatch reached
  | ok other =>
      rw [seen] at reached
      simp only [bind, Except.bind] at reached
      split at reached
      · exact nomatch reached
      · exact nomatch reached
      · exact reached

theorem findToWrite_of_find {tree : Tree} {directory : Place} {path : Bytes} {place : Place}
    {contents : Bytes}
    (reached : tree.find directory path true = .ok (.node place (.file contents))) :
    tree.findToWrite directory path = .ok (.node place (.file contents)) := by
  rw [findToWrite, reached]
  rfl

theorem read_of_find {tree : Tree} {directory : Place} {path : Bytes} {place : Place}
    {contents : Bytes} (reached : tree.find directory path = .ok (.node place (.file contents))) :
    tree.read directory path = .ok contents := by
  rw [read, reached]
  rfl

/-- A plain name that a directory does not hold can be written to. -/
theorem findToWrite_of_absent {tree : Tree} {directory : Place} {name : Bytes}
    (noNul : ¬ name.contains 0) (noSlash : Bytes.slash ∉ name)
    (proper : ¬ (name = [] ∨ name = here)) (down : name ≠ above)
    (short : ¬ longestName < name.length) (inside : (tree.get? directory).isSome)
    (absent : tree.get? (directory ++ [name]) = none)
    (outside : (directory ++ [name]).head? ≠ some processes) :
    tree.findToWrite directory name = .ok (.free (directory ++ [name])) := by
  have named : name ≠ [] := fun empty => proper (Or.inl empty)
  have short' : ¬ pathLimit ≤ name.length := by
    unfold longestName at short
    unfold pathLimit
    omega
  have relative : name.head? ≠ some Bytes.slash :=
    fun slash => noSlash (List.mem_of_mem_head? slash)
  have followed : tree.follow true linkLimit directory [name] =
      .ok (.free (directory ++ [name])) := by
    simp [follow, proper, down, short, absent, inside]
  have found : tree.find directory name true = .ok (.free (directory ++ [name])) := by
    rw [find, if_neg noNul, if_neg named, if_neg short', if_neg relative,
      Bytes.splitAt_eq_singleton noSlash]
    simp only [followed, if_neg outside]
  rw [findToWrite, found]
  rfl

/-- What is there where a path leads to that is written to. -/
theorem get?_of_findToWrite {tree : Tree} {directory : Place} {path : Bytes} {found : Found}
    {contents : Bytes} (reached : tree.findToWrite directory path = .ok found)
    (holds : found.Holds contents) : tree.get? found.place = found.node? :=
  get?_of_follow (follow_of_find (find_of_findToWrite reached)).2.2.2 holds

/-- Bytes are added at the end of what a file held, which is created if there was none; afterwards
its path leads to it, and all of it is read. -/
theorem exists_append {tree : Tree} (sound : tree.Sound) {directory : Place} {path : Bytes}
    {found : Found} {contents : Bytes} (reached : tree.findToWrite directory path = .ok found)
    (holds : found.Holds contents) (bytes : Bytes) :
    ∃ after, tree.append directory path bytes = .ok after ∧ after.Sound ∧
      after.findToWrite directory path = .ok (.node found.place (.file (contents ++ bytes))) ∧
      after.read directory path = .ok (contents ++ bytes) := by
  obtain ⟨after, appended, soundAfter, now, stay⟩ :=
    exists_appendAt sound (get?_of_findToWrite reached holds) holds bytes
  have leads := find_of_stay stay (find_of_findToWrite reached) holds now
  refine ⟨after, ?_, soundAfter, findToWrite_of_find (leads true), read_of_find (leads false)⟩
  rw [append, reached]
  exact appended

end Tree

end Intercept.Files
