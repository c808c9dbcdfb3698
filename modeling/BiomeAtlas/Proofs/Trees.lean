import BiomeAtlas.Files.Tree
import BiomeAtlas.Proofs.Cells

/-! # What trees of files keep

A path is read once, as a walk through directories to a name (`FileTree.Leads`); finding, reading
and writing are stated from that walk.

Main statements: making directories only makes directories where nothing was
(`FileTree.grows_makeDirectories`), and succeeds if and only if the path can be walked afterwards
(`FileTree.makeFrom_eq_ok_iff`); making them again makes nothing
(`FileTree.makeDirectories_makeDirectories`); what is written is read (`FileTree.read_of_write`); in
a tree whose files all lie in directories, what cannot be found by a path without steps back is not
there (`FileTree.Closed.node?_eq_none`), and every tree made from such a tree is one
(`FileTree.Closed.makeDirectories`, `FileTree.Closed.write`). -/

namespace BiomeAtlas

/-! ## Paths -/

namespace Text

theorem pieces_ne_nil (separator : Char) (text : List Char) : pieces separator text ≠ [] := by
  cases text with
  | nil => simp [pieces]
  | cons c text =>
    unfold pieces
    split
    · simp
    · split <;> simp

/-- A separator cuts a text into the pieces before it and the pieces behind it. -/
theorem pieces_append (separator : Char) (first later : List Char) :
    pieces separator (first ++ separator :: later) =
      pieces separator first ++ pieces separator later := by
  induction first with
  | nil => simp [pieces]
  | cons c first ih =>
    simp only [List.cons_append, pieces, ih]
    split
    · rfl
    · cases front : pieces separator first with
      | nil => exact absurd front (pieces_ne_nil separator first)
      | cons piece others => rfl

end Text

namespace Path

variable {path : Path}

/-- A slash between two texts ends the parts of the first one. -/
theorem parts_of_toList {first later : List Char} {joined : Path}
    (hjoined : joined.text.toList = first ++ '/' :: later) :
    joined.parts = (⟨String.ofList first⟩ : Path).parts ++
      (⟨String.ofList later⟩ : Path).parts := by
  simp [parts, hjoined, Text.pieces_append]

/-- A path that goes on from another one has the parts of both. -/
theorem parts_join {later : Path} (hlater : later.isAbsolute = false) :
    (path.join later).parts = path.parts ++ later.parts := by
  unfold join
  simp only [hlater, Bool.false_eq_true, if_false]
  split
  · next short =>
    rcases Bool.or_eq_true_iff.mp short with empty | slash
    · have nothing : path.text = "" := by simpa using empty
      simp [parts, nothing, Text.pieces]
    · obtain ⟨front, eq⟩ : ∃ front, path.text.toList = front ++ ['/'] := by
        rw [endsWithSlash, beq_iff_eq, List.getLast?_eq_some_iff] at slash
        exact slash
      have joined : (path.text ++ later.text).toList = front ++ '/' :: later.text.toList := by
        simp [eq]
      have own : path.text.toList = front ++ '/' :: [] := eq
      rw [parts_of_toList joined, parts_of_toList own]
      simp [parts, Text.pieces]
  · have joined :
        (path.text ++ "/" ++ later.text).toList = path.text.toList ++ '/' :: later.text.toList := by
      simp
    rw [parts_of_toList joined]
    simp

end Path

/-! ## Following paths -/

namespace FileTree

variable {tree after : FileTree} {position next : List String} {part : String}

theorem enter_dot : tree.enter position "." = .ok position := rfl

theorem enter_dots : tree.enter position ".." = .ok position.dropLast := rfl

theorem enter_name (hpart : part ≠ "." ∧ part ≠ "..") :
    tree.enter position part = match tree.child? position part with
      | .error cause => .error cause
      | .ok none => .error .notFound
      | .ok (some (.file _)) => .error .notADirectory
      | .ok (some .directory) => .ok (position ++ [part]) := by
  have dot : (part == ".") = false := beq_false_of_ne hpart.1
  have dots : (part == "..") = false := beq_false_of_ne hpart.2
  unfold enter
  simp only [dot, dots, Bool.false_eq_true, if_false]
  rcases tree.child? position part with _ | _ | _ | _ <;> rfl

/-- A part leads on if it is made of dots, or if it names a directory. -/
theorem enter_eq_ok_iff : tree.enter position part = .ok next ↔
    (part = "." ∧ next = position) ∨ (part = ".." ∧ next = position.dropLast) ∨
      (part ≠ "." ∧ part ≠ "..") ∧ part.utf8ByteSize ≤ nameLimit ∧
        tree.node? (position ++ [part]) = some .directory ∧ next = position ++ [part] := by
  by_cases dot : part = "."
  · subst dot
    simp [enter_dot, eq_comm]
  · by_cases dots : part = ".."
    · subst dots
      simp [enter_dots, eq_comm]
    · rw [enter_name ⟨dot, dots⟩, child?]
      by_cases long : nameLimit < part.utf8ByteSize
      · simp [long, dot, dots, Nat.not_le.mpr long]
      · cases tree.node? (position ++ [part]) with
        | none => simp [long, dot, dots]
        | some node => cases node <;> simp [long, dot, dots, Nat.not_lt.mp long, eq_comm]

/-- A part is missing if there is nothing of its name. -/
theorem enter_eq_notFound_iff : tree.enter position part = .error .notFound ↔
    (part ≠ "." ∧ part ≠ "..") ∧ part.utf8ByteSize ≤ nameLimit ∧
    tree.node? (position ++ [part]) = none := by
  by_cases dot : part = "."
  · subst dot
    simp [enter_dot]
  · by_cases dots : part = ".."
    · subst dots
      simp [enter_dots]
    · rw [enter_name ⟨dot, dots⟩, child?]
      by_cases long : nameLimit < part.utf8ByteSize
      · simp [long, dot, dots, Nat.not_le.mpr long]
      · cases tree.node? (position ++ [part]) with
        | none => simp [long, dot, dots, Nat.not_lt.mp long]
        | some node => cases node <;> simp [long, dot, dots]

theorem foldlM_enter_cons {parts : List String} :
    (part :: parts).foldlM tree.enter position = .ok next ↔
    ∃ reached, tree.enter position part = .ok reached ∧
      parts.foldlM tree.enter reached = .ok next := by
  rw [List.foldlM_cons, bind_eq_ok]

theorem lookup_filter {α β : Type} [BEq α] [LawfulBEq α] {key other : α} (hne : key ≠ other)
    (entries : List (α × β)) :
    (entries.filter fun entry => entry.1 != other).lookup key = entries.lookup key := by
  induction entries with
  | nil => rfl
  | cons entry entries ih =>
    by_cases dropped : entry.1 = other
    · have skipped : (key == entry.1) = false := beq_false_of_ne (dropped ▸ hne)
      rw [List.filter_cons_of_neg (by simp [dropped]), ih, List.lookup_cons, skipped]
    · rw [List.filter_cons_of_pos (by simp [dropped]), List.lookup_cons, List.lookup_cons, ih]

/-- Putting a node changes what there is at its position only. -/
theorem node?_put {node : Node} (hposition : position ≠ []) (other : List String) :
    (tree.put position node).node? other =
      if other = position then some node else tree.node? other := by
  unfold node? put
  by_cases root : other = []
  · simp [root, hposition.symm]
  · by_cases same : other = position
    · simp [same, hposition]
    · simp [root, same, List.lookup_cons, lookup_filter same, beq_false_of_ne same]

/-! ## Growing trees -/

/-- Relative paths start at the same place, and directories stay directories. -/
structure Includes (tree after : FileTree) : Prop where
  current : after.current = tree.current
  directory {position : List String} (h : tree.node? position = some .directory) :
    after.node? position = some .directory

/-- Directories were made where nothing was, and nothing else happened. -/
structure Grows (tree after : FileTree) : Prop where
  current : after.current = tree.current
  node (position : List String) : after.node? position = tree.node? position ∨
    tree.node? position = none ∧ after.node? position = some .directory

theorem Grows.refl (tree : FileTree) : Grows tree tree :=
  ⟨rfl, fun _ => .inl rfl⟩

theorem Grows.trans {middle : FileTree} (h : Grows tree middle) (h' : Grows middle after) :
    Grows tree after where
  current := h'.current.trans h.current
  node position := by
    rcases h.node position with same | ⟨missing, made⟩
    · rw [← same]
      exact h'.node position
    · rcases h'.node position with same | ⟨missing', -⟩
      · exact .inr ⟨missing, same.trans made⟩
      · simp [made] at missing'

theorem Grows.node_of_some (h : Grows tree after) {node : Node}
    (hnode : tree.node? position = some node) :
    after.node? position = some node := by
  rcases h.node position with same | ⟨missing, -⟩
  · exact same.trans hnode
  · simp [hnode] at missing

/-- Only directories are new. -/
theorem Grows.file_of_after {bytes : ByteArray} (h : Grows tree after)
    (hfile : after.node? position = some (.file bytes)) :
    tree.node? position = some (.file bytes) := by
  rcases h.node position with same | ⟨-, made⟩
  · exact same.symm.trans hfile
  · rw [hfile] at made
    cases made

theorem Grows.includes (h : Grows tree after) : Includes tree after :=
  ⟨h.current, h.node_of_some⟩

theorem grows_put (h : tree.node? (position ++ [part]) = none) :
    Grows tree (tree.put (position ++ [part]) .directory) where
  current := rfl
  node other := by
    rw [node?_put (by simp)]
    split
    · next same => exact .inr ⟨same ▸ h, rfl⟩
    · exact .inl rfl

theorem Includes.enter (h : Includes tree after) (hnext : tree.enter position part = .ok next) :
    after.enter position part = .ok next := by
  rw [enter_eq_ok_iff] at hnext ⊢
  rcases hnext with dot | dots | ⟨name, short, directory, eq⟩
  · exact .inl dot
  · exact .inr (.inl dots)
  · exact .inr (.inr ⟨name, short, h.directory directory, eq⟩)

theorem Includes.foldlM_enter (h : Includes tree after) {parts : List String}
    (hnext : parts.foldlM tree.enter position = .ok next) :
    parts.foldlM after.enter position = .ok next := by
  induction parts generalizing position with
  | nil => exact hnext
  | cons part parts ih =>
    obtain ⟨reached, entered, later⟩ := foldlM_enter_cons.mp hnext
    exact foldlM_enter_cons.mpr ⟨reached, h.enter entered, ih later⟩

/-! ## Making directories -/

/-- What is done about one part of a path. -/
theorem makeFrom_cons_cases (tree : FileTree) (position : List String) (part : String)
    (later : List String) :
    (∃ next, tree.enter position part = .ok next ∧
      tree.makeFrom position (part :: later) = tree.makeFrom next later) ∨
      (tree.enter position part = .error .notFound ∧ tree.makeFrom position (part :: later) =
        (tree.put (position ++ [part]) .directory).makeFrom (position ++ [part]) later) ∨
      ∃ cause given, tree.enter position part = .error cause ∧
        tree.makeFrom position (part :: later) = (tree, .error given) := by
  rw [makeFrom]
  split
  · next next entered => exact .inl ⟨next, entered, rfl⟩
  · next missing =>
    split
    · exact .inr (.inr ⟨_, _, missing, rfl⟩)
    · exact .inr (.inl ⟨missing, rfl⟩)
  · next blocked => exact .inr (.inr ⟨_, _, blocked, rfl⟩)
  · next cause _ _ failed => exact .inr (.inr ⟨_, _, failed, rfl⟩)

theorem enter_put_directory (h : tree.enter position part = .error .notFound) :
    (tree.put (position ++ [part]) .directory).enter position part = .ok (position ++ [part]) := by
  obtain ⟨name, short, -⟩ := enter_eq_notFound_iff.mp h
  exact enter_eq_ok_iff.mpr
    (.inr (.inr ⟨name, short, by rw [node?_put (by simp), if_pos rfl], rfl⟩))

theorem grows_makeFrom (tree : FileTree) (position parts : List String) :
    Grows tree (tree.makeFrom position parts).1 := by
  induction parts generalizing tree position with
  | nil => exact .refl tree
  | cons part later ih =>
    rcases tree.makeFrom_cons_cases position part later with
      ⟨next, -, eq⟩ | ⟨missing, eq⟩ | ⟨cause, given, -, eq⟩ <;> rw [eq]
    · exact ih tree next
    · exact (grows_put (enter_eq_notFound_iff.mp missing).2.2).trans (ih _ _)
    · exact .refl tree

theorem makeFrom_of_foldlM {parts : List String} (h : parts.foldlM tree.enter position = .ok next) :
    tree.makeFrom position parts = (tree, .ok ()) := by
  induction parts generalizing position with
  | nil => rfl
  | cons part later ih =>
    obtain ⟨reached, entered, rest⟩ := foldlM_enter_cons.mp h
    simp only [makeFrom, entered]
    exact ih rest

/-- Making directories succeeds if and only if the path leads on in the tree that is left. -/
theorem makeFrom_eq_ok_iff (tree : FileTree) (position parts : List String) :
    (tree.makeFrom position parts).2 = .ok () ↔
      ∃ next, parts.foldlM (tree.makeFrom position parts).1.enter position = .ok next := by
  induction parts generalizing tree position with
  | nil => exact ⟨fun _ => ⟨position, rfl⟩, fun _ => rfl⟩
  | cons part later ih =>
    simp only [foldlM_enter_cons]
    rcases tree.makeFrom_cons_cases position part later with
      ⟨next, entered, eq⟩ | ⟨missing, eq⟩ | ⟨cause, given, failed, eq⟩ <;>
      rw [eq]
    · have first := (grows_makeFrom tree next later).includes.enter entered
      simp [first, ih]
    · have first :=
        (grows_makeFrom _ (position ++ [part]) later).includes.enter (enter_put_directory missing)
      simp [first, ih]
    · simp [failed]

/-- Whatever has been made is not made again. -/
theorem makeFrom_makeFrom (tree : FileTree) (position parts : List String) :
    ((tree.makeFrom position parts).1.makeFrom position parts).1 =
      (tree.makeFrom position parts).1 := by
  induction parts generalizing tree position with
  | nil => rfl
  | cons part later ih =>
    rcases tree.makeFrom_cons_cases position part later with
      ⟨next, entered, eq⟩ | ⟨missing, eq⟩ | ⟨cause, given, -, eq⟩
    · have first := (grows_makeFrom tree next later).includes.enter entered
      rw [eq, makeFrom, first]
      exact ih tree next
    · have first :=
        (grows_makeFrom _ (position ++ [part]) later).includes.enter (enter_put_directory missing)
      rw [eq, makeFrom, first]
      exact ih _ _
    · rw [eq, eq]

theorem grows_makeDirectories (tree : FileTree) (path : Path) :
    Grows tree (tree.makeDirectories path).1 := by
  unfold makeDirectories
  split
  · exact .refl tree
  · split
    · exact grows_makeFrom tree _ _
    · exact .refl tree

theorem makeDirectories_makeDirectories (tree : FileTree) (path : Path) :
    ((tree.makeDirectories path).1.makeDirectories path).1 = (tree.makeDirectories path).1 := by
  have current := (grows_makeDirectories tree path).current
  unfold makeDirectories at current ⊢
  split
  · rfl
  · rename_i filled
    rw [if_neg filled] at current
    cases start : tree.start path with
    | ok position =>
      rw [start] at current
      dsimp only at current ⊢
      have again : (tree.makeFrom position path.parts).1.start path = .ok position := by
        rw [FileTree.start, current, ← FileTree.start, start]
      rw [again]
      exact makeFrom_makeFrom tree position path.parts
    | error cause =>
      dsimp only
      rw [start]

/-! ## Files -/

section Files

variable {path : Path} {above : List String} {name : String} {node : Node} {bytes : ByteArray}

/-- A path leads to a name in a directory: the parts before the name lead on to the directory. -/
structure Leads (tree : FileTree) (path : Path) (above : List String) (name : String) : Prop where
  walk : ∃ position, tree.start path = .ok position ∧
    path.parts.dropLast.foldlM tree.enter position = .ok above
  last : path.parts.getLast? = some name
  plain : name ≠ "." ∧ name ≠ ".."

theorem locate_eq_ok_iff :
    tree.locate path = .ok (above, some name) ↔ tree.Leads path above name := by
  constructor
  · intro h
    obtain ⟨position, start, h⟩ := bind_eq_ok.mp h
    cases last : path.parts.getLast? with
    | none =>
      rw [last] at h
      cases h
    | some part =>
      rw [last] at h
      obtain ⟨reached, walked, h⟩ := bind_eq_ok.mp h
      split at h
      · obtain ⟨next, -, h⟩ := bind_eq_ok.mp h
        cases h
      · next named =>
        cases h
        exact ⟨⟨position, start, walked⟩, last, by simpa using named⟩
  · rintro ⟨⟨position, start, walked⟩, last, plain⟩
    refine bind_eq_ok.mpr ⟨position, start, ?_⟩
    rw [last]
    refine bind_eq_ok.mpr ⟨above, walked, ?_⟩
    rw [if_neg (by simpa using plain)]
    rfl

theorem dots_of_locate (h : tree.locate path = .ok (above, none))
    (hlast : path.parts.getLast? = some name) :
    name = "." ∨ name = ".." := by
  obtain ⟨position, -, h⟩ := bind_eq_ok.mp h
  rw [hlast] at h
  obtain ⟨reached, -, h⟩ := bind_eq_ok.mp h
  split at h
  · next dots => simpa using dots
  · cases h

theorem start_of_current (h : after.current = tree.current) (path : Path) :
    after.start path = tree.start path := by
  unfold start
  rw [h]

theorem Includes.leads (h : Includes tree after) (hleads : tree.Leads path above name) :
    after.Leads path above name := by
  obtain ⟨⟨position, start, walked⟩, last, plain⟩ := hleads
  exact ⟨⟨position, (start_of_current h.current path).trans start,
    h.foldlM_enter walked⟩, last, plain⟩

theorem child?_eq_ok_iff {found : Option Node} : tree.child? position part = .ok found ↔
    part.utf8ByteSize ≤ nameLimit ∧ tree.node? (position ++ [part]) = found := by
  unfold child?
  split
  · next long => simp [Nat.not_le.mpr long]
  · next short => simp [Nat.not_lt.mp short]

/-- A path leads to a directory by its dots, or to a node of some name, which is no file behind a
slash. -/
theorem find_eq_ok_iff : tree.find path = .ok node ↔
    (∃ above, tree.locate path = .ok (above, none) ∧ node = .directory) ∨
      ∃ above name, tree.Leads path above name ∧ name.utf8ByteSize ≤ nameLimit ∧
        tree.node? (above ++ [name]) = some node ∧
        (path.endsWithSlash = true → node = .directory) := by
  constructor
  · intro h
    obtain ⟨⟨above, name | name⟩, located, h⟩ := bind_eq_ok.mp h
    · cases h
      exact .inl ⟨above, located, rfl⟩
    · obtain ⟨found, child, h⟩ := bind_eq_ok.mp h
      obtain ⟨short, there⟩ := child?_eq_ok_iff.mp child
      refine .inr ⟨above, name, locate_eq_ok_iff.mp located, short, ?_⟩
      rcases found with _ | _ | bytes
      · cases h
      · cases h
        exact ⟨there, fun _ => rfl⟩
      · cases slash : path.endsWithSlash <;> rw [slash] at h <;> cases h
        exact ⟨there, nofun⟩
  · rintro (⟨above, located, rfl⟩ | ⟨above, name, leads, short, there, slash⟩)
    · exact bind_eq_ok.mpr ⟨_, located, rfl⟩
    · refine bind_eq_ok.mpr ⟨_, locate_eq_ok_iff.mpr leads,
        bind_eq_ok.mpr ⟨_, child?_eq_ok_iff.mpr ⟨short, there⟩, ?_⟩⟩
      cases node with
      | directory => rfl
      | file bytes =>
        have noSlash : ¬ path.endsWithSlash = true := fun h => Node.noConfusion (slash h)
        exact if_neg noSlash

/-- What is found by a name lies where the path leads. -/
theorem exists_leads_of_find (hlast : path.parts.getLast? = some name)
    (hplain : name ≠ "." ∧ name ≠ "..") (h : tree.find path = .ok node) :
    ∃ above, tree.Leads path above name ∧ tree.node? (above ++ [name]) = some node := by
  rcases find_eq_ok_iff.mp h with ⟨above, located, -⟩ | ⟨above, other, leads, -, there, -⟩
  · exact absurd (dots_of_locate located hlast) (not_or.mpr hplain)
  · obtain rfl : other = name := Option.some.inj (leads.last.symm.trans hlast)
    exact ⟨above, leads, there⟩

theorem read_eq_ok_iff_find : tree.read path = .ok bytes ↔ tree.find path = .ok (.file bytes) := by
  constructor
  · intro h
    obtain ⟨_ | content, found, h⟩ := bind_eq_ok.mp h
    · cases h
    · cases h
      exact found
  · exact fun found => bind_eq_ok.mpr ⟨_, found, rfl⟩

/-- A file is read by a path that leads to it and does not end in a slash. -/
theorem read_eq_ok_iff : tree.read path = .ok bytes ↔
    ∃ above name, tree.Leads path above name ∧ path.endsWithSlash = false ∧
      name.utf8ByteSize ≤ nameLimit ∧
      tree.node? (above ++ [name]) = some (.file bytes) := by
  rw [read_eq_ok_iff_find, find_eq_ok_iff]
  constructor
  · rintro (⟨_, _, ⟨⟩⟩ | ⟨above, name, leads, short, there, slash⟩)
    exact ⟨above, name, leads, by simpa using slash, short, there⟩
  · rintro ⟨above, name, leads, slash, short, there⟩
    exact .inr ⟨above, name, leads, short, there, by simp [slash]⟩

/-- The bytes of a file are replaced where there is no directory. -/
theorem write_eq_ok_iff : tree.write path bytes = .ok after ↔
    ∃ above name, tree.Leads path above name ∧ path.endsWithSlash = false ∧
      name.utf8ByteSize ≤ nameLimit ∧
      tree.node? (above ++ [name]) ≠ some .directory ∧
      after = tree.put (above ++ [name]) (.file bytes) := by
  constructor
  · intro h
    obtain ⟨⟨above, name | name⟩, located, h⟩ := bind_eq_ok.mp h
    · cases h
    · dsimp only at h
      split at h
      · cases h
      · next slash =>
        obtain ⟨found, child, h⟩ := bind_eq_ok.mp h
        obtain ⟨short, there⟩ := child?_eq_ok_iff.mp child
        refine ⟨above, name, locate_eq_ok_iff.mp located, by simpa using slash, short, ?_⟩
        rcases found with _ | _ | content
        · cases h
          exact ⟨by simp [there], rfl⟩
        · cases h
        · cases h
          exact ⟨by simp [there], rfl⟩
  · rintro ⟨above, name, leads, slash, short, free, rfl⟩
    refine bind_eq_ok.mpr ⟨_, locate_eq_ok_iff.mpr leads, ?_⟩
    dsimp only
    rw [if_neg (by simp [slash])]
    refine bind_eq_ok.mpr ⟨_, child?_eq_ok_iff.mpr ⟨short, rfl⟩, ?_⟩
    rcases there : tree.node? (above ++ [name]) with _ | _ | content
    · rfl
    · exact absurd there free
    · rfl

theorem includes_put (hposition : tree.node? position ≠ some .directory) (hne : position ≠ [])
    (bytes : ByteArray) :
    Includes tree (tree.put position (.file bytes)) where
  current := rfl
  directory {other} hother := by
    have differs : other ≠ position := by
      rintro rfl
      exact hposition hother
    rw [node?_put hne, if_neg differs, hother]

/-- **What is written is read.** -/
theorem read_of_write (h : tree.write path bytes = .ok after) :
    Includes tree after ∧ after.read path = .ok bytes := by
  obtain ⟨above, name, leads, slash, short, node, rfl⟩ := write_eq_ok_iff.mp h
  have includes := includes_put node (by simp) bytes
  refine ⟨includes, read_eq_ok_iff.mpr ?_⟩
  exact ⟨above, name, includes.leads leads, slash, short, by rw [node?_put (by simp), if_pos rfl]⟩

/-- What can be read can be written. -/
theorem exists_write_of_read (h : tree.read path = .ok bytes) (other : ByteArray) :
    ∃ after, tree.write path other = .ok after := by
  obtain ⟨above, name, leads, slash, short, node⟩ := read_eq_ok_iff.mp h
  exact ⟨_, write_eq_ok_iff.mpr ⟨above, name, leads, slash, short, by simp [node], rfl⟩⟩

end Files

/-! ## Closed trees -/

/-- Whatever lies below a position lies in a directory, and relative paths start in one. -/
structure Closed (tree : FileTree) : Prop where
  current : tree.node? tree.current = some .directory
  above {position later : List String} {node : Node} (hlater : later ≠ [])
    (hnode : tree.node? (position ++ later) = some node) : tree.node? position = some .directory

namespace Closed

variable {above parts : List String} {path : Path} {name : String} {node : Node}

theorem empty : Closed {} where
  current := rfl
  above {position later node} hlater hnode := by
    have below : position ++ later ≠ [] := by simp [hlater]
    simp [node?, below] at hnode

theorem enter (h : tree.Closed) (hposition : tree.node? position = some .directory)
    (hnext : tree.enter position part = .ok next) : tree.node? next = some .directory := by
  rcases enter_eq_ok_iff.mp hnext with ⟨-, rfl⟩ | ⟨-, rfl⟩ | ⟨-, -, directory, rfl⟩
  · exact hposition
  · rcases List.eq_nil_or_concat position with rfl | ⟨front, last, rfl⟩
    · rfl
    · rw [List.concat_eq_append] at hposition ⊢
      rw [List.dropLast_concat]
      exact h.above (List.cons_ne_nil last []) hposition
  · exact directory

theorem foldlM_enter (h : tree.Closed) (hposition : tree.node? position = some .directory)
    (hwalk : parts.foldlM tree.enter position = .ok above) :
    tree.node? above = some .directory := by
  induction parts generalizing position with
  | nil =>
    cases hwalk
    exact hposition
  | cons part parts ih =>
    obtain ⟨reached, entered, walked⟩ := foldlM_enter_cons.mp hwalk
    exact ih (h.enter hposition entered) walked

theorem start (h : tree.Closed) (hstart : tree.start path = .ok position) :
    tree.node? position = some .directory := by
  unfold FileTree.start at hstart
  split at hstart
  · cases hstart
  · split at hstart
    · cases hstart
    · split at hstart
      · cases hstart
      · cases hstart
        split
        · rfl
        · exact h.current

/-- A directory may hold anything in place of what is not a directory. -/
theorem put (h : tree.Closed) (hposition : tree.node? position = some .directory)
    (hfree : tree.node? (position ++ [name]) ≠ some .directory) (node : Node) :
    (tree.put (position ++ [name]) node).Closed := by
  have kept {other : List String} (hother : tree.node? other = some .directory) :
      (tree.put (position ++ [name]) node).node? other = some .directory := by
    have differ : other ≠ position ++ [name] := by
      rintro rfl
      exact hfree hother
    rw [node?_put (by simp), if_neg differ, hother]
  refine ⟨kept h.current, fun {other later below} hlater hbelow => kept ?_⟩
  rw [node?_put (by simp)] at hbelow
  split at hbelow
  · next same =>
    obtain ⟨front, last, rfl⟩ := (List.eq_nil_or_concat later).resolve_left hlater
    rw [List.concat_eq_append, ← List.append_assoc] at same
    obtain ⟨rfl, -⟩ := List.append_inj' same rfl
    cases front with
    | nil => simpa using hposition
    | cons first front => exact h.above (List.cons_ne_nil first front) hposition
  · exact h.above hlater hbelow

theorem makeFrom (h : tree.Closed) (hposition : tree.node? position = some .directory)
    (parts : List String) :
    (tree.makeFrom position parts).1.Closed := by
  induction parts generalizing tree position with
  | nil => exact h
  | cons part later ih =>
    rcases tree.makeFrom_cons_cases position part later with
      ⟨next, entered, eq⟩ | ⟨missing, eq⟩ | ⟨cause, given, -, eq⟩ <;>
      rw [eq]
    · exact ih h (h.enter hposition entered)
    · have free : tree.node? (position ++ [part]) ≠ some .directory := by
        simp [(enter_eq_notFound_iff.mp missing).2.2]
      exact ih (h.put hposition free .directory) (by rw [node?_put (by simp), if_pos rfl])
    · exact h

theorem makeDirectories (h : tree.Closed) (path : Path) : (tree.makeDirectories path).1.Closed := by
  unfold FileTree.makeDirectories
  split
  · exact h
  · split
    · next position start => exact h.makeFrom (h.start start) _
    · exact h

theorem write {bytes : ByteArray} (h : tree.Closed) (hwrite : tree.write path bytes = .ok after) :
    after.Closed := by
  obtain ⟨above, name, leads, -, -, free, rfl⟩ := write_eq_ok_iff.mp hwrite
  obtain ⟨position, start, walked⟩ := leads.walk
  exact h.put (h.foldlM_enter (h.start start) walked) free _

end Closed

/-! ## Paths without steps back -/

section Down

variable {above parts : List String} {path : Path} {name : String} {node : Node}

/-- A walk without steps back goes down. -/
theorem prefix_of_foldlM_enter (hparts : ".." ∉ parts)
    (h : parts.foldlM tree.enter position = .ok above) :
    position <+: above := by
  induction parts generalizing position with
  | nil =>
    cases h
    exact List.prefix_refl _
  | cons part parts ih =>
    obtain ⟨reached, entered, walked⟩ := foldlM_enter_cons.mp h
    have later := ih (fun hmem => hparts (List.mem_cons_of_mem _ hmem)) walked
    rcases enter_eq_ok_iff.mp entered with ⟨-, rfl⟩ | ⟨rfl, -⟩ | ⟨-, -, -, rfl⟩
    · exact later
    · exact absurd List.mem_cons_self hparts
    · exact (List.prefix_append _ _).trans later

/-- Directories are made on the way only. -/
theorem prefix_of_makeFrom (hparts : ".." ∉ parts)
    (hwalk : parts.foldlM (tree.makeFrom position parts).1.enter position = .ok above)
    {other : List String} (hmissing : tree.node? other = none)
    (hmade : (tree.makeFrom position parts).1.node? other = some node) :
    other <+: above := by
  induction parts generalizing tree position with
  | nil =>
    rw [makeFrom, hmissing] at hmade
    cases hmade
  | cons part later ih =>
    have down : ".." ∉ later := fun hmem => hparts (List.mem_cons_of_mem _ hmem)
    obtain ⟨reached, entered, walked⟩ := foldlM_enter_cons.mp hwalk
    rcases tree.makeFrom_cons_cases position part later with
      ⟨next, first, eq⟩ | ⟨missing, eq⟩ | ⟨cause, given, -, eq⟩ <;>
      rw [eq] at entered walked hmade
    · rw [(grows_makeFrom tree next later).includes.enter first] at entered
      cases entered
      exact ih down walked hmissing hmade
    · rw [(grows_makeFrom _ _ later).includes.enter (enter_put_directory missing)] at entered
      cases entered
      by_cases same : other = position ++ [part]
      · rw [same]
        exact prefix_of_foldlM_enter down walked
      · exact ih down walked (by rw [node?_put (by simp), if_neg same, hmissing]) hmade
    · rw [hmissing] at hmade
      cases hmade

/-- A walk down in one tree leads down in another one that has something at the end of the walk. -/
theorem Closed.foldlM_enter_of_node (hclosed : tree.Closed) (hparts : ".." ∉ parts)
    (hwalk : parts.foldlM after.enter position = .ok above)
    (hnode : tree.node? (above ++ [name]) = some node) :
    parts.foldlM tree.enter position = .ok above := by
  induction parts generalizing position with
  | nil => exact hwalk
  | cons part parts ih =>
    have down : ".." ∉ parts := fun hmem => hparts (List.mem_cons_of_mem _ hmem)
    obtain ⟨reached, entered, walked⟩ := foldlM_enter_cons.mp hwalk
    refine foldlM_enter_cons.mpr ⟨reached, ?_, ih down walked⟩
    obtain ⟨later, rfl⟩ := prefix_of_foldlM_enter down walked
    have below : tree.node? (reached ++ (later ++ [name])) = some node := by simpa using hnode
    have directory := hclosed.above (by simp) below
    rw [enter_eq_ok_iff] at entered ⊢
    rcases entered with dot | dots | ⟨named, short, -, rfl⟩
    · exact .inl dot
    · exact .inr (.inl dots)
    · exact .inr (.inr ⟨named, short, directory, rfl⟩)

/-- **What cannot be found is not there**, wherever the path leads once its directories are made, if
it does not step back. -/
theorem Closed.node?_eq_none (hclosed : tree.Closed) (hcurrent : after.current = tree.current)
    (hparts : ".." ∉ path.parts) (hslash : path.endsWithSlash = false)
    (habsent : (tree.find path).isOk = false) (hleads : after.Leads path above name)
    (hshort : name.utf8ByteSize ≤ nameLimit) : tree.node? (above ++ [name]) = none := by
  cases there : tree.node? (above ++ [name]) with
  | none => rfl
  | some node =>
    obtain ⟨⟨position, start, walked⟩, last, plain⟩ := hleads
    rw [start_of_current hcurrent] at start
    have down : ".." ∉ path.parts.dropLast :=
      fun hmem => hparts ((List.dropLast_sublist _).subset hmem)
    have leads : tree.Leads path above name :=
      ⟨⟨position, start, hclosed.foldlM_enter_of_node down walked there⟩, last, plain⟩
    have found : tree.find path = .ok node :=
      find_eq_ok_iff.mpr (.inr ⟨above, name, leads, hshort, there, by simp [hslash]⟩)
    rw [found] at habsent
    cases habsent

end Down

end FileTree

end BiomeAtlas
