import BiomeAtlas.Proofs.RoundTrip
import BiomeAtlas.Proofs.Trees
import BiomeAtlas.Settings.Storage

/-! # Settings survive being kept

The file of a directory of settings is written in one step and read in one step, so all that can be
said about a run of loads, reloads and saves follows from what one request does. `Settings.Holds`
says that the file holds the text of some settings; a request is answered from them and leaves a
file that holds the settings saved last (`Settings.Holds.perform`), and so does a run of requests
(`Settings.Holds.run`). Where the file does not hold settings, a request that fails has made
directories at most (`Settings.Untouched`).

Loading looks for the file first and makes its directory afterwards. A path that steps back from a
directory which is missing does not lead to its file until this directory has been made
(`Settings.Hidden`). Loading replaces such a file by the defaults (`Settings.Hidden.overwritten`,
`Settings.loading_overwrites_settings`); where no file is hidden, requests that save nothing keep
everything that is there (`Settings.node?_run`).

Main statement: `Settings.survive_persistence`, for every directory and every tree of files.

An error carries no settings, and settings are values: whoever asks keeps its own. -/

namespace BiomeAtlas

theorem fromUTF8?_toUTF8 (text : String) : String.fromUTF8? text.toUTF8 = some text :=
  dif_pos text.isValidUTF8

namespace FileTree

/-- What operations on files give in a tree, and the tree they leave. -/
def run {α : Type} (tree : FileTree) (action : StateM FileTree α) : α × FileTree :=
  action tree

section Run

variable {α β : Type} (tree : FileTree) (path : Path)

@[simp] theorem run_bind (first : StateM FileTree α) (later : α → StateM FileTree β) :
    tree.run (first >>= later) = (tree.run first).2.run (later (tree.run first).1) := rfl

@[simp] theorem run_pure (a : α) : tree.run (pure a) = (a, tree) := rfl

@[simp] theorem run_map (f : α → β) (action : StateM FileTree α) :
    tree.run (f <$> action) = (f (tree.run action).1, (tree.run action).2) := rfl

@[simp] theorem run_isPresent :
    tree.run (Files.isPresent path) = ((tree.find path).isOk, tree) := rfl

@[simp] theorem run_read : tree.run (Files.read path) = (tree.read path, tree) := rfl

@[simp] theorem run_makeDirectories :
    tree.run (Files.makeDirectories path) =
      ((tree.makeDirectories path).2, (tree.makeDirectories path).1) := rfl

@[simp] theorem run_write (bytes : ByteArray) :
    tree.run (Files.write path bytes) = match tree.write path bytes with
      | .ok after => (.ok (), after)
      | .error cause => (.error cause, tree) := by
  change tree.run (match tree.write path bytes with
    | .ok after => do set after; return Except.ok ()
    | .error cause => return Except.error cause) = _
  cases tree.write path bytes <;> rfl

end Run

end FileTree

namespace Settings

variable {tree after : FileTree} {directory : Path} {settings : Settings}
  {position above : List String} {name : String}

/-! ## The file in a directory -/

theorem parts_file (directory : Path) :
    (file directory).parts = directory.parts ++ ["config.ron"] := by
  rw [file, Path.parts_join (by decide)]
  congr 1

theorem start_directory (hstart : tree.start (file directory) = .ok position)
    (hne : directory.text.isEmpty = false) :
    tree.start directory = .ok position := by
  obtain ⟨suffix, text⟩ : ∃ suffix, (file directory).text = directory.text ++ suffix := by
    unfold file Path.join
    split
    · contradiction
    · split
      · exact ⟨_, rfl⟩
      · exact ⟨"/" ++ "config.ron", by rw [String.append_assoc]⟩
  have absolute : (file directory).isAbsolute = directory.isAbsolute := by
    cases letters : directory.text.toList with
    | nil =>
      rw [String.toList_eq_nil_iff] at letters
      simp [letters] at hne
    | cons c later => simp [Path.isAbsolute, text, letters]
  simp only [FileTree.start, absolute, text, String.toList_append, List.contains_append,
    Bool.or_eq_true, String.utf8ByteSize_append] at hstart ⊢
  split at hstart
  · contradiction
  · next zero =>
    split at hstart
    · contradiction
    · next long =>
      have zero' := (not_or.mp zero).1
      have long' : ¬ pathLimit < directory.text.utf8ByteSize := by omega
      rw [if_neg zero', if_neg long', hne]
      split at hstart
      · contradiction
      · exact hstart

/-- If the file has a place, its directory is there, and nothing has to be made. -/
theorem makeDirectories_of_leads (h : tree.Leads (file directory) above name) :
    tree.makeDirectories directory = (tree, .ok ()) := by
  obtain ⟨position, start, walked⟩ := h.walk
  rw [parts_file, List.dropLast_concat] at walked
  unfold FileTree.makeDirectories
  cases empty : directory.text.isEmpty with
  | true => rfl
  | false => simp [start_directory start empty, FileTree.makeFrom_of_foldlM walked]

/-- If the file has a place once its directory is made, the parts of the directory lead there. -/
theorem walk_of_leads (h : (tree.makeDirectories directory).1.Leads (file directory) above name) :
    tree.makeDirectories directory = (tree, .ok ()) ∨
      ∃ position, tree.makeDirectories directory = tree.makeFrom position directory.parts ∧
        directory.parts.foldlM (tree.makeFrom position directory.parts).1.enter position =
          .ok above := by
  obtain ⟨position, start, walked⟩ := h.walk
  rw [parts_file, List.dropLast_concat] at walked
  rw [FileTree.start_of_current (FileTree.grows_makeDirectories tree directory).current] at start
  cases empty : directory.text.isEmpty with
  | true => exact .inl (by simp [FileTree.makeDirectories, empty])
  | false =>
    have made : tree.makeDirectories directory = tree.makeFrom position directory.parts := by
      simp [FileTree.makeDirectories, empty, start_directory start empty]
    rw [made] at walked
    exact .inr ⟨position, made, walked⟩

/-- If the file has a place in the tree that is left, then making its directory succeeded. -/
theorem makeDirectories_eq_ok
    (h : (tree.makeDirectories directory).1.Leads (file directory) above name) :
    (tree.makeDirectories directory).2 = .ok () := by
  rcases walk_of_leads h with same | ⟨position, made, walked⟩
  · rw [same]
  · rw [made]
    exact (FileTree.makeFrom_eq_ok_iff tree position directory.parts).mpr ⟨above, walked⟩

theorem endsWithSlash_file (directory : Path) : (file directory).endsWithSlash = false := by
  have last : (file directory).text.toList.getLast? = some 'n' := by
    unfold file Path.join
    split
    · rfl
    · split <;> simp
  rw [Path.endsWithSlash, last]
  rfl

theorem find_file_iff {node : Node} : tree.find (file directory) = .ok node ↔
    ∃ above, tree.Leads (file directory) above "config.ron" ∧
      tree.node? (above ++ ["config.ron"]) = some node := by
  constructor
  · exact FileTree.exists_leads_of_find (by rw [parts_file, List.getLast?_concat]) (by decide)
  · rintro ⟨above, leads, there⟩
    exact FileTree.find_eq_ok_iff.mpr
      (.inr ⟨above, _, leads, by decide, there, by simp [endsWithSlash_file]⟩)

/-- Making the directory does not make the file, nor anything in its place, if the directory does
not step back. -/
theorem find_makeDirectories (hclosed : tree.Closed) (hparts : ".." ∉ directory.parts) :
    ((tree.makeDirectories directory).1.find (file directory)).toOption =
      (tree.find (file directory)).toOption := by
  have grows := FileTree.grows_makeDirectories tree directory
  cases before : tree.find (file directory) with
  | ok node =>
    obtain ⟨above, leads, there⟩ := find_file_iff.mp before
    rw [find_file_iff.mpr ⟨above, grows.includes.leads leads, grows.node_of_some there⟩]
  | error cause =>
    cases behind : (tree.makeDirectories directory).1.find (file directory) with
    | error cause' => rfl
    | ok node =>
      obtain ⟨above, leads, there⟩ := find_file_iff.mp behind
      have missing := hclosed.node?_eq_none grows.current (by simpa [parts_file] using hparts)
        (endsWithSlash_file directory)
        (by rw [before]; rfl) leads (by decide)
      rcases walk_of_leads leads with same | ⟨position, made, walked⟩
      · rw [same, missing] at there
        cases there
      · rw [made] at there
        have shorter := (FileTree.prefix_of_makeFrom hparts walked missing there).length_le
        rw [List.length_append] at shorter
        exact absurd shorter (by simp)

/-! ## Reading and writing -/

/-- What a file holds. -/
def stored (tree : FileTree) (path : Path) : Except SettingsError Settings :=
  match tree.read path with
  | .error cause => .error (.unreadable cause)
  | .ok bytes =>
    match String.fromUTF8? bytes with
    | none => .error (.unreadable .notText)
    | some text =>
      match parse? text with
      | none => .error .malformed
      | some settings => .ok settings

theorem run_readFile (path : Path) (tree : FileTree) :
    tree.run (readFile path) = (stored tree path, tree) := by
  unfold readFile Files.readText stored
  simp only [FileTree.run_bind, FileTree.run_read]
  cases tree.read path with
  | error cause => rfl
  | ok bytes =>
    simp only
    cases String.fromUTF8? bytes with
    | none => rfl
    | some text =>
      simp only [FileTree.run_pure]
      cases parse? text <;> rfl

/-- The settings in a directory are those that were saved. -/
def Holds (tree : FileTree) (directory : Path) (settings : Settings) : Prop :=
  tree.read (file directory) = .ok settings.render.toUTF8

theorem Holds.stored (h : Holds tree directory settings) :
    stored tree (file directory) = .ok settings := by
  have read : tree.read (file directory) = .ok settings.render.toUTF8 := h
  simp only [Settings.stored, read, fromUTF8?_toUTF8, parse?_render]

/-- What saving does, once the directory is made. -/
theorem run_save (settings : Settings) (directory : Path) (tree : FileTree) :
    tree.run (save settings directory) = match tree.makeDirectories directory with
      | (made, .error cause) => (.error (.unwritable cause), made)
      | (made, .ok ()) =>
        match made.write (file directory) settings.render.toUTF8 with
        | .error cause => (.error (.unwritable cause), made)
        | .ok after => (.ok (), after) := by
  unfold save
  rw [FileTree.run_bind, FileTree.run_makeDirectories]
  rcases tree.makeDirectories directory with ⟨made, cause | _⟩
  · rfl
  · simp only [FileTree.run_bind, FileTree.run_write]
    cases made.write (file directory) settings.render.toUTF8 <;> rfl

/-- **Saving either stores the settings, or makes nothing but directories** and leaves no file that
can be read. -/
theorem save_cases (settings : Settings) (directory : Path) (tree : FileTree) :
    (∃ after, tree.run (save settings directory) = (.ok (), after) ∧
      Holds after directory settings) ∨
      ∃ cause,
        tree.run (save settings directory) = (.error cause, (tree.makeDirectories directory).1) ∧
        ∀ bytes, (tree.makeDirectories directory).1.read (file directory) ≠ .ok bytes := by
  rw [run_save]
  rcases made : tree.makeDirectories directory with ⟨after, cause | _⟩
  · refine .inr ⟨_, rfl, fun bytes hread => ?_⟩
    obtain ⟨above, name, leads, -⟩ := FileTree.read_eq_ok_iff.mp hread
    have place : (tree.makeDirectories directory).1.Leads (file directory) above name := by
      rw [made]
      exact leads
    have succeeds := makeDirectories_eq_ok place
    rw [made] at succeeds
    cases succeeds
  · cases written : after.write (file directory) settings.render.toUTF8 with
    | ok last => exact .inl ⟨last, by simp only [written], (FileTree.read_of_write written).2⟩
    | error cause =>
      refine .inr ⟨.unwritable cause, by simp only [written], fun bytes hread => ?_⟩
      obtain ⟨last, rewritten⟩ := FileTree.exists_write_of_read hread settings.render.toUTF8
      rw [written] at rewritten
      cases rewritten

theorem holds_of_save (h : tree.run (save settings directory) = (.ok (), after)) :
    Holds after directory settings := by
  rcases save_cases settings directory tree with ⟨other, saved, holds⟩ | ⟨cause, failed, -⟩
  · rw [h] at saved
    cases saved
    exact holds
  · rw [h] at failed
    cases failed

/-- Where a file can be read, settings can be saved. -/
theorem exists_save_of_read {bytes : ByteArray} (h : tree.read (file directory) = .ok bytes)
    (settings : Settings) :
    ∃ after, tree.run (save settings directory) = (.ok (), after) := by
  obtain ⟨above, name, leads, -⟩ := FileTree.read_eq_ok_iff.mp h
  obtain ⟨after, written⟩ := FileTree.exists_write_of_read h settings.render.toUTF8
  exact ⟨after, by simp only [run_save, makeDirectories_of_leads leads, written]⟩

/-- Nothing has happened to the file of a directory of settings, though directories may have been
made: what can be read of the file is the same as before, and so is what is found in its place, if
the directory does not step back. -/
structure Untouched (tree after : FileTree) (directory : Path) : Prop where
  grows : FileTree.Grows tree after
  read : (after.read (file directory)).toOption = (tree.read (file directory)).toOption
  find (hclosed : tree.Closed) (hparts : ".." ∉ directory.parts) :
    (after.find (file directory)).toOption = (tree.find (file directory)).toOption

theorem Untouched.refl (tree : FileTree) (directory : Path) : Untouched tree tree directory :=
  ⟨.refl tree, rfl, fun _ _ => rfl⟩

/-- Saving that fails leaves the file as it was. -/
theorem untouched_of_save {cause : SettingsError}
    (h : tree.run (save settings directory) = (.error cause, after)) :
    Untouched tree after directory := by
  rcases save_cases settings directory tree with ⟨other, saved, -⟩ | ⟨cause', failed, unreadable⟩
  · rw [h] at saved
    cases saved
  · rw [h] at failed
    cases failed
    refine ⟨FileTree.grows_makeDirectories tree directory, ?_, find_makeDirectories⟩
    cases behind : (tree.makeDirectories directory).1.read (file directory) with
    | ok bytes => exact absurd behind (unreadable bytes)
    | error _ =>
      cases before : tree.read (file directory) with
      | error _ => rfl
      | ok bytes =>
        obtain ⟨other, saved⟩ := exists_save_of_read before settings
        rw [h] at saved
        cases saved

theorem run_loadOrCreate_of_present (h : (tree.find (file directory)).isOk = true) :
    tree.run (loadOrCreate directory) = (stored tree (file directory), tree) := by
  unfold loadOrCreate
  simp only [FileTree.run_bind, FileTree.run_isPresent, h, if_true, run_readFile]

theorem run_loadOrCreate_of_absent (h : (tree.find (file directory)).isOk = false) :
    tree.run (loadOrCreate directory) =
      ((tree.run (save {} directory)).1.map fun () => {}, (tree.run (save {} directory)).2) := by
  unfold loadOrCreate
  simp only [FileTree.run_bind, FileTree.run_isPresent, h]
  rfl

theorem run_reload (mine : Settings) (directory : Path) (tree : FileTree) :
    tree.run (reload mine directory) =
      ((stored tree (file directory)).map fun loaded =>
        if mine.Same loaded then none else some loaded, tree) := by
  unfold reload
  simp only [FileTree.run_bind, run_readFile]
  rfl

theorem Holds.run_loadOrCreate (h : Holds tree directory settings) :
    tree.run (loadOrCreate directory) = (.ok settings, tree) := by
  have present : (tree.find (file directory)).isOk = true := by
    rw [FileTree.read_eq_ok_iff_find.mp h]
    rfl
  rw [run_loadOrCreate_of_present present, h.stored]

theorem Holds.run_reload (h : Holds tree directory settings) (mine : Settings) :
    tree.run (mine.reload directory) =
      (.ok (if mine.Same settings then none else some settings), tree) := by
  rw [Settings.run_reload, h.stored]
  rfl

theorem Same.refl (settings : Settings) : settings.Same settings :=
  ⟨rfl, rfl, rfl⟩

/-! ## Runs -/

/-- What a program asks of the settings in a directory. -/
inductive Request where
  /-- The settings, which are made if there are none. -/
  | load
  /-- The settings, if they are not the same as its own. -/
  | reload (mine : Settings)
  /-- Other settings are to be kept. -/
  | save (settings : Settings)

/-- What a program is told. -/
inductive Reply where
  | loaded (result : Except SettingsError Settings)
  | reloaded (result : Except SettingsError (Option Settings))
  | saved (result : Except SettingsError Unit)

namespace Request

/-- What is done about a request. -/
def perform (directory : Path) : Request → StateM FileTree Reply
  | load => Reply.loaded <$> loadOrCreate directory
  | reload mine => Reply.reloaded <$> mine.reload directory
  | save settings => Reply.saved <$> settings.save directory

/-- The settings that are kept after a request. -/
def next (kept : Settings) : Request → Settings
  | load | reload _ => kept
  | save settings => settings

/-- What a program has to be told if some settings are kept. -/
def answer (kept : Settings) : Request → Reply
  | load => .loaded (.ok kept)
  | reload mine => .reloaded (.ok (if mine.Same kept then none else some kept))
  | save _ => .saved (.ok ())

/-- What a program has to be told in turn. -/
def answers (kept : Settings) : List Request → List Reply
  | [] => []
  | request :: later => request.answer kept :: answers (request.next kept) later

/-- Nothing is to be saved. -/
def Quiet : Request → Prop
  | load | reload _ => True
  | save _ => False

end Request

/-- **One request** is answered from the settings that are kept. -/
theorem Holds.perform (h : Holds tree directory settings) (request : Request) :
    ∃ after, tree.run (request.perform directory) = (request.answer settings, after) ∧
      Holds after directory (request.next settings) := by
  cases request with
  | load => exact ⟨tree, by simp [Request.perform, Request.answer, h.run_loadOrCreate], h⟩
  | reload mine => exact ⟨tree, by simp [Request.perform, Request.answer, h.run_reload], h⟩
  | save other =>
    obtain ⟨after, saved⟩ := exists_save_of_read h other
    exact ⟨after, by simp [Request.perform, Request.answer, saved], holds_of_save saved⟩

/-- **A run of requests** is answered from the settings that were saved last. -/
theorem Holds.run (h : Holds tree directory settings) (requests : List Request) :
    ∃ after, tree.run (requests.mapM (Request.perform directory)) =
      (Request.answers settings requests, after) ∧
      Holds after directory (requests.foldl Request.next settings) := by
  induction requests generalizing tree settings with
  | nil => exact ⟨tree, rfl, h⟩
  | cons request later ih =>
    obtain ⟨middle, answered, holds⟩ := h.perform request
    obtain ⟨after, answeredLater, holdsLater⟩ := ih holds
    refine ⟨after, ?_, holdsLater⟩
    simp [List.mapM_cons, answered, answeredLater, Request.answers]

/-- Settings are kept: they are loaded, others are told from them, and a run of requests is answered
from them or from those that the run saves. -/
structure Kept (tree : FileTree) (directory : Path) (settings : Settings) : Prop where
  load : tree.run (loadOrCreate directory) = (.ok settings, tree)
  unchanged : tree.run (settings.reload directory) = (.ok none, tree)
  reload (mine : Settings) :
    tree.run (mine.reload directory) =
      (.ok (if mine.Same settings then none else some settings), tree)
  run (requests : List Request) : ∃ after,
    tree.run (requests.mapM (Request.perform directory)) =
      (Request.answers settings requests, after) ∧
      after.run (loadOrCreate directory) = (.ok (requests.foldl Request.next settings), after)

theorem Holds.kept (h : Holds tree directory settings) : Kept tree directory settings where
  load := h.run_loadOrCreate
  unchanged := by rw [h.run_reload, if_pos (Same.refl settings)]
  reload := h.run_reload
  run requests := by
    obtain ⟨after, answered, holds⟩ := h.run requests
    exact ⟨after, answered, holds.run_loadOrCreate⟩

/-! ## Files that are there -/

theorem run_perform_of_present (h : (tree.find (file directory)).isOk = true) {request : Request}
    (hquiet : request.Quiet) :
    (tree.run (request.perform directory)).2 = tree := by
  cases request with
  | load => simp [Request.perform, run_loadOrCreate_of_present h]
  | reload mine => simp [Request.perform, run_reload]
  | save other => exact hquiet.elim

/-- **Runs that save nothing leave a file that is there**, whatever it holds. -/
theorem run_of_present (h : (tree.find (file directory)).isOk = true) {requests : List Request}
    (hquiet : ∀ request ∈ requests, request.Quiet) :
    (tree.run (requests.mapM (Request.perform directory))).2 = tree := by
  induction requests with
  | nil => rfl
  | cons request later ih =>
    have first := run_perform_of_present h (hquiet request List.mem_cons_self)
    have rest := ih fun other hother => hquiet other (List.mem_cons_of_mem _ hother)
    simp [List.mapM_cons, first, rest]

theorem untouched_of_loadOrCreate {cause : SettingsError}
    (h : tree.run (loadOrCreate directory) = (.error cause, after)) :
    Untouched tree after directory := by
  cases present : (tree.find (file directory)).isOk with
  | true =>
    rw [run_loadOrCreate_of_present present] at h
    obtain ⟨-, rfl⟩ := Prod.mk.inj h
    exact .refl tree directory
  | false =>
    rw [run_loadOrCreate_of_absent present] at h
    rcases saved : tree.run (save {} directory) with ⟨cause' | _, other⟩ <;>
      rw [saved] at h <;> cases h
    exact untouched_of_save saved

theorem holds_of_loadOrCreate {loaded : Settings}
    (habsent : (tree.find (file directory)).isOk = false)
    (h : tree.run (loadOrCreate directory) = (.ok loaded, after)) :
    loaded = {} ∧ Holds after directory {} := by
  rw [run_loadOrCreate_of_absent habsent] at h
  rcases saved : tree.run (save {} directory) with ⟨cause | _, other⟩ <;>
    rw [saved] at h <;> cases h
  exact ⟨rfl, holds_of_save saved⟩

/-! ## Everything that is there -/

/-- Saving leaves the tree with its directory, or that tree with the file. -/
theorem run_save_snd (settings : Settings) (directory : Path) (tree : FileTree) :
    (tree.run (save settings directory)).2 = (tree.makeDirectories directory).1 ∨
      (tree.makeDirectories directory).1.write (file directory) settings.render.toUTF8 =
        .ok (tree.run (save settings directory)).2 := by
  rw [run_save]
  rcases tree.makeDirectories directory with ⟨made, cause | _⟩
  · exact .inl rfl
  · dsimp only
    cases made.write (file directory) settings.render.toUTF8 with
    | ok after => exact .inr rfl
    | error cause => exact .inl rfl

theorem closed_run_save (h : tree.Closed) (settings : Settings) (directory : Path) :
    (tree.run (save settings directory)).2.Closed := by
  rcases run_save_snd settings directory tree with same | written
  · rw [same]
    exact h.makeDirectories directory
  · exact (h.makeDirectories directory).write written

/-- A file that the directory leads to only once its missing parts have been made. -/
def Hidden (tree : FileTree) (directory : Path) (bytes : ByteArray) : Prop :=
  (tree.find (file directory)).isOk = false ∧
    (tree.makeDirectories directory).1.read (file directory) = .ok bytes

/-- Only steps back hide a file. -/
theorem Hidden.steps_back {bytes : ByteArray} (h : Hidden tree directory bytes)
    (hclosed : tree.Closed) : ".." ∈ directory.parts := by
  obtain ⟨absent, behind⟩ := h
  refine Decidable.byContradiction fun down => ?_
  have same := find_makeDirectories hclosed down
  rw [FileTree.read_eq_ok_iff_find.mp behind] at same
  cases before : tree.find (file directory) with
  | ok node =>
    rw [before] at absent
    cases absent
  | error cause =>
    rw [before] at same
    cases same

/-- **A hidden file is lost.** Loading makes the directory, and writes the defaults where the
directory leads then. -/
theorem Hidden.overwritten {bytes : ByteArray} (h : Hidden tree directory bytes) :
    ∃ position after, tree.node? position = some (.file bytes) ∧
      tree.run (loadOrCreate directory) = (.ok {}, after) ∧
      after.node? position = some (.file (render {}).toUTF8) := by
  obtain ⟨absent, behind⟩ := h
  obtain ⟨above, name, leads, -, -, there⟩ := FileTree.read_eq_ok_iff.mp behind
  obtain ⟨after, written⟩ := FileTree.exists_write_of_read behind (render {}).toUTF8
  have made : tree.makeDirectories directory = ((tree.makeDirectories directory).1, .ok ()) :=
    Prod.ext rfl (makeDirectories_eq_ok leads)
  have saved : tree.run (save {} directory) = (.ok (), after) := by
    rw [run_save, made]
    simp only [written]
  refine ⟨above ++ [name], after, ?there, ?loaded, ?replaced⟩
  case there => exact (FileTree.grows_makeDirectories tree directory).file_of_after there
  case loaded =>
    rw [run_loadOrCreate_of_absent absent, saved]
    rfl
  case replaced =>
    obtain ⟨above', name', leads', -, -, -, rfl⟩ := FileTree.write_eq_ok_iff.mp written
    cases (FileTree.locate_eq_ok_iff.mpr leads).symm.trans (FileTree.locate_eq_ok_iff.mpr leads')
    rw [FileTree.node?_put (by simp), if_pos rfl]

/-- Where no file is hidden and none can be found, saving makes the file in a free place. -/
theorem node?_run_save (habsent : (tree.find (file directory)).isOk = false)
    (hshown : ∀ bytes, ¬ Hidden tree directory bytes) (settings : Settings) {node : Node}
    (hnode : tree.node? position = some node) :
    (tree.run (save settings directory)).2.node? position = some node := by
  have grows := FileTree.grows_makeDirectories tree directory
  rcases run_save_snd settings directory tree with same | written
  · rw [same]
    exact grows.node_of_some hnode
  · obtain ⟨above, name, leads, slash, short, free, eq⟩ := FileTree.write_eq_ok_iff.mp written
    have elsewhere : position ≠ above ++ [name] := by
      rintro rfl
      have there := grows.node_of_some hnode
      cases node with
      | directory => exact free there
      | file bytes =>
        exact hshown bytes
          ⟨habsent, FileTree.read_eq_ok_iff.mpr ⟨above, name, leads, slash, short, there⟩⟩
    rw [eq, FileTree.node?_put (by simp), if_neg elsewhere]
    exact grows.node_of_some hnode

/-- What loading leaves. -/
theorem run_loadOrCreate_snd (directory : Path) (tree : FileTree) :
    (tree.run (loadOrCreate directory)).2 =
      if (tree.find (file directory)).isOk then tree else (tree.run (save {} directory)).2 := by
  cases present : (tree.find (file directory)).isOk with
  | true => rw [run_loadOrCreate_of_present present, if_pos rfl]
  | false => rw [run_loadOrCreate_of_absent present, if_neg Bool.false_ne_true]

/-- Loading hides nothing: either the file is there afterwards, or its directory cannot be made. -/
theorem not_hidden_run_loadOrCreate (hshown : ∀ bytes, ¬ Hidden tree directory bytes)
    (bytes : ByteArray) : ¬ Hidden (tree.run (loadOrCreate directory)).2 directory bytes := by
  rw [run_loadOrCreate_snd]
  split
  · exact hshown bytes
  · rintro ⟨absent, behind⟩
    rcases save_cases {} directory tree with ⟨after, saved, holds⟩ | ⟨cause, failed, unreadable⟩
    · rw [saved, FileTree.read_eq_ok_iff_find.mp holds] at absent
      cases absent
    · rw [failed, FileTree.makeDirectories_makeDirectories] at behind
      exact unreadable bytes behind

/-- **One request that saves nothing** keeps what is there, and hides nothing. -/
theorem run_perform_of_not_hidden (hshown : ∀ bytes, ¬ Hidden tree directory bytes)
    {request : Request} (hquiet : request.Quiet) :
    (∀ position node, tree.node? position = some node →
      (tree.run (request.perform directory)).2.node? position = some node) ∧
    ∀ bytes, ¬ Hidden (tree.run (request.perform directory)).2 directory bytes := by
  cases request with
  | load =>
    simp only [Request.perform, FileTree.run_map]
    refine ⟨fun position node hnode => ?_, not_hidden_run_loadOrCreate hshown⟩
    rw [run_loadOrCreate_snd]
    split
    · exact hnode
    · next absent => exact node?_run_save (by simpa using absent) hshown {} hnode
  | reload mine =>
    simp only [Request.perform, FileTree.run_map, run_reload]
    exact ⟨fun _ _ hnode => hnode, hshown⟩
  | save settings => exact hquiet.elim

/-- **Runs that save nothing keep everything that is there**, wherever it is. -/
theorem node?_run (hshown : ∀ bytes, ¬ Hidden tree directory bytes) {requests : List Request}
    (hquiet : ∀ request ∈ requests, request.Quiet) {node : Node}
    (hnode : tree.node? position = some node) :
    (tree.run (requests.mapM (Request.perform directory))).2.node? position = some node := by
  induction requests generalizing tree with
  | nil => exact hnode
  | cons request later ih =>
    obtain ⟨kept, shown⟩ :=
      run_perform_of_not_hidden hshown (hquiet request List.mem_cons_self)
    have rest := ih shown (fun other hother => hquiet other (List.mem_cons_of_mem _ hother))
      (kept position node hnode)
    simpa [List.mapM_cons] using rest

/-! ## Persistence -/

/-- **Settings survive persistence.** What is saved is kept. Reloading changes no files, and neither
does a run that saves nothing where there is a file, whatever it holds; loading makes a file of the
defaults where there is none. Nothing that is there is lost to a run that saves nothing, wherever it
is, unless a file is hidden: loading then replaces this file by the defaults, and the directory
steps back. Loading and saving that fail leave the file as it was. -/
theorem survive_persistence (directory : Path) (tree : FileTree) :
    (∀ settings after, tree.run (save settings directory) = (.ok (), after) →
      Kept after directory settings) ∧
    (∀ mine, (tree.run (reload mine directory)).2 = tree) ∧
    ((tree.find (file directory)).isOk = true →
      (tree.run (loadOrCreate directory)).2 = tree ∧
        ∀ requests : List Request, (∀ request ∈ requests, request.Quiet) →
          (tree.run (requests.mapM (Request.perform directory))).2 = tree) ∧
    ((tree.find (file directory)).isOk = false →
      ∀ loaded after, tree.run (loadOrCreate directory) = (.ok loaded, after) →
        loaded = {} ∧ Kept after directory {}) ∧
    ((∀ bytes, ¬ Hidden tree directory bytes) →
      ∀ requests : List Request, (∀ request ∈ requests, request.Quiet) →
        ∀ position node, tree.node? position = some node →
          (tree.run (requests.mapM (Request.perform directory))).2.node? position = some node) ∧
    (∀ bytes, Hidden tree directory bytes → (tree.Closed → ".." ∈ directory.parts) ∧
      ∃ position after, tree.node? position = some (.file bytes) ∧
        tree.run (loadOrCreate directory) = (.ok {}, after) ∧
        after.node? position = some (.file (render {}).toUTF8)) ∧
    (∀ cause after, tree.run (loadOrCreate directory) = (.error cause, after) →
      Untouched tree after directory) ∧
    (∀ settings cause after, tree.run (save settings directory) = (.error cause, after) →
      Untouched tree after directory) := by
  refine ⟨?saved, ?reloads, ?present, ?absent, ?shown, ?hidden, ?loadFails, ?saveFails⟩
  case saved => exact fun settings after saved => (holds_of_save saved).kept
  case reloads =>
    intro mine
    rw [run_reload]
  case present =>
    intro present
    refine ⟨?_, fun requests quiet => run_of_present present quiet⟩
    rw [run_loadOrCreate_of_present present]
  case absent =>
    intro absent loaded after loading
    obtain ⟨defaults, holds⟩ := holds_of_loadOrCreate absent loading
    exact ⟨defaults, holds.kept⟩
  case shown => exact fun shown requests quiet position node there => node?_run shown quiet there
  case hidden => exact fun bytes hidden => ⟨hidden.steps_back, hidden.overwritten⟩
  case loadFails => exact fun cause after failed => untouched_of_loadOrCreate failed
  case saveFails => exact fun settings cause after failed => untouched_of_save failed

/-- A negative seed and a text with quotes, a line end and a backslash come back from a directory
that was not there. Loading leaves that directory, and a file in place of a directory stays. -/
theorem awkward_texts_survive :
    let settings : Settings :=
      { world := { seed := -4000000000 }, debug := { logLevel := "\"a\"\n\\" } }
    let after := (({} : FileTree).run (settings.save ⟨"conf"⟩)).2
    let blocked : FileTree := { nodes := [(["conf"], .file .empty)] }
    ({} : FileTree).run (settings.save ⟨"conf"⟩) = (.ok (), after) ∧ Kept after ⟨"conf"⟩ settings ∧
      (after.run ([Request.load].mapM (Request.perform ⟨"conf"⟩))).2.node? ["conf"] =
        some .directory ∧
      blocked.run (settings.save ⟨"conf"⟩) = (.error (.unwritable .alreadyExists), blocked) ∧
      Untouched blocked blocked ⟨"conf"⟩ := by
  intro settings after blocked
  have saved : ({} : FileTree).run (settings.save ⟨"conf"⟩) = (.ok (), after) := Prod.ext rfl rfl
  have failed : blocked.run (settings.save ⟨"conf"⟩) =
      (.error (.unwritable .alreadyExists), blocked) := Prod.ext rfl rfl
  have shown : ∀ bytes, ¬ Hidden after ⟨"conf"⟩ bytes := by
    rintro bytes ⟨absent, -⟩
    cases absent
  have quiet : ∀ request ∈ [Request.load], request.Quiet := List.forall_mem_singleton.mpr trivial
  obtain ⟨keeps, -⟩ := survive_persistence ⟨"conf"⟩ {}
  obtain ⟨-, -, -, -, stays, -⟩ := survive_persistence ⟨"conf"⟩ after
  obtain ⟨-, -, -, -, -, -, -, saveFails⟩ := survive_persistence ⟨"conf"⟩ blocked
  exact ⟨saved, keeps settings after saved,
    stays shown [.load] quiet ["conf"] .directory rfl, failed,
    saveFails settings _ blocked failed⟩

/-- A file in one directory is hidden from a path that steps back from a missing one. -/
theorem hidden_beside (bytes : ByteArray) :
    Hidden { nodes := [(["b", "config.ron"], .file bytes), (["b"], .directory)] }
      ⟨"a/../b"⟩ bytes :=
  ⟨rfl, rfl⟩

/-- **Loading may replace settings that are there**, even where all files lie in directories: those
that have been saved in `b` do not survive a load from `a/../b`. -/
theorem loading_overwrites_settings : ¬ ∀ (directory : Path) (tree : FileTree), tree.Closed →
    ∀ position bytes, tree.node? position = some (.file bytes) →
      (tree.run (loadOrCreate directory)).2.node? position = some (.file bytes) := by
  intro h
  let settings : Settings := { world := { seed := 7 } }
  obtain ⟨position, after, there, loaded, replaced⟩ :=
    (hidden_beside settings.render.toUTF8).overwritten
  have saved : (({} : FileTree).run (settings.save ⟨"b"⟩)).2 = { nodes :=
      [(["b", "config.ron"], .file settings.render.toUTF8), (["b"], .directory)] } := rfl
  have closed := closed_run_save FileTree.Closed.empty settings ⟨"b"⟩
  rw [saved] at closed
  have kept := h ⟨"a/../b"⟩ _ closed position _ there
  rw [loaded, replaced, Option.some.injEq, Node.file.injEq] at kept
  have texts : render {} = settings.render :=
    Option.some.inj ((fromUTF8?_toUTF8 _).symm.trans ((congrArg _ kept).trans (fromUTF8?_toUTF8 _)))
  have same : ({} : Settings) = settings :=
    Option.some.inj ((parse?_render _).symm.trans ((congrArg _ texts).trans (parse?_render _)))
  exact absurd (congrArg (fun settings => settings.world.seed) same) (by decide)

end Settings

end BiomeAtlas
