import BiomeAtlas.Proofs.Coordinates
import BiomeAtlas.Proofs.Store
import BiomeAtlas.Proofs.Wiring

/-! # Requests are answered

A wired stage answers at every anchor, the wrapping ones included: with a tile where it was asked
for, or, if there is no room for one of the tiles on the way, with the fault that says so
(`Stage.answers_generate`). None of the other faults that a computation on tiles can end with is
left: no cell is read outside its tile, no window is cut past its grid, and nothing is drawn from an
empty list. Of a store it is only asked that the stored tiles lie where their keys say
(`TileStore.Aligned`), and generating keeps it like that (`Stage.occupies_generate`).

How large the tiles on the way are (`Stage.buffers`) is said by one number for each stage of the
tree, its margin. A halo adds two columns and two rows; a doubling reads half a tile and two columns
and two rows more, but writes up to two blocks around the tile before it cuts the window
(`Stage.buffers_le`). So a stage has room (`Stage.Holdable`) if memory can hold a tile that is
larger by the margin (`Stage.holdable_of_margin`), and then the tile exists (`Stage.exists_tile`).
-/
namespace BiomeAtlas

/-! ## Answers -/

theorem exists_bind {ε α β : Type} {x : Except ε α} {f : α → Except ε β} (h : ∃ a, x = .ok a)
    (hf : ∀ a, x = .ok a → ∃ b, f a = .ok b) : ∃ b, (x >>= f) = .ok b := by
  obtain ⟨a, ha⟩ := h
  obtain ⟨b, hb⟩ := hf a ha
  exact ⟨b, bind_eq_ok.mpr ⟨a, ha, hb⟩⟩

theorem exists_ofFnM {ε α : Type} {n : Nat} {f : Fin n → Except ε α} (h : ∀ i, ∃ a, f i = .ok a) :
    ∃ values, Vector.ofFnM f = .ok values := by
  refine ⟨Vector.ofFn fun i => (h i).choose, ofFnM_eq_ok_iff.mpr fun i => ?_⟩
  rw [(h i).choose_spec]
  simp

/-- The computation has a result, or it was stopped because something it needs to have room has
none. -/
def Answers {α : Type} (result : Except Fault α) (room : Prop) : Prop :=
  (∃ a, result = .ok a) ∨ (result = .error .tooManyCells ∧ ¬ room)

namespace Answers
variable {α β : Type} {result : Except Fault α} {room room' : Prop}

theorem of_exists (h : ∃ a, result = .ok a) : Answers result room :=
  Or.inl h

theorem exists_of_room (h : Answers result room) (hroom : room) : ∃ a, result = .ok a := by
  rcases h with h | ⟨-, hnone⟩
  · exact h
  · exact absurd hroom hnone

/-- The only fault that is left says that there is no room. -/
theorem eq_of_error {fault : Fault} (h : Answers result room) (herror : result = .error fault) :
    fault = .tooManyCells ∧ ¬ room := by
  rcases h with ⟨a, hok⟩ | ⟨hfault, hnone⟩
  · cases hok.symm.trans herror
  · cases hfault.symm.trans herror
    exact ⟨rfl, hnone⟩

/-- Asking for more room does no harm. -/
theorem mono (h : Answers result room) (hroom : room' → room) : Answers result room' := by
  rcases h with h | ⟨hfault, hnone⟩
  · exact Or.inl h
  · exact Or.inr ⟨hfault, fun h' => hnone (hroom h')⟩

theorem bind {f : α → Except Fault β} (h : Answers result room)
    (hf : ∀ a, result = .ok a → Answers (f a) room') :
    Answers (result >>= f) (room ∧ room') := by
  rcases h with ⟨a, rfl⟩ | ⟨rfl, hnone⟩
  · exact (hf a rfl).mono And.right
  · exact Or.inr ⟨rfl, fun h => hnone h.1⟩

/-- What always has a result needs no room of its own. -/
theorem bind_exists {f : α → Except Fault β} (h : Answers result room)
    (hf : ∀ a, result = .ok a → ∃ b, f a = .ok b) :
    Answers (result >>= f) room := by
  rcases h with ⟨a, rfl⟩ | ⟨rfl, hnone⟩
  · exact Or.inl (hf a rfl)
  · exact Or.inr ⟨rfl, hnone⟩

theorem map_iff {f : α → β} : Answers (result.map f) room ↔ Answers result room := by
  cases result with
  | error e => simp [Answers, Except.map]
  | ok a => simp [Answers, Except.map]

theorem lift (h : Answers result room) (store : TileStore) :
    Answers ((liftM result : Generation α).run store) room := by
  rcases h with ⟨a, rfl⟩ | ⟨rfl, hnone⟩
  · exact Or.inl ⟨_, rfl⟩
  · exact Or.inr ⟨rfl, hnone⟩

theorem run_bind {making : Generation α} {next : α → Generation β} {store : TileStore}
    (h : Answers (making.run store) room)
    (hnext : ∀ a later, making.run store = .ok (a, later) → Answers ((next a).run later) room') :
    Answers ((making >>= next).run store) (room ∧ room') := by
  rw [StateT.run_bind]
  exact h.bind fun made hmade => hnext made.1 made.2 hmade

end Answers

/-! ## Making grids -/

namespace Grid
variable {grid overlay : Grid} {minX minZ : Coord} {size : Size}

theorem answers_tabulate {cell : Nat → Nat → Except Fault Cell} (hword : size.cells < wordLimit)
    (h : ∀ x z, x < size.width → z < size.height → ∃ value, cell x z = .ok value) :
    Answers (tabulate minX minZ size cell) (size.cells < cellLimit) := by
  unfold tabulate
  by_cases hroom : size.cells < cellLimit
  · rw [if_pos hroom]
    obtain ⟨values, hvalues⟩ :=
      exists_ofFnM (n := size.cells) (f := fun i => cell (i % size.width) (i / size.width)) <| by
      intro i
      have hi : i.val < size.width * size.height := i.isLt
      have hwidth : 0 < size.width := Nat.pos_of_ne_zero fun h0 => by simp [h0] at hi
      exact h _ _ (Nat.mod_lt _ hwidth) (Nat.div_lt_of_lt_mul hi)
    exact Or.inl ⟨_, bind_eq_ok.mpr ⟨values, hvalues, rfl⟩⟩
  · rw [if_neg hroom]
    refine Or.inr ⟨?_, hroom⟩
    rw [oversize, if_pos hword]

theorem answers_mapColumns {firstX firstZ : Coord}
    {rule : Cell → Coord → Coord → Except Fault Cell} (hword : grid.size.cells < wordLimit)
    (h : ∀ value x z, ∃ made, rule value x z = .ok made) :
    Answers (grid.mapColumns firstX firstZ rule) (grid.size.cells < cellLimit) := by
  refine answers_tabulate hword fun x z hx hz => ?_
  obtain ⟨value, hvalue⟩ := exists_get hx hz
  obtain ⟨made, hmade⟩ := h value (firstX + Int32.ofNat x) (firstZ + Int32.ofNat z)
  exact ⟨made, bind_eq_ok.mpr ⟨value, hvalue, hmade⟩⟩

theorem answers_blend {rule : Cell → Cell → Cell} (hword : grid.size.cells < wordLimit)
    (hsize : overlay.size = grid.size) :
    Answers (grid.blend overlay rule) (grid.size.cells < cellLimit) := by
  refine answers_tabulate hword fun x z hx hz => ?_
  obtain ⟨value, hvalue⟩ := exists_get hx hz
  obtain ⟨other, hother⟩ := @exists_get overlay x z (hsize ▸ hx) (hsize ▸ hz)
  exact ⟨_, bind_eq_ok.mpr ⟨value, hvalue, bind_eq_ok.mpr ⟨other, hother, rfl⟩⟩⟩

end Grid

/-! ## Sizes with a margin -/

/-- Memory can hold tiles that are larger by `margin` and a block on either side. -/
def Size.Addressable (size : Size) (margin : Nat) : Prop :=
  (size.width + margin + 4) * (size.height + margin + 4) < cellLimit

instance (size : Size) (margin : Nat) : Decidable (size.Addressable margin) :=
  inferInstanceAs (Decidable (_ < _))

/-- The number of cells is a 64-bit word, also for tiles that are larger by `margin` and a block on
either side. -/
def Size.Representable (size : Size) (margin : Nat) : Prop :=
  (size.width + margin + 4) * (size.height + margin + 4) < wordLimit

instance (size : Size) (margin : Nat) : Decidable (size.Representable margin) :=
  inferInstanceAs (Decidable (_ < _))

/-- Whatever is not larger in both directions has no more cells. -/
theorem Size.cells_le {size larger : Size} {margin : Nat}
    (hwidth : larger.width ≤ size.width + margin + 4)
    (hheight : larger.height ≤ size.height + margin + 4) :
    larger.cells ≤ (size.width + margin + 4) * (size.height + margin + 4) :=
  Nat.mul_le_mul hwidth hheight

/-- A margin can be spent on a larger tile. -/
theorem Size.margin_mono {size larger : Size} {margin n : Nat}
    (hwidth : larger.width + n ≤ size.width + margin)
    (hheight : larger.height + n ≤ size.height + margin) :
    (larger.width + n + 4) * (larger.height + n + 4) ≤
      (size.width + margin + 4) * (size.height + margin + 4) :=
  Nat.mul_le_mul (Nat.add_le_add_right hwidth 4) (Nat.add_le_add_right hheight 4)

namespace Size.Addressable
variable {size larger : Size} {margin n : Nat}

theorem representable (h : size.Addressable margin) : size.Representable margin :=
  Nat.lt_of_lt_of_le h cellLimit_le_wordLimit

theorem cells_lt (h : size.Addressable margin) (hwidth : larger.width ≤ size.width + margin + 4)
    (hheight : larger.height ≤ size.height + margin + 4) : larger.cells < cellLimit :=
  Nat.lt_of_le_of_lt (cells_le hwidth hheight) h

theorem mono (h : size.Addressable margin) (hwidth : larger.width + n ≤ size.width + margin)
    (hheight : larger.height + n ≤ size.height + margin) : larger.Addressable n :=
  Nat.lt_of_le_of_lt (margin_mono hwidth hheight) h

end Size.Addressable

namespace Size.Representable
variable {size larger : Size} {margin n : Nat}

theorem cells_lt (h : size.Representable margin) (hwidth : larger.width ≤ size.width + margin + 4)
    (hheight : larger.height ≤ size.height + margin + 4) : larger.cells < wordLimit :=
  Nat.lt_of_le_of_lt (cells_le hwidth hheight) h

theorem cells_self_lt (h : size.Representable margin) : size.cells < wordLimit :=
  h.cells_lt (by omega) (by omega)

/-- No width and no height leaves the range of a word. -/
theorem lt_wordLimit (h : size.Representable margin) :
    size.width + margin + 4 < wordLimit ∧ size.height + margin + 4 < wordLimit :=
  ⟨Nat.lt_of_le_of_lt (Nat.le_mul_of_pos_right _ (Nat.succ_pos _)) h,
    Nat.lt_of_le_of_lt (Nat.le_mul_of_pos_left _ (Nat.succ_pos _)) h⟩

theorem mono (h : size.Representable margin) (hwidth : larger.width + n ≤ size.width + margin)
    (hheight : larger.height + n ≤ size.height + margin) : larger.Representable n :=
  Nat.lt_of_le_of_lt (margin_mono hwidth hheight) h

end Size.Representable

/-! ## Making tiles -/

section Steps
variable {noise : Noise} {size : Size} {minX minZ : Coord}

theorem Source.answers_generate {source : Source} (hword : size.cells < wordLimit) :
    Answers (source.generate noise size minX minZ) (size.cells < cellLimit) := by
  have hdraw : Answers (Grid.tabulate minX minZ size fun x z =>
      return source.draw noise (minX + Int32.ofNat x) (minZ + Int32.ofNat z))
          (size.cells < cellLimit) :=
    Grid.answers_tabulate hword fun _ _ _ _ => ⟨_, rfl⟩
  refine hdraw.bind_exists fun drawn hdrawn => ?_
  have hat := (Grid.tabulate_eq_ok_iff.mp hdrawn).2.1
  split
  · rename_i hsettles
    -- The cell taken for the origin is not farther in than the origin,
    -- whose distance also counts wrapping.
    have hnear : ∀ start : Coord, start.toInt.natAbs ≤ (0 - start).toUInt32.toNat := by
      intro start
      have hdistance := distance_origin start
      have := start.le_toInt
      have := start.toInt_lt
      omega
    obtain ⟨hx, hz⟩ := Grid.containsWorld_eq_true_iff.mp ((Bool.and_eq_true ..).mp hsettles).2
    rw [hat.minX_eq] at hx
    rw [hat.minZ_eq] at hz
    unfold Grid.set
    rw [if_pos ⟨Nat.lt_of_le_of_lt (hnear minX) hx, Nat.lt_of_le_of_lt (hnear minZ) hz⟩]
    exact ⟨_, rfl⟩
  · exact ⟨_, rfl⟩

/-- A doubling writes at most two columns and two rows more than it is asked for. -/
theorem Grid.answers_zoomed {lower : Grid} {margin : Nat} (hword : size.Representable margin)
    (hsize : lower.size = size.halved) : Answers (lower.zoomed noise size minX minZ)
      (lower.doubledSize.cells < cellLimit ∧ size.cells < cellLimit) := by
  have hdoubled : lower.doubledSize = ⟨size.width / 2 * 2 + 2, size.height / 2 * 2 + 2⟩ := by
    simp only [Grid.doubledSize, hsize, Size.halved, Size.mk.injEq]
    omega
  have hcells : lower.doubledSize.cells < wordLimit := by
    rw [hdoubled]
    exact hword.cells_lt (by dsimp only; omega) (by dsimp only; omega)
  have hlower : lower.size.isEmpty = false := by
    rw [hsize]
    rfl
  obtain ⟨hwidth, hheight⟩ := Grid.phase_add_le hsize minX minZ
  have hmaking : Answers (lower.doubled noise (coarse minX) (coarse minZ))
      (lower.doubledSize.cells < cellLimit) := by
    by_cases hroom : lower.doubledSize.cells < cellLimit
    · obtain ⟨cells, hmade, -⟩ :=
        @Grid.exists_doubled lower noise (coarse minX) (coarse minZ) hlower hroom
      exact Or.inl ⟨cells, hmade⟩
    · refine Or.inr ⟨?_, hroom⟩
      rw [Grid.doubled, if_neg (by rw [hlower]; decide), if_neg hroom, Grid.oversize, if_pos hcells]
  refine hmaking.bind fun cells hmade => ?_
  by_cases hself : size.cells < cellLimit
  · obtain ⟨-, hroom⟩ := Grid.of_doubled_eq_ok hmade
    obtain ⟨tile, htile, -⟩ :=
      @Grid.exists_zoomed lower noise size minX minZ hlower hroom hself hwidth hheight
    obtain ⟨_, hsame, hcut⟩ := bind_eq_ok.mp htile
    cases hmade.symm.trans hsame
    exact Or.inl ⟨tile, hcut⟩
  · rw [if_neg hself, Grid.oversize, if_pos hword.cells_self_lt]
    exact Or.inr ⟨rfl, hself⟩

theorem CrossRule.answers_generate {rule : CrossRule} {haloed : Grid}
    (hword : size.cells < wordLimit) (hsize : haloed.size = ⟨size.width + 2, size.height + 2⟩) :
    Answers (rule.generate noise size haloed minX minZ) (size.cells < cellLimit) := by
  refine Grid.answers_tabulate hword fun x z hx hz => ?_
  have hread : ∀ a b, a ≤ x + 2 → b ≤ z + 2 → ∃ value, haloed.get a b = .ok value := by
    intro a b ha hb
    apply Grid.exists_get <;> rw [hsize] <;> dsimp only <;> omega
  refine exists_bind ?_ fun cross _ => ⟨_, rfl⟩
  exact exists_bind (hread _ _ (Nat.le_succ _) (Nat.le_succ _)) fun _ _ =>
    exists_bind (hread _ _ (Nat.le_succ _) (Nat.le_add_right _ _)) fun _ _ =>
      exists_bind (hread _ _ (Nat.le_succ _) (Nat.le_refl _)) fun _ _ =>
        exists_bind (hread _ _ (Nat.le_add_right _ _) (Nat.le_succ _)) fun _ _ =>
          exists_bind (hread _ _ (Nat.le_refl _) (Nat.le_succ _)) fun _ _ => ⟨_, rfl⟩

/-- Every value selects a group, and no group of a complete table is without candidates. -/
theorem CandidateTable.Complete.candidates_ne_nil {table : CandidateTable} (h : table.Complete)
    (value : Cell) :
    table.candidates value ≠ [] := by
  unfold CandidateTable.candidates
  dsimp only
  split
  · exact (h _).1
  · exact (h _).2

theorem CellRule.exists_apply {rule : CellRule} (h : rule.HasCandidates) (value : Cell)
    (x z : Coord) :
    ∃ made, rule.apply noise value x z = .ok made := by
  cases rule with
  | addIslands | replaceRandomly | setRandomly | rareGroups => exact ⟨_, rfl⟩
  | materialize table =>
      have hlength := List.length_pos_iff.mpr (CandidateTable.Complete.candidates_ne_nil h value)
      simp only [apply, drawn, List.getElem?_eq_getElem (Nat.mod_lt _ hlength)]
      exact ⟨_, rfl⟩

end Steps

/-! ## Asking with a store -/

/-- Every stored tile lies where its key says. -/
def TileStore.Aligned (store : TileStore) : Prop :=
  ∀ key tile, store.find? key = some tile → tile.Occupies key.minX key.minZ key.size

namespace TileStore.Aligned
variable {store : TileStore} {key : TileKey} {tile : Grid}

theorem empty (capacity : Nat) : (TileStore.empty capacity).Aligned := by
  intro key tile hfind
  rw [find?_empty] at hfind
  cases hfind

theorem insert (h : store.Aligned) (htile : tile.Occupies key.minX key.minZ key.size) :
    (store.insert key tile).Aligned := by
  intro key' found hfind
  rw [find?_insert] at hfind
  split at hfind
  · rename_i hkey
    cases hkey
    cases hfind
    exact htile
  · exact h key' found hfind

/-- What is answered to an offered tile lies where the offered one does. -/
theorem keep (h : store.Aligned) (htile : tile.Occupies key.minX key.minZ key.size) :
    (TileStore.keep key tile store).1.Occupies key.minX key.minZ key.size ∧
    (TileStore.keep key tile store).2.Aligned := by
  rcases store.keep_cases key tile with ⟨-, hkeep⟩ | ⟨existing, hfind, hkeep⟩ | ⟨-, -, hkeep⟩
  · rw [hkeep]; exact ⟨htile, h⟩
  · rw [hkeep]; exact ⟨h _ _ hfind, h⟩
  · rw [hkeep]; exact ⟨htile, h.insert htile⟩

end TileStore.Aligned

namespace Stage

/-- **A stage answers with a tile where it was asked for**, and leaves the tiles of the store where
their keys say. -/
theorem occupies_generate {tile : Grid} :
    ∀ {stage : Stage} {minX minZ : Coord} {store later : TileStore},
    store.Aligned → (stage.generate minX minZ).run store = .ok (tile, later) →
    tile.Occupies minX minZ stage.size ∧ later.Aligned
  | source .., _, _, _, _, hstore, h => by
      obtain ⟨hmade, rfl⟩ := run_lift_eq_ok.mp h
      exact ⟨(Source.cells_of_generate hmade).1, hstore⟩
  | sampled .., _, _, _, _, hstore, h => by
      obtain ⟨hmade, rfl⟩ := run_lift_eq_ok.mp h
      exact ⟨(Grid.tabulate_eq_ok_iff.mp hmade).2.1, hstore⟩
  | zoom _ _ coarser, _, _, _, _, hstore, h => by
      obtain ⟨lower, store₁, hlower, h⟩ := run_bind_eq_ok.mp h
      obtain ⟨-, hstore₁⟩ := @occupies_generate lower coarser _ _ _ _ hstore hlower
      obtain ⟨hmade, rfl⟩ := run_lift_eq_ok.mp h
      exact ⟨Grid.occupies_of_zoomed hmade, hstore₁⟩
  | cross _ _ _ input, _, _, _, _, hstore, h => by
      obtain ⟨haloed, store₁, hhaloed, h⟩ := run_bind_eq_ok.mp h
      obtain ⟨-, hstore₁⟩ := @occupies_generate haloed input _ _ _ _ hstore hhaloed
      obtain ⟨hmade, rfl⟩ := run_lift_eq_ok.mp h
      exact ⟨(CrossRule.cells_of_generate hmade).1, hstore₁⟩
  | cell _ _ input, _, _, _, _, hstore, h => by
      obtain ⟨grid, store₁, hgrid, h⟩ := run_bind_eq_ok.mp h
      obtain ⟨hat, hstore₁⟩ := @occupies_generate grid input _ _ _ _ hstore hgrid
      obtain ⟨hmade, rfl⟩ := run_lift_eq_ok.mp h
      have hmapped := (Grid.mapColumns_eq_ok_iff.mp hmade).2.1
      rw [hat.minX_eq, hat.minZ_eq, hat.size_eq] at hmapped
      exact ⟨hmapped, hstore₁⟩
  | blend _ base overlay, _, _, _, _, hstore, h => by
      obtain ⟨second, store₁, hsecond, h⟩ := run_bind_eq_ok.mp h
      obtain ⟨-, hstore₁⟩ := @occupies_generate second overlay _ _ _ _ hstore hsecond
      obtain ⟨first, store₂, hfirst, h⟩ := run_bind_eq_ok.mp h
      obtain ⟨hat, hstore₂⟩ := @occupies_generate first base _ _ _ _ hstore₁ hfirst
      obtain ⟨hmade, rfl⟩ := run_lift_eq_ok.mp h
      have hblended := (Grid.blend_eq_ok_iff.mp hmade).2.1
      rw [hat.minX_eq, hat.minZ_eq, hat.size_eq] at hblended
      exact ⟨hblended, hstore₂⟩
  | cached number input, minX, minZ, store, _, hstore, h => by
      rw [generate, TileStore.run_fetch] at h
      cases hfind : store.find? ⟨number, minX, minZ, input.size⟩ with
      | some found =>
          rw [hfind] at h
          cases h
          exact ⟨hstore _ _ hfind, hstore⟩
      | none =>
          rw [hfind] at h
          obtain ⟨⟨made, store₁⟩, hmade, h⟩ := bind_eq_ok.mp h
          obtain ⟨hat, hstore₁⟩ := @occupies_generate made input _ _ _ _ hstore hmade
          have hkept :=
            @TileStore.Aligned.keep store₁ ⟨number, minX, minZ, input.size⟩ made hstore₁ hat
          rw [Except.ok.inj h] at hkept
          exact hkept

/-- Memory can hold every tile that is made on the way to a tile of the stage. -/
def Holdable : Stage → Prop
  | source _ _ size | sampled _ _ size _ => size.cells < cellLimit
  | zoom _ size coarser =>
    coarser.Holdable ∧
      Size.cells ⟨(coarser.size.width - 1) * 2, (coarser.size.height - 1) * 2⟩ < cellLimit ∧
      size.cells < cellLimit
  | cross _ _ size input => input.Holdable ∧ size.cells < cellLimit
  | cell _ _ input => input.Holdable ∧ input.size.cells < cellLimit
  | blend _ base overlay => overlay.Holdable ∧ base.Holdable ∧ base.size.cells < cellLimit
  | cached _ input => input.Holdable

/-- The sizes of all tiles that are made on the way to a tile of the stage, those that only serve to
cut a window included. -/
def buffers : Stage → List Size
  | source _ _ size | sampled _ _ size _ => [size]
  | zoom _ size coarser =>
      coarser.buffers ++ [⟨(coarser.size.width - 1) * 2, (coarser.size.height - 1) * 2⟩, size]
  | cross _ _ size input => input.buffers ++ [size]
  | cell _ _ input => input.buffers ++ [input.size]
  | blend _ base overlay => overlay.buffers ++ (base.buffers ++ [base.size])
  | cached _ input => input.buffers

theorem holdable_iff :
    ∀ {stage : Stage}, stage.Holdable ↔ ∀ buffer ∈ stage.buffers, buffer.cells < cellLimit
  | source .. | sampled .. => by rw [Holdable, buffers, List.forall_mem_singleton]
  | zoom _ _ coarser => by
      rw [Holdable, buffers, List.forall_mem_append, List.forall_mem_cons,
        List.forall_mem_singleton, @holdable_iff coarser]
  | cross _ _ _ input | cell _ _ input => by
      rw [Holdable, buffers, List.forall_mem_append, List.forall_mem_singleton, @holdable_iff input]
  | blend _ base overlay => by
      rw [Holdable, buffers, List.forall_mem_append, List.forall_mem_append,
        List.forall_mem_singleton, @holdable_iff base, @holdable_iff overlay]
  | cached _ input => @holdable_iff input

/-- By how many columns and rows tiles on the way may be larger: two for each halo and for each
doubling on a path to a source. -/
def margin : Stage → Nat
  | source .. | sampled .. => 0
  | zoom _ _ input | cross _ _ _ input => input.margin + 2
  | cell _ _ input | cached _ input => input.margin
  | blend _ base overlay => max base.margin overlay.margin

theorem margin_le : ∀ stage : Stage, stage.margin ≤ 2 * stage.count
  | source .. | sampled .. => Nat.zero_le _
  | zoom _ _ input | cross _ _ _ input | cell _ _ input => by
      have hinput := margin_le input
      simp only [margin, count]
      omega
  | blend _ base overlay => by
      have hbase := margin_le base
      have hoverlay := margin_le overlay
      simp only [margin, count]
      omega
  | cached _ input => margin_le input

/-- **Tiles on the way are hardly larger** than the tile that is asked for. -/
theorem buffers_le {stage : Stage} (hwired : stage.Wired) : ∀ buffer ∈ stage.buffers,
    buffer.width ≤ stage.size.width + stage.margin + 4 ∧
    buffer.height ≤ stage.size.height + stage.margin + 4 := by
  -- A stage has a margin of two columns more than its input:
  -- enough for a halo, and more than a doubling needs.
  induction hwired with
  | source | sampled =>
      rw [buffers, List.forall_mem_singleton]
      simp only [size]
      omega
  | zoom _ hinput _ ih =>
      rw [buffers, List.forall_mem_append, List.forall_mem_cons, List.forall_mem_singleton]
      rw [hinput] at ih ⊢
      simp only [size, margin, Size.halved] at ih ⊢
      refine ⟨fun buffer hmem => ?_, by omega, by omega⟩
      have hle := ih buffer hmem
      omega
  | cross _ hinput _ _ ih =>
      obtain ⟨-, hsize⟩ := Size.haloed?_eq_some_iff.mp hinput
      rw [buffers, List.forall_mem_append, List.forall_mem_singleton]
      rw [hsize] at ih
      simp only [size, margin] at ih ⊢
      refine ⟨fun buffer hmem => ?_, by omega⟩
      have hle := ih buffer hmem
      omega
  | cell _ _ ih =>
      rw [buffers, List.forall_mem_append, List.forall_mem_singleton]
      simp only [size, margin]
      exact ⟨ih, by omega⟩
  | blend hsize _ _ _ ih ih' =>
      rw [buffers, List.forall_mem_append, List.forall_mem_append, List.forall_mem_singleton]
      rw [hsize] at ih'
      simp only [size, margin]
      refine ⟨fun buffer hmem => ?_, fun buffer hmem => ?_, by omega⟩
      · have hle := ih' buffer hmem
        omega
      · have hle := ih buffer hmem
        omega
  | cached _ ih => exact ih

/-- So there is room if memory can hold a tile that is larger by the margin. -/
theorem holdable_of_margin {stage : Stage} (hwired : stage.Wired)
    (hroom : stage.size.Addressable stage.margin) :
    stage.Holdable := by
  refine holdable_iff.mpr fun buffer hmem => ?_
  obtain ⟨hwidth, hheight⟩ := buffers_le hwired buffer hmem
  exact hroom.cells_lt hwidth hheight

theorem holdable_of_addressable {stage : Stage} (hwired : stage.Wired)
    (hroom : stage.size.Addressable (2 * stage.count)) :
    stage.Holdable := by
  have hmargin := stage.margin_le
  exact holdable_of_margin hwired (hroom.mono (by omega) (by omega))

/-- **Requests are answered.** A wired stage answers at every anchor with a tile, unless memory
cannot hold one of the tiles on the way. The store may hold anything, as long as the tiles in it lie
where their keys say. -/
theorem answers_of_margin {stage : Stage} (hwired : stage.Wired) :
    ∀ {minX minZ : Coord} {store : TileStore}, stage.size.Representable stage.margin →
      store.Aligned →
    Answers ((stage.generate minX minZ).run store) stage.Holdable := by
  induction hwired with
  | source _ _ =>
      intro minX minZ store hword _
      exact (Source.answers_generate hword.cells_self_lt).lift store
  | sampled =>
      intro minX minZ store hword _
      exact (Grid.answers_tabulate hword.cells_self_lt fun _ _ _ _ => ⟨_, rfl⟩).lift store
  | zoom _ hinput _ ih =>
      intro minX minZ store hword hstore
      refine (ih (hword.mono ?_ ?_) hstore).run_bind fun lower later hlower => ?_
      · rw [hinput]; simp only [size, Size.halved, margin]; omega
      · rw [hinput]; simp only [size, Size.halved, margin]; omega
      · have hsize := (occupies_generate hstore hlower).1.size_eq
        rw [← hsize]
        exact (Grid.answers_zoomed hword (hsize.trans hinput)).lift later
  | cross _ hinput _ _ ih =>
      intro minX minZ store hword hstore
      obtain ⟨-, hsize⟩ := Size.haloed?_eq_some_iff.mp hinput
      refine (ih (hword.mono ?_ ?_) hstore).run_bind fun haloed later hhaloed => ?_
      · rw [hsize]; simp only [size, margin]; omega
      · rw [hsize]; simp only [size, margin]; omega
      · have hat := (occupies_generate hstore hhaloed).1
        exact (CrossRule.answers_generate hword.cells_self_lt (hat.size_eq.trans hsize)).lift later
  | cell hfits _ ih =>
      intro minX minZ store hword hstore
      refine (ih (hword.mono ?_ ?_) hstore).run_bind fun grid later hgrid => ?_
      · simp only [size, margin]; omega
      · simp only [size, margin]; omega
      · have hsize := (occupies_generate hstore hgrid).1.size_eq
        rw [← hsize]
        refine (Grid.answers_mapColumns ?_ (CellRule.exists_apply hfits.candidates)).lift later
        rw [hsize]
        exact hword.cells_self_lt
  | blend hsize _ _ _ ih ih' =>
      intro minX minZ store hword hstore
      refine (ih' (hword.mono ?_ ?_) hstore).run_bind fun second store₁ hsecond => ?_
      · rw [hsize]; simp only [size, margin]; omega
      · rw [hsize]; simp only [size, margin]; omega
      obtain ⟨hsecondAt, hstore₁⟩ := occupies_generate hstore hsecond
      refine (ih (hword.mono ?_ ?_) hstore₁).run_bind fun first store₂ hfirst => ?_
      · simp only [size, margin]; omega
      · simp only [size, margin]; omega
      have hfirstAt := (occupies_generate hstore₁ hfirst).1
      rw [← hfirstAt.size_eq]
      refine (Grid.answers_blend ?_ ?_).lift store₂
      · rw [hfirstAt.size_eq]
        exact hword.cells_self_lt
      · rw [hsecondAt.size_eq, hfirstAt.size_eq, hsize]
  | @cached number input _ ih =>
      intro minX minZ store hword hstore
      rw [generate, TileStore.run_fetch]
      cases hfind : store.find? ⟨number, minX, minZ, input.size⟩ with
      | some tile => exact .of_exists ⟨_, rfl⟩
      | none => exact (ih hword hstore).bind_exists fun _ _ => ⟨_, rfl⟩

/-- It is enough to count all stages instead of those that enlarge tiles. -/
theorem answers_generate {stage : Stage} (hwired : stage.Wired) {minX minZ : Coord}
    {store : TileStore} (hword : stage.size.Representable (2 * stage.count))
    (hstore : store.Aligned) :
    Answers ((stage.generate minX minZ).run store) stage.Holdable := by
  have hmargin := stage.margin_le
  exact answers_of_margin hwired (hword.mono (by omega) (by omega)) hstore

/-! ## Without a store -/

@[simp] theorem count_bare : ∀ stage : Stage, stage.bare.count = stage.count
  | source .. | sampled .. => rfl
  | zoom _ _ input | cross _ _ _ input | cell _ _ input => congrArg (· + 1) (count_bare input)
  | blend _ base overlay => by simp only [bare, count, count_bare base, count_bare overlay]
  | cached _ input => count_bare input

/-- Places in a store do not matter to how a stage is wired. -/
theorem wired_bare_iff : ∀ {stage : Stage}, stage.bare.Wired ↔ stage.Wired
  | source .. | sampled .. => Iff.rfl
  | zoom _ _ input => by
      constructor
      · rintro (_ | _ | ⟨hsize, hinput, hwired⟩)
        exact .zoom hsize (size_bare input ▸ hinput) (wired_bare_iff.mp hwired)
      · rintro (_ | _ | ⟨hsize, hinput, hwired⟩)
        exact .zoom hsize ((size_bare input).trans hinput) (wired_bare_iff.mpr hwired)
  | cross _ _ _ input => by
      constructor
      · rintro (_ | _ | _ | ⟨hsize, hinput, hfits, hwired⟩)
        exact .cross hsize (size_bare input ▸ hinput) (alphabet_bare input ▸ hfits)
          (wired_bare_iff.mp hwired)
      · rintro (_ | _ | _ | ⟨hsize, hinput, hfits, hwired⟩)
        exact .cross hsize ((size_bare input).symm ▸ hinput) ((alphabet_bare input).symm ▸ hfits)
          (wired_bare_iff.mpr hwired)
  | cell _ _ input => by
      constructor
      · rintro (_ | _ | _ | _ | ⟨hfits, hwired⟩)
        exact .cell (alphabet_bare input ▸ hfits) (wired_bare_iff.mp hwired)
      · rintro (_ | _ | _ | _ | ⟨hfits, hwired⟩)
        exact .cell ((alphabet_bare input).symm ▸ hfits) (wired_bare_iff.mpr hwired)
  | blend _ base overlay => by
      have hsizes : overlay.bare.size = base.bare.size ↔ overlay.size = base.size := by
        rw [size_bare, size_bare]
      have halphabets := congrArg₂ Prod.mk (alphabet_bare base) (alphabet_bare overlay)
      obtain ⟨hbase, hoverlay⟩ := Prod.mk.inj halphabets
      constructor
      · rintro (_ | _ | _ | _ | _ | ⟨hsize, hfits, hwired, hwired'⟩)
        exact .blend (hsizes.mp hsize) (hbase ▸ hoverlay ▸ hfits) (wired_bare_iff.mp hwired)
          (wired_bare_iff.mp hwired')
      · rintro (_ | _ | _ | _ | _ | ⟨hsize, hfits, hwired, hwired'⟩)
        exact .blend (hsizes.mpr hsize) (hbase.symm ▸ hoverlay.symm ▸ hfits)
          (wired_bare_iff.mpr hwired)
          (wired_bare_iff.mpr hwired')
  | cached _ input => by
      constructor
      · exact fun hwired => .cached (wired_bare_iff.mp hwired)
      · intro h
        cases h with
        | cached hwired => exact (@wired_bare_iff input).mpr hwired

@[simp] theorem margin_bare : ∀ stage : Stage, stage.bare.margin = stage.margin
  | source .. | sampled .. => rfl
  | zoom _ _ input | cross _ _ _ input => congrArg (· + 2) (margin_bare input)
  | cell _ _ input | cached _ input => margin_bare input
  | blend _ base overlay => congrArg₂ max (margin_bare base) (margin_bare overlay)

@[simp] theorem buffers_bare : ∀ stage : Stage, stage.bare.buffers = stage.buffers
  | source .. | sampled .. => rfl
  | zoom _ _ input => by simp only [bare, buffers, buffers_bare input, size_bare]
  | cross _ _ _ input => by simp only [bare, buffers, buffers_bare input]
  | cell _ _ input => by simp only [bare, buffers, buffers_bare input, size_bare]
  | blend _ base overlay => by
      simp only [bare, buffers, buffers_bare base, buffers_bare overlay, size_bare]
  | cached _ input => buffers_bare input

/-- A stage has its tile, unless memory cannot hold one of the tiles on the way. -/
theorem answers_tile {stage : Stage} (hwired : stage.Wired) {minX minZ : Coord}
    (hword : stage.size.Representable stage.margin) :
    Answers (stage.tile minX minZ) stage.Holdable := by
  rw [← size_bare, ← margin_bare] at hword
  have hanswers := @answers_of_margin stage.bare (wired_bare_iff.mpr hwired) minX minZ (.empty 0)
    hword (.empty 0)
  rw [run_generate_bare, Answers.map_iff] at hanswers
  refine hanswers.mono fun hroom => ?_
  rw [holdable_iff, buffers_bare]
  exact holdable_iff.mp hroom

/-- **Tiles exist.** A wired stage has a tile at every anchor, if memory can hold a tile that is
larger by two columns and rows for every stage. -/
theorem exists_tile {stage : Stage} (hwired : stage.Wired) {minX minZ : Coord}
    (hroom : stage.size.Addressable (2 * stage.count)) :
    ∃ tile, stage.tile minX minZ = .ok tile := by
  have hmargin := stage.margin_le
  have hword : stage.size.Representable stage.margin :=
    hroom.representable.mono (by omega) (by omega)
  exact (answers_tile hwired hword).exists_of_room (holdable_of_addressable hwired hroom)

end Stage

end BiomeAtlas
