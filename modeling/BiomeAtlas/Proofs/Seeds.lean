import BiomeAtlas.Proofs.Coordinates
import BiomeAtlas.Proofs.Parameters
import Mathlib.Data.List.Nodup
import Mathlib.Data.List.Flatten

/-! # Seeds

Every step of a chain has a seed: the folded seed that the chain is built with, moved by the offset
of the step. A step that combines two tiles builds its secondary chain with its own seed, so there
the offsets add up along the nesting. Two stages with the same seed draw the same noise, and what
they decide at a column is no longer independent.

The offsets of the world stand in blocks, numbered by hand (`Chain.worldBlocks`). Three of the
blocks grow with the parameters. The doublings of the continents and of the rivers are bounded and
stay inside the gaps left for them. The exchanges are not: their block begins at 100, and the mask
of the hills at 243. So the stages of a world have seeds of their own if, and only if, there are at
most 143 exchanges (`Chain.seeds_world_nodup_iff`).
-/
namespace BiomeAtlas

/-! ## The seeds of stages -/

/-- The seeds that the stage and the stages it reads draw noise with. -/
def Stage.seeds : Stage → List Int32
  | source _ noise _ => [noise.seed]
  | sampled .. => []
  | zoom noise _ coarser => coarser.seeds ++ [noise.seed]
  | cross _ noise _ input => input.seeds ++ [noise.seed]
  | cell _ noise input => input.seeds ++ [noise.seed]
  | blend _ base overlay => base.seeds ++ overlay.seeds
  | cached _ input => input.seeds

@[simp] theorem Stage.seeds_bare : ∀ stage : Stage, stage.bare.seeds = stage.seeds
  | source .. | sampled .. => rfl
  | zoom _ _ input => by simp only [bare, seeds, seeds_bare input]
  | cross _ _ _ input => by simp only [bare, seeds, seeds_bare input]
  | cell _ _ input => by simp only [bare, seeds, seeds_bare input]
  | blend _ base overlay => by simp only [bare, seeds, seeds_bare base, seeds_bare overlay]
  | cached _ input => seeds_bare input

namespace Chain
variable {chain : Chain} {folded : Int32}

/-- **The seeds of a chain**, one for every step, the steps of secondary chains included. -/
def seeds : Chain → Int32 → List Int32
  | empty, _ => []
  | stage before _ offset, folded => before.seeds folded ++ [stageSeed folded offset]
  | blend before _ secondary offset, folded =>
    before.seeds folded ++ (secondary.seeds (stageSeed folded offset) ++ [stageSeed folded offset])

theorem length_seeds :
    ∀ (chain : Chain) (folded : Int32), (chain.seeds folded).length = chain.stageCount
  | empty, _ => rfl
  | stage before _ _, folded => by rw [seeds, List.length_append, length_seeds before]; rfl
  | blend before _ secondary _, folded => by
      rw [seeds, List.length_append, List.length_append, length_seeds before,
        length_seeds secondary]
      rfl

/-- The stages that a chain makes draw with the seeds of their steps. Steps that combine tiles draw
nothing. -/
theorem Makes.sublist_seeds {size : Size} {made : Stage} (h : chain.Makes folded size made) :
    made.seeds.Sublist (chain.seeds folded) := by
  induction h with
  | source h =>
      obtain ⟨-, -, rfl⟩ := Stage.ofSource_eq_ok_iff.mp h
      exact List.Sublist.refl _
  | zoom _ h ih =>
      obtain ⟨-, -, rfl⟩ := Stage.ofZoom_eq_ok_iff.mp h
      exact ih.append (List.Sublist.refl _)
  | cross _ _ h ih =>
      obtain ⟨-, -, -, rfl⟩ := Stage.ofCross_eq_ok_iff.mp h
      exact ih.append (List.Sublist.refl _)
  | cell _ h ih =>
      obtain ⟨-, rfl⟩ := Stage.ofCell_eq_ok_iff.mp h
      exact ih.append (List.Sublist.refl _)
  | blend _ _ h ih ih' =>
      obtain ⟨-, -, rfl⟩ := Stage.ofBlend_eq_ok_iff.mp h
      exact ih.append (ih'.trans (List.sublist_append_left _ _))

/-! ## Blocks of offsets -/

/-- The seeds at `count` offsets that count up from `first`. -/
def block (folded first : Int32) (count : Nat) : List Int32 :=
  (List.range count).map fun i => stageSeed folded (first + Int32.ofNat i)

theorem block_cons (folded first : Int32) (count : Nat) :
    block folded first (count + 1) = stageSeed folded first :: block folded (first + 1) count := by
  have hnext : ∀ i, first + Int32.ofNat (i + 1) = first + 1 + Int32.ofNat i := by
    intro i
    rw [Int32.ofNat_add, Int32.add_comm (Int32.ofNat i), Int32.add_assoc]
    rfl
  have hfirst : first + Int32.ofNat 0 = first := Int32.add_zero first
  rw [block, List.range_succ_eq_map, List.map_cons, List.map_map]
  simp only [Function.comp_def, hnext, hfirst, block]

/-- In a secondary chain the offsets add up. -/
theorem block_stageSeed (folded offset first : Int32) (count : Nat) :
    block (stageSeed folded offset) first count = block folded (offset + first) count := by
  simp only [block, stageSeed, Int32.add_assoc]

theorem seeds_zoomed (chain : Chain) (folded first : Int32) : ∀ count,
    (chain.zoomed count first).seeds folded = chain.seeds folded ++ block folded first count
  | 0 => (List.append_nil _).symm
  | count + 1 => by
      rw [zoomed, seeds, seeds_zoomed chain folded first count, block, block, List.range_succ,
        List.map_append, List.append_assoc]
      rfl

theorem seeds_replaced (folded : Int32) :
    ∀ (replacements : List Replacement) (chain : Chain) (first : Int32),
    (chain.replaced replacements first).seeds folded =
      chain.seeds folded ++ block folded first replacements.length
  | [], _, _ => (List.append_nil _).symm
  | replacement :: later, chain, first => by
      rw [replaced, seeds_replaced folded later, seeds, List.append_assoc,
        List.length_cons, block_cons]
      rfl

/-! ## The world -/

section World
variable {params : LayerParams}

/-- **The blocks of offsets of the world**, as first offsets and numbers of offsets: groups,
exchanges, biomes, and the three secondary chains with the offset of the step that they belong to
added. -/
def worldBlocks (params : LayerParams) : List (Nat × Nat) := [
  (1, 1), (10, params.continentZoomLevels.toNat), (20, 9),
  (100, params.replacements.length), (40, 3), (43 + 200, 1), (43 + 201, 2), (43, 4),
  (47 + 300, 5), (47, 5),
  (52 + 400, 1), (52 + 401, params.riverZoomLevels.toNat), (52 + 420, 4), (52, 1)]

/-- All offsets of the world, those of secondary chains added up. -/
def worldOffsets (params : LayerParams) : List Nat :=
  (worldBlocks params).flatMap fun (first, count) => List.range' first count

theorem seeds_world (params : LayerParams) (folded : Int32) : (world params).seeds folded =
    (worldBlocks params).flatMap fun (first, count) => block folded (Int32.ofNat first) count := by
  have hnested : ∀ first second : Int32,
      stageSeed (stageSeed folded first) second = stageSeed folded (first + second) :=
    fun _ _ => Int32.add_assoc ..
  simp only [world, groups, rivers, hillsMask, rarerMask, seeds, seeds_zoomed, seeds_replaced,
    block_stageSeed, hnested, List.append_assoc, List.nil_append, worldBlocks, List.flatMap_cons]
  rfl

theorem block_eq_map (folded : Int32) (first count : Nat) : block folded (Int32.ofNat first) count =
    (List.range' first count).map fun offset => stageSeed folded (Int32.ofNat offset) := by
  rw [block, List.range'_eq_map_range, List.map_map]
  refine List.map_congr_left fun i _ => ?_
  rw [Function.comp_apply, Int32.ofNat_add]

theorem seeds_world_eq_map (params : LayerParams) (folded : Int32) :
    (world params).seeds folded = (worldOffsets params).map fun offset =>
      stageSeed folded (Int32.ofNat offset) := by
  rw [seeds_world, worldOffsets, List.map_flatMap]
  simp only [block_eq_map]

/-- No offset is in both blocks. -/
def Apart (a b : Nat × Nat) : Prop :=
  a.1 + a.2 ≤ b.1 ∨ b.1 + b.2 ≤ a.1 ∨ a.2 = 0 ∨ b.2 = 0

theorem apart_iff_disjoint {a b : Nat × Nat} :
    Apart a b ↔ List.Disjoint (List.range' a.1 a.2) (List.range' b.1 b.2) := by
  simp only [Apart, List.Disjoint, List.mem_range'_1]
  constructor
  · intro h k hk hk'
    omega
  · intro h
    by_contra hoverlap
    -- the larger of the two first offsets is in both blocks
    exact @h (max a.1 b.1) (by omega) (by omega)

/-- The offsets of the world are distinct if and only if the exchanges end before the mask of the
hills. -/
theorem nodup_worldOffsets_iff (hcontinent : params.continentZoomLevels.toNat ≤ 8)
    (hriver : params.riverZoomLevels.toNat ≤ 8) :
    (worldOffsets params).Nodup ↔ params.replacements.length ≤ 143 := by
  have hblocks : (worldOffsets params).Nodup ↔ (worldBlocks params).Pairwise Apart := by
    rw [worldOffsets, List.nodup_flatMap]
    constructor
    · rintro ⟨-, h⟩
      exact h.imp apart_iff_disjoint.mpr
    · intro h
      exact ⟨fun _ _ => List.nodup_range', h.imp apart_iff_disjoint.mp⟩
  rw [hblocks]
  constructor
  · intro h
    have hmask : Apart (100, params.replacements.length) (43 + 200, 1) :=
      List.pairwise_iff_getElem.mp h 3 5 (by simp [worldBlocks]) (by simp [worldBlocks]) (by decide)
    simp only [Apart] at hmask
    omega
  · intro hcount
    simp [worldBlocks, Apart, -List.length_eq_zero_iff]
    omega

theorem nodup_seeds_world_iff (h : params.Valid) (folded : Int32) :
    ((world params).seeds folded).Nodup ↔ params.replacements.length ≤ 143 := by
  have hcontinent : params.continentZoomLevels.toNat ≤ 8 :=
    UInt32.le_iff_toNat_le.mp h.continentLevels
  have hriver : params.riverZoomLevels.toNat ≤ 8 := UInt32.le_iff_toNat_le.mp h.riverLevels
  rw [seeds_world_eq_map, ← nodup_worldOffsets_iff hcontinent hriver]
  constructor
  · intro hnodup
    exact hnodup.of_map _
  · intro hnodup
    have hcount := (nodup_worldOffsets_iff hcontinent hriver).mp hnodup
    have hbound : ∀ offset ∈ worldOffsets params, offset < 2 ^ 32 := by
      intro offset hmem
      obtain ⟨block, hblock, hmem⟩ := List.mem_flatMap.mp hmem
      have hend : ∀ block ∈ worldBlocks params, block.1 + block.2 ≤ 2 ^ 32 := by
        simp [worldBlocks]
        omega
      have hlast := hend block hblock
      have hoffset := (List.mem_range'_1.mp hmem).2
      omega
    -- the offsets are too small to meet again by wrapping
    refine (List.nodup_map_iff_inj_on hnodup).mpr fun offset hoffset other hother hseed => ?_
    rw [← @distance_add_ofNat folded offset (hbound offset hoffset),
      ← @distance_add_ofNat folded other (hbound other hother)]
    exact congrArg (fun seed : Int32 => (seed - folded).toUInt32.toNat) hseed

/-- **When the stages of a world have seeds of their own.** Let the parameters of a world validate,
and let a folded seed be given. No two steps of its chain, secondary chains included, have the same
seed if, and only if, there are at most 143 exchanges. Into whatever stage the chain is built, with
a store or without one, there is one seed for each of its stages, and the stages that draw noise
draw it with these seeds. -/
theorem seeds_world_nodup_iff (h : params.validate = .ok ()) (folded : Int32) :
    (((world params).seeds folded).Nodup ↔ params.replacements.length ≤ 143) ∧
    ∀ (cached : Bool) (size : Size) (store store' : TileStore) (built : Stage),
      ((world params).build cached folded size).run store = .ok (built, store') →
      ((world params).seeds folded).length = built.count ∧
      built.seeds.Sublist ((world params).seeds folded) := by
  refine ⟨nodup_seeds_world_iff (LayerParams.validate_eq_ok_iff.mp h) folded, ?_⟩
  intro cached size store store' built hbuild
  have hmakes := makes_of_build hbuild
  constructor
  · rw [length_seeds, ← Stage.count_bare, hmakes.count_eq]
  · rw [← Stage.seeds_bare]
    exact hmakes.sublist_seeds

end World

/-- A world with many exchanges, and with as many doublings as can be asked for. -/
def crowded (exchanges : Nat) : LayerParams where
  replacements := List.replicate exchanges ⟨.plains, .sunflowerPlains, 20⟩
  continentZoomLevels := 8
  riverZoomLevels := 8

theorem valid_crowded (exchanges : Nat) : (crowded exchanges).Valid := by
  have hvalid : LayerParams.Valid { continentZoomLevels := 8, riverZoomLevels := 8 } :=
    LayerParams.validate_eq_ok_iff.mp rfl
  refine { hvalid with replacements := ?_ }
  intro replacement hmem
  rw [(List.mem_replicate.mp hmem).2]
  decide

/-- There is room for 143 exchanges. -/
theorem seeds_crowded_world_nodup :
    (crowded 143).validate = .ok () ∧ ((world (crowded 143)).seeds (foldSeed (-1))).Nodup := by
  have hvalidate : (crowded 143).validate = .ok () :=
    LayerParams.validate_eq_ok_iff.mpr (valid_crowded 143)
  refine ⟨hvalidate, (seeds_world_nodup_iff hvalidate _).1.mpr ?_⟩
  exact Nat.le_of_eq List.length_replicate

/-- One more exchange validates as well, but it has the seed of the source of the mask of the
hills. -/
theorem seeds_crowded_world_not_nodup :
    (crowded 144).validate = .ok () ∧ ¬ ((world (crowded 144)).seeds (foldSeed 0)).Nodup := by
  refine ⟨LayerParams.validate_eq_ok_iff.mpr (valid_crowded 144), ?_⟩
  rw [nodup_seeds_world_iff (valid_crowded 144), crowded, List.length_replicate]
  decide

end Chain
end BiomeAtlas
