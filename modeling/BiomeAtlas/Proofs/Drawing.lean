import BiomeAtlas.Files.Tree
import BiomeAtlas.Proofs.Memory
import BiomeAtlas.Proofs.Parameters
import BiomeAtlas.Proofs.Rendering

/-! # Settings that are accepted are drawn

`Settings.validate` looks at the parameters of the stages and at three products. That is enough for
all that follows: the pipeline is built (`MapTool.exists_buildPipeline`), the region is one that
only memory can be too small for (`Settings.manages`), and its image can be written to a file
(`MapSettings.exists_encode_render`). So what may still go wrong while a map is drawn is that memory
runs out, or that the file system refuses the file (`MapTool.endsIn_draw`).
-/
namespace BiomeAtlas

/-! ## What is accepted -/

theorem mapError_eq_ok_iff {ε δ α : Type} {result : Except ε α} {f : ε → δ} {a : α} :
    result.mapError f = .ok a ↔ result = .ok a := by
  cases result with
  | error e => exact iff_of_false (fun h => by cases h) fun h => by cases h
  | ok a' => exact ok_eq_ok_iff.trans ok_eq_ok_iff.symm

namespace MapSettings
variable {map : MapSettings}

theorem validate_eq_ok_iff :
    map.validate = .ok () ↔ map.tileSize ≠ 0 ∧ (map.tilesX ≠ 0 ∧ map.tilesZ ≠ 0) ∧
    map.imageSize.width < sideLimit ∧ map.imageSize.height < sideLimit ∧
    map.imageSize.cells * 4 < wordLimit := by
  unfold validate
  by_cases htile : map.tileSize = 0
  · rw [if_pos htile]
    exact iff_of_false (fun h => by cases h) fun h => h.1 htile
  · rw [if_neg htile, and_iff_right htile]
    by_cases htiles : map.tilesX = 0 ∨ map.tilesZ = 0
    · rw [if_pos htiles]
      refine iff_of_false (fun h => by cases h) fun h => ?_
      rcases htiles with hx | hz
      · exact h.1.1 hx
      · exact h.1.2 hz
    · rw [if_neg htiles, and_iff_right (not_or.mp htiles)]
      dsimp only
      split
      · rename_i hsmall
        exact iff_of_true rfl hsmall
      · rename_i hlarge
        exact iff_of_false (fun h => by cases h) hlarge

/-- The tiles of a map, side by side. -/
def layout (map : MapSettings) : Layout :=
  ⟨map.minX, map.minZ, map.tile, map.tilesX.toNat, map.tilesZ.toNat⟩

/-- **What is accepted** is a map with tiles that are not empty, whose tiles have room for the
margin of the world. -/
theorem narrow_of_validate (h : map.validate = .ok ()) :
    map.layout.Narrow ∧ map.tile.Representable 46 := by
  obtain ⟨htile, ⟨hx, hz⟩, hwidth, hheight, hcells⟩ := validate_eq_ok_iff.mp h
  have htile' : map.tileSize.toNat ≠ 0 := fun h0 => htile (UInt64.toNat_inj.mp h0)
  have hx' : 0 < map.tilesX.toNat := Nat.pos_of_ne_zero fun h0 => hx (UInt64.toNat_inj.mp h0)
  have hz' : 0 < map.tilesZ.toNat := Nat.pos_of_ne_zero fun h0 => hz (UInt64.toNat_inj.mp h0)
  have hside : sideLimit = 2 ^ 32 := by decide
  have hword : wordLimit = 2 ^ 64 := by decide
  refine ⟨⟨hside ▸ hwidth, hside ▸ hheight, Size.isEmpty_eq_false_iff.mpr ⟨htile', htile'⟩⟩, ?_⟩
  -- a tile is not larger than the image, so its side is below the square root of the pixels
  have hwide := Nat.le_mul_of_pos_left map.tileSize.toNat hx'
  have hhigh := Nat.le_mul_of_pos_left map.tileSize.toNat hz'
  have hsquare : map.tileSize.toNat * map.tileSize.toNat ≤ map.imageSize.cells :=
    Nat.mul_le_mul hwide hhigh
  have hsmall : map.tileSize.toNat < 2 ^ 31 := by
    rcases Nat.lt_or_ge map.tileSize.toNat (2 ^ 31) with hlt | hge
    · exact hlt
    · have hlower := Nat.mul_le_mul hge hge
      omega
  have hlarger : (map.tileSize.toNat + 46 + 4) * (map.tileSize.toNat + 46 + 4) ≤
      (2 ^ 31 + 50) * (2 ^ 31 + 50) :=
    Nat.mul_le_mul (by omega) (by omega)
  have hfits : (2 ^ 31 + 50) * (2 ^ 31 + 50) < wordLimit := by decide
  exact Nat.lt_of_le_of_lt hlarger hfits

end MapSettings

namespace Settings
variable {settings : Settings}

theorem validate_eq_ok_iff :
    settings.validate = .ok () ↔ settings.layers.Valid ∧ settings.map.validate = .ok () := by
  rw [validate, check_bind_eq_ok, mapError_eq_ok_iff, mapError_eq_ok_iff,
    LayerParams.validate_eq_ok_iff]

/-- A pipeline of accepted settings manages the region on the map. -/
theorem manages {pipeline : Pipeline} (h : settings.validate = .ok ())
    (huses : settings.pipelineSpec.Uses pipeline) :
    pipeline.Manages settings.map.layout := by
  obtain ⟨hvalid, hmap⟩ := validate_eq_ok_iff.mp h
  obtain ⟨hnarrow, hword⟩ := MapSettings.narrow_of_validate hmap
  exact huses.manages rfl hvalid rfl hnarrow hword

end Settings

namespace MapTool
variable {settings : Settings} {pipeline : Pipeline}

theorem buildPipeline_eq_ok_iff : buildPipeline settings = .ok pipeline ↔
    settings.validate = .ok () ∧ settings.pipelineSpec.build = .ok pipeline := by
  rw [buildPipeline, check_bind_eq_ok, mapError_eq_ok_iff, mapError_eq_ok_iff]

/-- **The pipeline is built** if the settings are accepted. -/
theorem exists_buildPipeline (h : settings.validate = .ok ()) :
    ∃ pipeline, buildPipeline settings = .ok pipeline := by
  obtain ⟨hvalid, hmap⟩ := Settings.validate_eq_ok_iff.mp h
  obtain ⟨hnarrow, hword⟩ := MapSettings.narrow_of_validate hmap
  obtain ⟨hwide, hhigh⟩ := hword.lt_wordLimit
  have hwidth : settings.map.tile.width + 2 < wordLimit := by omega
  have hheight : settings.map.tile.height + 2 < wordLimit := by omega
  obtain ⟨pipeline, hbuild, -⟩ := @PipelineSpec.exists_build_world settings.pipelineSpec rfl hvalid
    (Size.isEmpty_eq_false_iff.mp hnarrow.nonempty) hwidth hheight
  exact ⟨pipeline, buildPipeline_eq_ok_iff.mpr ⟨h, hbuild⟩⟩

end MapTool

/-! ## Images -/

theorem Png.exists_encode {image : Image} (hwidth : image.width ≠ 0) (hheight : image.height ≠ 0)
    (hword : 4 * image.width * image.height < wordLimit)
    (hpixels : image.pixels.size = 4 * image.width * image.height) :
    ∃ bytes, encode image = .ok bytes := by
  unfold encode
  rw [if_neg (not_or.mpr ⟨hwidth, hheight⟩), if_neg (Nat.not_le.mpr hword),
    if_neg (not_not_intro hpixels)]
  exact ⟨_, rfl⟩

/-- **The image of an accepted map** can be written to a file. -/
theorem MapSettings.exists_encode_render {map : MapSettings} {palette : Cell → Color} {grid : Grid}
    (h : map.validate = .ok ()) (hgrid : grid.size = map.imageSize) :
    (Image.render palette grid).width < sideLimit ∧
      (Image.render palette grid).height < sideLimit ∧ ∃ bytes,
        Png.encode (.render palette grid) = .ok bytes := by
  obtain ⟨htile, ⟨hx, hz⟩, hwidth, hheight, hcells⟩ := validate_eq_ok_iff.mp h
  have hnonzero : ∀ {count : UInt64}, count ≠ 0 → count.toNat ≠ 0 :=
    fun hcount h0 => hcount (UInt64.toNat_inj.mp h0)
  have hbytes : 4 * grid.size.width * grid.size.height = 4 * grid.size.cells := Nat.mul_assoc ..
  rw [← hgrid] at hwidth hheight hcells
  refine ⟨hwidth, hheight, Png.exists_encode ?_ ?_ ?_ ?_⟩
  · change grid.size.width ≠ 0
    rw [hgrid]
    exact Nat.mul_ne_zero (hnonzero hx) (hnonzero htile)
  · change grid.size.height ≠ 0
    rw [hgrid]
    exact Nat.mul_ne_zero (hnonzero hz) (hnonzero htile)
  · change 4 * grid.size.width * grid.size.height < wordLimit
    omega
  · rw [Image.size_pixels_render]
    exact hbytes.symm

/-! ## Computations on files -/

/-- Whatever the state it begins in, a computation ends with one of the results or with one of the
errors. -/
def EndsIn {σ ε α : Type} (making : ExceptT ε (StateM σ) α) (results : α → Prop)
    (errors : ε → Prop) : Prop :=
  ∀ state, (∃ a, (making.run.run state).1 = .ok a ∧ results a) ∨ ∃ e,
    (making.run.run state).1 = .error e ∧ errors e

namespace EndsIn
variable {σ ε α β : Type} {making : ExceptT ε (StateM σ) α} {results : α → Prop} {errors : ε → Prop}

theorem lift {result : Except ε α} (hok : ∀ a, result = .ok a → results a)
    (herror : ∀ e, result = .error e → errors e) :
    EndsIn (ExceptT.mk (pure result) : ExceptT ε (StateM σ) α) results errors := by
  intro state
  cases result with
  | ok a => exact Or.inl ⟨a, rfl, hok a rfl⟩
  | error e => exact Or.inr ⟨e, rfl, herror e rfl⟩

/-- More errors may be allowed for. -/
theorem mono {errors' : ε → Prop} (h : EndsIn making results errors)
    (herrors : ∀ e, errors e → errors' e) :
    EndsIn making results errors' :=
  fun state => (h state).imp_right fun ⟨e, he, herror⟩ => ⟨e, he, herrors e herror⟩

theorem bind {next : α → ExceptT ε (StateM σ) β} {results' : β → Prop}
    (h : EndsIn making results errors) (hnext : ∀ a, results a → EndsIn (next a) results' errors) :
    EndsIn (making >>= next) results' errors := by
  intro state
  have hfirst := h state
  rw [ExceptT.run_bind, StateT.run_bind]
  revert hfirst
  generalize making.run.run state = first
  obtain ⟨result, later⟩ := first
  rintro (⟨a, rfl, hresult⟩ | ⟨e, rfl, herror⟩)
  · exact hnext a hresult later
  · exact Or.inr ⟨e, rfl, herror⟩

theorem pure {a : α} (h : results a) :
    EndsIn (Pure.pure a : ExceptT ε (StateM σ) α) results errors :=
  fun _ => Or.inl ⟨a, rfl, h⟩

end EndsIn

namespace MapTool
variable {settings : Settings} {pipeline : Pipeline} {path : Path} {image : Image}

/-- An operation on files fails for a reason of the file system. -/
theorem endsIn_operation {operation : StateM FileTree (Except FileError Unit)} :
    EndsIn (ExceptT.mk (return (← operation).mapError (.file path))) (fun _ : Unit => True)
      (fun e : MapError => ∃ cause, e = .file path cause) := by
  intro tree
  change (∃ a, ((operation.run tree).1.mapError (MapError.file path)) = .ok a ∧ True) ∨
    ∃ e, ((operation.run tree).1.mapError (MapError.file path)) = .error e ∧ _
  cases (operation.run tree).1 with
  | ok a => exact Or.inl ⟨a, rfl, trivial⟩
  | error cause => exact Or.inr ⟨.file path cause, rfl, cause, rfl⟩

/-- An image that fits a file is written unless the file system refuses it. -/
theorem endsIn_writeImage {bytes : ByteArray} (hwidth : image.width < sideLimit)
    (hheight : image.height < sideLimit) (hbytes : Png.encode image = .ok bytes) :
    EndsIn (writeImage path image : ExceptT MapError (StateM FileTree) Unit)
      (fun _ => True) (fun e => ∃ cause, e = .file path cause) := by
  unfold writeImage
  rw [if_neg (not_or.mpr ⟨Nat.not_le.mpr hwidth, Nat.not_le.mpr hheight⟩), hbytes]
  cases path.parent? with
  | none => exact endsIn_operation.bind fun _ _ => endsIn_operation
  | some above =>
      dsimp only
      split
      · exact endsIn_operation.bind fun _ _ => endsIn_operation
      · exact endsIn_operation.bind fun _ _ => endsIn_operation.bind fun _ _ => endsIn_operation

/-- The biomes on the map are those of the region that the pipeline resolves. -/
theorem region_eq (hbuild : buildPipeline settings = .ok pipeline) : region settings =
    ((pipeline.resolveRegion settings.map.layout.minX settings.map.layout.minZ
      settings.map.layout.tilesX settings.map.layout.tilesZ).map Prod.fst).mapError .fault := by
  unfold region
  rw [hbuild]
  rfl

/-- **Drawing ends with a map** of the size that was asked for, unless memory cannot hold the region
or a tile on the way, or the file system refuses the file. -/
theorem endsIn_draw (hbuild : buildPipeline settings = .ok pipeline) :
    EndsIn (draw settings : ExceptT MapError (StateM FileTree) MapSummary)
      (fun summary => summary.size = settings.map.imageSize)
      (fun e => (∃ cause, e = .file settings.map.output cause) ∨
        (e = .fault .tooManyCells ∧ ¬ pipeline.HasRoom settings.map.layout)) := by
  obtain ⟨hvalidate, hspec⟩ := buildPipeline_eq_ok_iff.mp hbuild
  have hmanages := Settings.manages hvalidate (.built hspec)
  have hmap := (Settings.validate_eq_ok_iff.mp hvalidate).2
  have hregion :
    EndsIn (ExceptT.mk (pure (region settings)) : ExceptT MapError (StateM FileTree) Grid)
      (fun grid => grid.size = settings.map.imageSize)
      (fun e => e = .fault .tooManyCells ∧ ¬ pipeline.HasRoom settings.map.layout) := by
    rw [region_eq hbuild]
    rcases hmanages.answers with ⟨⟨grid, after⟩, hrun⟩ | ⟨hfault, hnone⟩
    · have hsize := (hmanages.extent grid after hrun).size_eq
      rw [hrun]
      exact .lift (fun a ha => by cases ha; exact hsize) fun e he => by cases he
    · rw [hfault]
      exact .lift (fun a ha => by cases ha) fun e he => by cases he; exact ⟨rfl, hnone⟩
  refine (hregion.mono fun e => Or.inr).bind fun grid hgrid => ?_
  obtain ⟨hwidth, hheight, bytes, hbytes⟩ := MapSettings.exists_encode_render hmap hgrid
  exact ((endsIn_writeImage hwidth hheight hbytes).mono fun e => Or.inl).bind fun _ _ => .pure hgrid

end MapTool

/-! ## The check is exact and sufficient -/

namespace Settings

/-- **The check of settings is exact, and it is sufficient.** Settings are accepted if, and only if,
the parameters of the stages are, there are tiles and they have cells, and three products are in
range: both sides of the image in pixels, and the number of its bytes.

If they are accepted, the pipeline is built. At any time it manages the region on the map, so that
no size leaves the range of a word, all tiles are pasted where they fit, and memory alone can be too
small. The image of the region has the sides that were asked for and four bytes for each pixel, and
their number is a word. And a map is drawn, unless there is no room in memory or the file system
refuses the file. -/
theorem validate_exact_and_sufficient (settings : Settings) :
    (settings.validate = .ok () ↔ settings.layers.validate = .ok () ∧
      (settings.map.tileSize ≠ 0 ∧ settings.map.tilesX ≠ 0 ∧ settings.map.tilesZ ≠ 0) ∧
      settings.map.tilesX.toNat * settings.map.tileSize.toNat < 2 ^ 32 ∧
      settings.map.tilesZ.toNat * settings.map.tileSize.toNat < 2 ^ 32 ∧
      4 * (settings.map.tilesX.toNat * settings.map.tileSize.toNat) *
        (settings.map.tilesZ.toNat * settings.map.tileSize.toNat) < 2 ^ 64) ∧
    (settings.validate = .ok () →
      (∃ pipeline, MapTool.buildPipeline settings = .ok pipeline) ∧
      (∀ pipeline, settings.pipelineSpec.Uses pipeline → pipeline.Manages settings.map.layout) ∧
      (∀ region : Grid, region.size = settings.map.layout.size →
        (Image.render biomeColor region).width =
          settings.map.tilesX.toNat * settings.map.tileSize.toNat ∧
        (Image.render biomeColor region).height =
          settings.map.tilesZ.toNat * settings.map.tileSize.toNat ∧
        (Image.render biomeColor region).pixels.size =
          4 * (settings.map.tilesX.toNat * settings.map.tileSize.toNat) *
          (settings.map.tilesZ.toNat * settings.map.tileSize.toNat) ∧
        (Image.render biomeColor region).pixels.size < wordLimit) ∧
      ∀ pipeline, MapTool.buildPipeline settings = .ok pipeline →
        EndsIn (MapTool.draw settings : ExceptT MapError (StateM FileTree) MapSummary)
          (fun summary => summary.size =
            ⟨settings.map.tilesX.toNat * settings.map.tileSize.toNat,
              settings.map.tilesZ.toNat * settings.map.tileSize.toNat⟩)
          (fun e => (∃ cause, e = .file settings.map.output cause) ∨
            (e = .fault .tooManyCells ∧ ¬ pipeline.HasRoom settings.map.layout))) := by
  have hside : sideLimit = 2 ^ 32 := by decide
  have hword : wordLimit = 2 ^ 64 := by decide
  have hbytes : 4 * (settings.map.tilesX.toNat * settings.map.tileSize.toNat) *
      (settings.map.tilesZ.toNat * settings.map.tileSize.toNat) =
        4 * settings.map.imageSize.cells := Nat.mul_assoc ..
  refine ⟨?_, fun h => ⟨MapTool.exists_buildPipeline h, fun pipeline huses => manages h huses,
    fun region hregion => ?_, fun pipeline hbuild => MapTool.endsIn_draw hbuild⟩⟩
  · rw [validate_eq_ok_iff, LayerParams.validate_eq_ok_iff, MapSettings.validate_eq_ok_iff,
      hbytes, hside, hword, Nat.mul_comm settings.map.imageSize.cells 4]
    exact and_congr_right fun _ => and_assoc.symm
  · obtain ⟨-, -, -, -, hcells⟩ := MapSettings.validate_eq_ok_iff.mp (validate_eq_ok_iff.mp h).2
    have hsize : region.size = settings.map.imageSize := hregion
    rw [Image.size_pixels_render, hbytes, hsize]
    exact ⟨congrArg Size.width hsize, congrArg Size.height hsize, rfl, by omega⟩

/-- The settings that are used when none are given: a map of 512 by 512 pixels, for which memory
suffices. -/
theorem default_map_is_drawn : ∃ pipeline, MapTool.buildPipeline {} = .ok pipeline ∧
    pipeline.HasRoom (MapSettings.layout {}) ∧
    (∃ region : Grid, region.Occupies (-256) (-256) ⟨512, 512⟩ ∧
      (Image.render biomeColor region).pixels.size = 1048576 ∧
      ∀ threads, ∃ start, pipeline.crew (-256) (-256) 32 32 threads = .ok start ∧
        start.Succeeds pipeline.root region) ∧
    EndsIn (MapTool.draw {} : ExceptT MapError (StateM FileTree) MapSummary)
      (fun summary => summary.size = ⟨512, 512⟩)
      (fun e => ∃ cause, e = .file ⟨"biomes.png"⟩ cause) := by
  have haccepted : validate {} = .ok () := rfl
  obtain ⟨-, hsufficient⟩ := validate_exact_and_sufficient {}
  obtain ⟨⟨pipeline, hbuild⟩, hmanages, himage, hdraw⟩ := hsufficient haccepted
  have huses : (pipelineSpec {}).Uses pipeline :=
    .built (MapTool.buildPipeline_eq_ok_iff.mp hbuild).2
  have hroom : pipeline.HasRoom (MapSettings.layout {}) :=
    ⟨by decide, huses.holdable rfl (validate_eq_ok_iff.mp haccepted).1 (by decide)⟩
  obtain ⟨region, hat, -, hcrews⟩ := (hmanages pipeline huses).whole hroom
  refine ⟨pipeline, hbuild, hroom, ⟨region, hat, (himage region hat.size_eq).2.2.1, hcrews⟩, ?_⟩
  refine (hdraw pipeline hbuild).mono fun e he => ?_
  rcases he with hfile | ⟨-, hnone⟩
  · exact hfile
  · exact absurd hroom hnone

end Settings

end BiomeAtlas
