import BiomeAtlas.Proofs.Neighbours
import BiomeAtlas.Proofs.Pasting
import BiomeAtlas.Proofs.Wiring

/-! # The values that rules write

The alphabet of a stage is a label that is checked when stages are wired. Here the labels are shown
to be true of the values, rule by rule: a rule that fits what it reads writes values of the alphabet
it states (`Source.within`, `Grid.within_zoomed`, `CrossRule.within`, `CellRule.within`,
`BlendRule.within`).

The reasons differ. A doubling only copies values. Group numbers come out of a non-negative roll by
remainders. The rare flag is one bit above all groups. Biomes are written by number, from tables and
from rules, and every biome has its number in the alphabet. What a rule is set up to write has been
checked against the alphabet of its input.
-/
namespace BiomeAtlas

/-! ## Members of alphabets -/

theorem Biome.ofId?_id (biome : Biome) : Biome.ofId? biome.id = some biome := by
  cases biome <;> decide

/-- A number names at most the biome that has it. -/
theorem Biome.id_eq_of_ofId? {value : Cell} {biome : Biome} (h : Biome.ofId? value = some biome) :
    biome.id = value := by
  have hbases : ∀ i : Fin 40, Biome.bases[i].id = Int32.ofNat i := by decide
  have hcounterparts : ∀ i : Fin 40, ∀ found, Biome.counterparts[i] = some found →
      found.id = variantOffset + Int32.ofNat i := by decide
  unfold Biome.ofId? at h
  by_cases hnegative : value < 0
  · rw [if_pos hnegative] at h
    cases h
  · rw [if_neg hnegative] at h
    have hvalue : 0 ≤ value := Int32.not_lt.mp hnegative
    by_cases hbase : value < variantOffset
    · rw [if_pos hbase] at h
      obtain ⟨hi, rfl⟩ := Array.getElem?_eq_some_iff.mp h
      exact (hbases ⟨_, hi⟩).trans (Int32.ofNat_toNatClampNeg value hvalue)
    · rw [if_neg hbase] at h
      have hoffset : 0 ≤ value - variantOffset := by
        have hsize := Int32.le_iff_toInt_le.mp (Int32.not_lt.mp hbase)
        change 128 ≤ value.toInt at hsize
        rw [Int32.le_iff_toInt_le, Int32.toInt_sub]
        change 0 ≤ (value.toInt - 128).bmod (2 ^ 32)
        have hhigh := value.toInt_lt
        rw [Int.bmod_eq_of_le_mul_two (by omega) (by omega)]
        omega
      obtain ⟨hi, hfound⟩ := Array.getElem?_eq_some_iff.mp (Option.join_eq_some_iff.mp h)
      rw [hcounterparts ⟨_, hi⟩ _ hfound, Int32.ofNat_toNatClampNeg _ hoffset, Int32.add_comm,
        Int32.sub_add_cancel]

theorem Alphabet.contains_biome_iff {value : Cell} :
    Alphabet.biome.contains value = true ↔ ∃ biome : Biome, biome.id = value := by
  change (Biome.ofId? value).isSome = true ↔ _
  rw [Option.isSome_iff_exists]
  constructor
  · rintro ⟨biome, h⟩; exact ⟨biome, Biome.id_eq_of_ofId? h⟩
  · rintro ⟨biome, rfl⟩; exact ⟨biome, biome.ofId?_id⟩

theorem Alphabet.contains_id (biome : Biome) : Alphabet.biome.contains biome.id = true :=
  contains_biome_iff.mpr ⟨biome, rfl⟩

theorem Alphabet.contains_group_iff {value : Cell} :
    Alphabet.group.contains value = true ↔ ∃ group : Group, group.id = value := by
  constructor
  · intro h
    obtain ⟨hlow, hhigh⟩ := (Bool.and_eq_true ..).mp h
    have hlow := Int32.le_iff_toInt_le.mp (of_decide_eq_true hlow)
    have hhigh := Int32.le_iff_toInt_le.mp (of_decide_eq_true hhigh)
    change 0 ≤ value.toInt at hlow
    change value.toInt ≤ 4 at hhigh
    have hvalue : value.toInt = 0 ∨ value.toInt = 1 ∨ value.toInt = 2 ∨ value.toInt = 3 ∨
        value.toInt = 4 := by
      omega
    rcases hvalue with hvalue | hvalue | hvalue | hvalue | hvalue
    · exact ⟨.ocean, Int32.toInt_inj.mp hvalue.symm⟩
    · exact ⟨.desert, Int32.toInt_inj.mp hvalue.symm⟩
    · exact ⟨.temperate, Int32.toInt_inj.mp hvalue.symm⟩
    · exact ⟨.mountains, Int32.toInt_inj.mp hvalue.symm⟩
    · exact ⟨.ice, Int32.toInt_inj.mp hvalue.symm⟩
  · rintro ⟨group, rfl⟩
    cases group <;> decide

/-- A group without the flag, or with it. -/
theorem Alphabet.contains_rareGroup {value : Cell} (h : Alphabet.group.contains value = true) :
    Alphabet.rareGroup.contains value = true ∧
    Alphabet.rareGroup.contains (value ||| rareFlag) = true := by
  obtain ⟨group, rfl⟩ := contains_group_iff.mp h
  cases group <;> decide

theorem Alphabet.contains_zero (alphabet : Alphabet) : alphabet.contains 0 = true := by
  cases alphabet <;> decide

/-- **Accepting is inclusion.** -/
theorem Alphabet.contains_of_accepts {reads found : Alphabet} {value : Cell}
    (h : reads.accepts found = true) (hvalue : found.contains value = true) :
    reads.contains value = true := by
  cases reads with
  | region => rfl
  | rareGroup =>
      cases found with
      | group => exact (contains_rareGroup hvalue).1
      | rareGroup => exact hvalue
      | region | biome | river => cases h
  | group | biome | river => cases found <;> first | exact hvalue | cases h

/-! ## Rolls -/

theorem toInt_and_nonneg (n : Int32) : 0 ≤ (n &&& 0x7fffffff).toInt := by
  change 0 ≤ (n.toBitVec &&& 0x7fffffff#32).toInt
  have hle : (n.toBitVec &&& 0x7fffffff#32).toNat ≤ 0x7fffffff := by
    rw [BitVec.toNat_and]
    exact Nat.and_le_right
  rw [BitVec.toInt_eq_toNat_cond]
  split <;> omega

theorem toInt_div_nonneg {n divisor : Int32} (hn : 0 ≤ n.toInt) (hdivisor : 0 < divisor.toInt) :
    0 ≤ (n / divisor).toInt := by
  have hne : divisor ≠ -1 := by
    intro h
    rw [h] at hdivisor
    exact absurd hdivisor (by decide)
  rw [Int32.toInt_div_of_ne_right _ _ hne]
  exact Int.tdiv_nonneg hn (Int.le_of_lt hdivisor)

namespace Noise
variable (noise : Noise) (x z : Coord) (a b c d : Cell)

theorem toInt_roll_nonneg : 0 ≤ (noise.roll x z).toInt :=
  toInt_div_nonneg (toInt_and_nonneg _) (by decide)

theorem chooseTwo_eq : noise.chooseTwo x z a b = a ∨ noise.chooseTwo x z a b = b := by
  unfold chooseTwo
  split
  · exact Or.inl rfl
  · exact Or.inr rfl

theorem chooseFour_mem : noise.chooseFour x z a b c d ∈ [a, b, c, d] := by
  simp only [chooseFour]
  split
  · simp
  · split
    · simp
    · split <;> simp

/-- An interpolation copies one of the four cells. -/
theorem interpolate_mem (blockX blockZ : Coord) (placeX placeZ : Nat)
    (corner right below across : Cell) :
    noise.interpolate blockX blockZ placeX placeZ corner right below across ∈
      [corner, right, below, across] := by
  unfold interpolate
  split
  · exact List.mem_cons_self
  · rcases noise.chooseTwo_eq blockX (blockZ + 1) corner below with heq | heq <;> simp [heq]
  · rcases noise.chooseTwo_eq blockX (blockZ - 1) corner right with heq | heq <;> simp [heq]
  · exact noise.chooseFour_mem ..

end Noise

/-- A land group drawn from a number that is not negative. -/
theorem toInt_drawnGroup {n divisor : Int32} (hn : 0 ≤ n.toInt) (hdivisor : 0 < divisor.toInt) :
    1 ≤ (n / divisor % Group.maxLand + 1).toInt ∧ (n / divisor % Group.maxLand + 1).toInt ≤ 4 := by
  have hquotient := toInt_div_nonneg hn hdivisor
  have hremainder : (n / divisor % Group.maxLand).toInt = (n / divisor).toInt.tmod 4 :=
    Int32.toInt_mod ..
  have hlow := Int.tmod_nonneg 4 hquotient
  have hhigh := Int.tmod_lt_of_pos (n / divisor).toInt (by decide : (0 : Int) < 4)
  have hsum :
      (n / divisor % Group.maxLand + 1).toInt = (n / divisor % Group.maxLand).toInt + 1 := by
    rw [Int32.toInt_add, Int32.toInt_one]
    exact Int.bmod_eq_of_le_mul_two (by omega) (by omega)
  omega

theorem contains_drawnGroup {n divisor : Int32} (hn : 0 ≤ n.toInt) (hdivisor : 0 < divisor.toInt) :
    Alphabet.group.contains (n / divisor % Group.maxLand + 1) = true := by
  obtain ⟨hlow, hhigh⟩ := toInt_drawnGroup hn hdivisor
  refine (Bool.and_eq_true ..).mpr ⟨decide_eq_true ?_, decide_eq_true ?_⟩
  · rw [Int32.le_iff_toInt_le]
    exact Int.le_trans (by decide) hlow
  · rw [Int32.le_iff_toInt_le]
    exact hhigh

/-- A drawn group is land. -/
theorem drawnGroup_ne_ocean {n divisor : Int32} (hn : 0 ≤ n.toInt) (hdivisor : 0 < divisor.toInt) :
    n / divisor % Group.maxLand + 1 ≠ Group.ocean.id := by
  intro h
  have hlow := (toInt_drawnGroup hn hdivisor).1
  rw [h] at hlow
  exact absurd hlow (by decide)

/-! ## Tiles of an alphabet -/

/-- Every cell of the tile holds a member of the alphabet. -/
def Grid.Within (tile : Grid) (alphabet : Alphabet) : Prop :=
  ∀ value ∈ tile.values, alphabet.contains value = true

namespace Grid
variable {tile grid overlay : Grid} {alphabet : Alphabet} {noise : Noise} {size : Size}
  {minX minZ : Coord}

theorem within_iff : tile.Within alphabet ↔
    ∀ x z value, tile.get x z = .ok value → alphabet.contains value = true := by
  constructor
  · intro h x z value hget; exact h value (mem_of_get hget)
  · intro h value hmem
    obtain ⟨x, z, hget⟩ := exists_get_of_mem hmem
    exact h x z value hget

/-- A tile whose cells are known one by one. -/
theorem within_of_get {width height : Nat} (hsize : tile.size = ⟨width, height⟩)
    (h : ∀ i j, i < width → j < height → ∃ value, tile.get i j = .ok value ∧
      alphabet.contains value = true) :
    tile.Within alphabet := by
  rw [within_iff]
  intro x z value hget
  have hin := get_lt hget
  rw [hsize] at hin
  obtain ⟨made, hmade, hcontains⟩ := h x z hin.1 hin.2
  rw [hget] at hmade
  cases hmade
  exact hcontains

/-- A doubling copies values. -/
theorem within_zoomed (hgrid : grid.Within alphabet)
    (h : grid.zoomed noise size minX minZ = .ok tile) :
    tile.Within alphabet := by
  rw [within_iff] at hgrid
  intro value hvalue
  obtain ⟨x, z, hmade⟩ := exists_doubledCell h hvalue
  have hcell := hmade
  obtain ⟨corner, hcorner, hcell⟩ := bind_eq_ok.mp hcell
  obtain ⟨right, hright, hcell⟩ := bind_eq_ok.mp hcell
  obtain ⟨below, hbelow, hcell⟩ := bind_eq_ok.mp hcell
  obtain ⟨across, hacross, hcell⟩ := bind_eq_ok.mp hcell
  rw [doubledCell_eq hcorner hright hbelow hacross] at hmade
  have hread : ∀ found ∈ [corner, right, below, across], alphabet.contains found = true := by
    simp only [List.mem_cons, List.not_mem_nil, or_false]
    rintro found (rfl | rfl | rfl | rfl)
    · exact hgrid _ _ _ hcorner
    · exact hgrid _ _ _ hright
    · exact hgrid _ _ _ hbelow
    · exact hgrid _ _ _ hacross
  cases hmade
  exact hread _ (noise.interpolate_mem ..)

theorem within_zero (h : zero minX minZ size = .ok tile) : tile.Within alphabet := by
  unfold zero at h
  split at h
  · cases h
    intro value hmem
    rw [(Array.mem_replicate.mp hmem).2]
    exact alphabet.contains_zero
  · cases h

/-- Pasting leaves no other values than those of the grid and of the tile. -/
theorem within_paste (hgrid : grid.Within alphabet) (htile : tile.Within alphabet) {pasted : Grid}
    (h : grid.paste tile = .ok pasted) : pasted.Within alphabet := by
  obtain ⟨x, z, hplace, -, hat, -⟩ := paste_eq_ok h
  rw [within_iff] at hgrid htile ⊢
  intro i j value hget
  have hin := get_lt hget
  rw [hat.size_eq] at hin
  rw [get_of_paste h hplace hin.1 hin.2] at hget
  split at hget
  · exact htile _ _ value hget
  · exact hgrid _ _ value hget

end Grid

/-! ## Rules -/

theorem Source.contains_draw (source : Source) (noise : Noise) (x z : Coord) :
    source.writes.contains (source.draw noise x z) = true := by
  cases source with
  | choice range => rfl
  | landOcean threshold =>
      simp only [draw, writes]
      split
      · exact contains_drawnGroup (noise.toInt_roll_nonneg x z) (by decide)
      · decide

theorem Source.within {source : Source} {noise : Noise} {size : Size}
    {minX minZ : Coord} {tile : Grid} (h : source.generate noise size minX minZ = .ok tile) :
    tile.Within source.writes := by
  obtain ⟨hat, hcells⟩ := Source.cells_of_generate h
  refine Grid.within_of_get hat.size_eq fun i j hi hj => ⟨_, hcells i j hi hj, ?_⟩
  split
  · cases source with
    | choice range => rfl
    | landOcean threshold => exact Alphabet.contains_group_iff.mpr ⟨.temperate, rfl⟩
  · exact source.contains_draw noise _ _

theorem CrossRule.contains_apply {rule : CrossRule} {found : Alphabet} {noise : Noise}
    {cross : Cross} {x z : Coord} (hfits : rule.Fits found)
    (hcross : ∀ value ∈ cross.center :: cross.neighbours, found.contains value = true) :
    (rule.writes found).contains (rule.apply noise cross x z) = true := by
  have hcenter : found.contains cross.center = true := hcross _ List.mem_cons_self
  have hread : rule.reads.contains cross.center = true :=
    Alphabet.contains_of_accepts hfits.accepts hcenter
  cases rule with
  | smooth => exact hcross _ (smoothed_mem noise cross x z)
  | beaches =>
      simp only [apply, beached, writes]
      split
      · exact Alphabet.contains_id _
      · exact hread
  | groupEdges =>
      have htemperate := Alphabet.contains_group_iff.mpr ⟨.temperate, rfl⟩
      simp only [apply, writes]
      rcases separated_cases cross with ⟨hkept, -⟩ | ⟨hmade, -⟩
      · rw [hkept]
        exact hread
      · rw [hmade]
        exact htemperate
  | biomeEdges =>
      simp only [apply, edged, writes]
      split
      · exact Alphabet.contains_id _
      · exact hread
  | river =>
      simp only [apply, bordered, writes]
      split <;> decide
  | addToOcean chance new =>
      have hfound := Alphabet.accepts_biome_iff.mp hfits.accepts
      simp only [apply, writes]
      split
      · exact hfound ▸ hfits.target new rfl
      · exact hread

theorem CrossRule.within {rule : CrossRule} {found : Alphabet} {noise : Noise} {size : Size}
    {haloed tile : Grid} {minX minZ : Coord} (hfits : rule.Fits found)
    (hhaloed : haloed.Within found) (h : rule.generate noise size haloed minX minZ = .ok tile) :
    tile.Within (rule.writes found) := by
  rw [Grid.within_iff] at hhaloed
  obtain ⟨hat, hcells⟩ := CrossRule.cells_of_generate h
  refine Grid.within_of_get hat.size_eq fun i j hi hj => ?_
  obtain ⟨cross, hcross, hcell⟩ := hcells i j hi hj
  refine ⟨_, hcell, contains_apply hfits ?_⟩
  obtain ⟨center, hcenter, hcross⟩ := bind_eq_ok.mp hcross
  obtain ⟨above, habove, hcross⟩ := bind_eq_ok.mp hcross
  obtain ⟨below, hbelow, hcross⟩ := bind_eq_ok.mp hcross
  obtain ⟨left, hleft, hcross⟩ := bind_eq_ok.mp hcross
  obtain ⟨right, hright, hcross⟩ := bind_eq_ok.mp hcross
  cases hcross
  simp only [Cross.neighbours, List.mem_cons, List.not_mem_nil, or_false]
  rintro value (rfl | rfl | rfl | rfl | rfl)
  · exact hhaloed _ _ _ hcenter
  · exact hhaloed _ _ _ habove
  · exact hhaloed _ _ _ hbelow
  · exact hhaloed _ _ _ hleft
  · exact hhaloed _ _ _ hright

theorem CellRule.contains_apply {rule : CellRule} {found : Alphabet} {noise : Noise}
    {value made : Cell} {x z : Coord} (hfits : rule.Fits found)
    (hvalue : found.contains value = true) (h : rule.apply noise value x z = .ok made) :
    (rule.writes found).contains made = true := by
  have hread : rule.reads.contains value = true := Alphabet.contains_of_accepts hfits.accepts hvalue
  cases rule with
  | addIslands chance =>
      cases h
      simp only [writes]
      split
      · exact contains_drawnGroup (noise.toInt_roll_nonneg x z) (by decide)
      · exact hread
  | replaceRandomly old new chance =>
      cases h
      simp only [writes]
      split
      · exact hfits.target new rfl
      · exact hvalue
  | setRandomly chance new =>
      cases h
      simp only [writes]
      split
      · exact hfits.target new rfl
      · exact hvalue
  | rareGroups chance =>
      cases h
      simp only [writes]
      split
      · exact (Alphabet.contains_rareGroup hread).2
      · exact (Alphabet.contains_rareGroup hread).1
  | materialize table =>
      simp only [apply, drawn] at h
      split at h
      · cases h
        exact Alphabet.contains_id _
      · cases h

theorem CellRule.within {rule : CellRule} {found : Alphabet} {noise : Noise}
    {grid tile : Grid} {minX minZ : Coord}
    (hfits : rule.Fits found) (hgrid : grid.Within found)
    (h : rule.generate noise grid minX minZ = .ok tile) :
    tile.Within (rule.writes found) := by
  rw [Grid.within_iff] at hgrid
  obtain ⟨-, hat, hcells⟩ := Grid.mapColumns_eq_ok_iff.mp h
  rw [Grid.within_iff]
  intro x z made hmade
  obtain ⟨value, hvalue⟩ : ∃ value, grid.get x z = .ok value :=
    Grid.exists_get (hat.size_eq ▸ (Grid.get_lt hmade).1) (hat.size_eq ▸ (Grid.get_lt hmade).2)
  exact contains_apply hfits (hgrid x z value hvalue) ((hcells x z value hvalue).trans hmade)

theorem BlendRule.contains_apply (rule : BlendRule) {value other : Cell}
    (hvalue : Alphabet.biome.contains value = true) :
    Alphabet.biome.contains (rule.apply value other) = true := by
  have hmasked : ∀ counterpart,
      Alphabet.biome.contains (masked counterpart value other) = true := by
    intro counterpart
    unfold masked
    split
    · exact hvalue
    · split
      · exact Alphabet.contains_id _
      · exact hvalue
  cases rule with
  | alternateBiomes | mVariants => exact hmasked _
  | mixRivers =>
      simp only [apply, withRiver]
      split
      · exact hvalue
      · split <;> exact Alphabet.contains_id _

/-- What the second tile holds does not matter. -/
theorem BlendRule.within {rule : BlendRule} {found overlay : Alphabet} {base second tile : Grid}
    (hfits : rule.Fits found overlay) (hbase : base.Within found)
    (h : base.blend second rule.apply = .ok tile) :
    tile.Within .biome := by
  cases Alphabet.accepts_biome_iff.mp hfits.accepts
  rw [Grid.within_iff] at hbase
  obtain ⟨-, hat, hcells⟩ := Grid.blend_eq_ok_iff.mp h
  refine Grid.within_of_get hat.size_eq fun i j hi hj => ?_
  obtain ⟨value, hvalue⟩ := Grid.exists_get hi hj
  obtain ⟨other, -, hmade⟩ := hcells i j value hvalue
  exact ⟨_, hmade, rule.contains_apply (hbase i j value hvalue)⟩

end BiomeAtlas
