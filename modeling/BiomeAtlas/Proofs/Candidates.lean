import Mathlib.Data.Nat.Bitwise
import BiomeAtlas.Proofs.Passes
import BiomeAtlas.Proofs.Provenance

/-! # Candidates

One stage packs the rare flag into the number of a group, and a later one takes the two apart again
by bit masks. The masks are remainders: the bits below the flag are the value modulo 1024, and the
flag is set where the value modulo 2048 is not below 1024, for negative values too
(`toNatClampNeg_and_mask`, `and_rareFlag_eq_zero_iff`). So any value at all draws from the list of
some group, which a table without empty lists fills (`CandidateTable.exists_group`), and the value
that the first stage has made of a group draws from the rare list of that group where the roll of
the first stage succeeded, from the normal list elsewhere (`CandidateTable.candidates_tagged`). The
roll of the second stage picks the entry (`CandidateTable.rare_roll_selects_list`).
-/
namespace BiomeAtlas

/-! ## The flag -/

/-- The bits below the flag are a remainder. -/
theorem toNatClampNeg_and_mask (value : Cell) :
    (value &&& (rareFlag - 1)).toNatClampNeg = (value.toInt % 1024).toNat := by
  have hmasked : (value &&& (rareFlag - 1)).toBitVec.toNat = value.toBitVec.toNat % 1024 := by
    change value.toBitVec.toNat &&& 2 ^ 10 - 1 = _
    rw [Nat.and_two_pow_sub_one_eq_mod]
  have hlt : value.toBitVec.toNat < 2 ^ 32 := value.toBitVec.isLt
  change (value &&& (rareFlag - 1)).toBitVec.toInt.toNat = (value.toBitVec.toInt % 1024).toNat
  rw [BitVec.toInt_eq_toNat_cond, BitVec.toInt_eq_toNat_cond, hmasked]
  split <;> split <;> omega

/-- Values without the flag are those in the lower half of a period. -/
theorem and_rareFlag_eq_zero_iff (value : Cell) :
    value &&& rareFlag = 0 ↔ value.toInt % 2048 < 1024 := by
  have hflag : value &&& rareFlag = 0 ↔ value.toBitVec.toNat &&& 2 ^ 10 = 0 := by
    rw [← Int32.toBitVec_inj, ← BitVec.toNat_inj]
    rfl
  have hbit : value.toBitVec.toNat &&& 2 ^ 10 = 0 ↔ value.toBitVec.toNat / 1024 % 2 = 0 := by
    rw [Nat.and_two_pow, Nat.testBit_eq_decide_div_mod_eq]
    rcases Nat.mod_two_eq_zero_or_one (value.toBitVec.toNat / 2 ^ 10) with h | h <;> simp
  have hlt : value.toBitVec.toNat < 2 ^ 32 := value.toBitVec.isLt
  rw [hflag, hbit]
  change _ ↔ value.toBitVec.toInt % 2048 < 1024
  rw [BitVec.toInt_eq_toNat_cond]
  split <;> omega

theorem Group.toInt_id_wrapping (n : Nat) : (wrapping n).id.toInt = (n % 5 : Nat) := by
  have hlt : n % 5 < 5 := Nat.mod_lt _ (by decide)
  unfold wrapping
  generalize n % 5 = position at hlt
  match position, hlt with
  | 0, _ | 1, _ | 2, _ | 3, _ | 4, _ => rfl

/-! ## Chances -/

namespace Noise
variable {noise : Noise} {x z : Coord} {chance : Int32}

/-- A chance of nothing never succeeds. -/
theorem rollPermille_of_le (h : chance.toInt ≤ 0) : noise.rollPermille x z chance = false := by
  refine decide_eq_false fun hlt => ?_
  rw [Int32.lt_iff_toInt_lt, Int32.toInt_mod] at hlt
  have hnonneg : 0 ≤ (noise.roll x z).toInt.tmod 1000 :=
    Int.tmod_nonneg _ (noise.toInt_roll_nonneg x z)
  exact absurd (Int.lt_of_le_of_lt hnonneg hlt) (Int.not_lt.mpr h)

/-- A chance of a thousand out of a thousand always succeeds. -/
theorem rollPermille_of_ge (h : 1000 ≤ chance.toInt) : noise.rollPermille x z chance = true := by
  refine decide_eq_true ?_
  rw [Int32.lt_iff_toInt_lt, Int32.toInt_mod]
  exact Int.lt_of_lt_of_le (Int.tmod_lt_of_pos _ (by decide)) h

end Noise

/-! ## Drawing from a list -/

/-- The value is the entry of the list at the roll modulo the length of the list. -/
def RolledFrom (roll : Int32) (entries : List Biome) (value : Cell) : Prop :=
  ∃ i : Fin entries.length, (i.val : Int) = roll.toInt % entries.length ∧ value = entries[i].id

theorem RolledFrom.exists_mem {roll : Int32} {entries : List Biome} {value : Cell}
    (h : RolledFrom roll entries value) :
    ∃ biome ∈ entries, value = biome.id := by
  obtain ⟨i, -, hvalue⟩ := h
  exact ⟨entries[i], List.getElem_mem i.isLt, hvalue⟩

/-- If two lists have nothing in common, a biome drawn from one of them tells from which. -/
theorem RolledFrom.exists_mem_iff {roll : Int32} {rare normal : List Biome} {isRare : Bool}
    {value : Cell} (hdisjoint : rare.Disjoint normal)
    (h : RolledFrom roll (if isRare then rare else normal) value) :
    (∃ biome ∈ rare, value = biome.id) ↔ isRare = true := by
  obtain ⟨drawn, hdrawn, hvalue⟩ := h.exists_mem
  cases isRare with
  | true => exact iff_of_true ⟨drawn, hdrawn, hvalue⟩ rfl
  | false =>
      refine iff_of_false ?_ (by decide)
      rintro ⟨biome, hbiome, hid⟩
      rw [Biome.eq_of_id_eq (hvalue.symm.trans hid)] at hdrawn
      exact hdisjoint hbiome hdrawn

/-- A list with entries always has one to draw. -/
theorem CellRule.exists_drawn (noise : Noise) (x z : Coord) {entries : List Biome}
    (h : entries ≠ []) :
    ∃ cell, drawn noise x z entries = .ok cell ∧ RolledFrom (noise.roll x z) entries cell := by
  have hlt : (noise.roll x z).toNatClampNeg % entries.length < entries.length :=
    Nat.mod_lt _ (List.length_pos_iff.mpr h)
  refine ⟨(entries[(noise.roll x z).toNatClampNeg % entries.length]).id, ?_, ⟨_, hlt⟩, ?_, rfl⟩
  · rw [drawn, List.getElem?_eq_getElem hlt]
  · change (((noise.roll x z).toInt.toNat % entries.length : Nat) : Int) = _
    rw [Int.natCast_emod, Int.toNat_of_nonneg (noise.toInt_roll_nonneg x z)]

/-! ## The list that a value draws from -/

namespace CandidateTable
variable (table : CandidateTable)

/-- The value modulo 1024 counts around the groups, and the bit above tells the two lists of the
group apart. -/
theorem exists_group (value : Cell) : ∃ group : Group, group.id.toInt = value.toInt % 1024 % 5 ∧
    table.candidates value =
      (if value.toInt % 2048 < 1024 then table.normal else table.rare).get group := by
  refine ⟨Group.wrapping (value &&& (rareFlag - 1)).toNatClampNeg, ?_, ?_⟩
  · have hnonneg : 0 ≤ value.toInt % 1024 := Int.emod_nonneg _ (by decide)
    rw [Group.toInt_id_wrapping, toNatClampNeg_and_mask, Int.natCast_emod,
      Int.toNat_of_nonneg hnonneg]
    rfl
  · simp only [candidates, and_rareFlag_eq_zero_iff]
    split <;> rfl

/-- **What one stage has packed, the other takes apart.** -/
theorem candidates_tagged (noise : Noise) (chance : Int32) (group : Group) (x z : Coord) :
    table.candidates ((CellRule.rareGroups chance).value noise group.id x z) =
      if noise.rollPermille x z chance then table.rare.get group else table.normal.get group := by
  simp only [CellRule.value, CellRule.apply]
  split <;> cases group <;> rfl

/-- A table without empty lists gives every value whatever something to draw. -/
theorem Complete.exists_materialized {table : CandidateTable} (h : table.Complete) (noise : Noise)
    (value : Cell) (x z : Coord) :
    ∃ cell, (CellRule.materialize table).apply noise value x z = .ok cell ∧
      RolledFrom (noise.roll x z) (table.candidates value) cell :=
  CellRule.exists_drawn noise x z (h.candidates_ne_nil value)

theorem Complete.rolledFrom_materialize {table : CandidateTable} (h : table.Complete)
    (noise : Noise) (value : Cell) (x z : Coord) :
    RolledFrom (noise.roll x z) (table.candidates value)
      ((CellRule.materialize table).value noise value x z) := by
  obtain ⟨cell, hmade, hrolled⟩ := h.exists_materialized noise value x z
  rw [CellRule.value, hmade]
  exact hrolled

end CandidateTable

/-! ## Tagging and drawing -/

namespace CellRule
variable {column : Coord → Coord → Cell} {table : CandidateTable}

/-- Both passes together: at a group, the first roll chooses the list and the second one its
entry. -/
theorem rolledFrom_pass (htable : table.Complete) (tags draws : Noise) (chance : Int32)
    {group : Group} {x z : Coord} (hgroup : column x z = group.id) : RolledFrom (draws.roll x z)
      (if tags.rollPermille x z chance then table.rare.get group else table.normal.get group)
      ((materialize table).pass draws ((rareGroups chance).pass tags column) x z) := by
  have htag :
      (rareGroups chance).pass tags column x z = (rareGroups chance).value tags group.id x z := by
    rw [pass, hgroup]
  rw [← table.candidates_tagged tags chance group x z, ← htag]
  exact htable.rolledFrom_materialize draws _ x z

/-- Both stages together can be put on top of every stage of groups, and draw both passes of the map
that this stage draws. -/
theorem exists_stages {chance : Int32} (hchance : 0 ≤ chance ∧ chance ≤ 1000)
    (htable : table.validate = .ok ()) (seed seed' : Int32) {input : Stage}
    (hinput : input.alphabet = .group) :
    ∃ tagged made, Stage.ofCell (.rareGroups chance) seed input = .ok tagged ∧
      Stage.ofCell (.materialize table) seed' tagged = .ok made ∧
      ∀ minX minZ store, input.size.cells < cellLimit → input.Draws column minX minZ store →
        made.Draws ((materialize table).pass ⟨seed'⟩ ((rareGroups chance).pass ⟨seed⟩ column))
          minX minZ store := by
  let tagged : Stage := .cell (.rareGroups chance) ⟨seed⟩ input
  have htagged : Stage.ofCell (.rareGroups chance) seed input = .ok tagged := by
    refine Stage.ofCell_eq_ok_iff.mpr ⟨⟨hchance, trivial, fun value hvalue => ?_, ?_⟩, rfl⟩
    · cases hvalue
    · rw [hinput]
      rfl
  have hmade : Stage.ofCell (.materialize table) seed' tagged =
      .ok (.cell (.materialize table) ⟨seed'⟩ tagged) := by
    refine Stage.ofCell_eq_ok_iff.mpr
      ⟨⟨trivial, CandidateTable.validate_eq_ok_iff.mp htable, fun value hvalue => ?_, rfl⟩, rfl⟩
    cases hvalue
  refine ⟨_, _, htagged, hmade, fun minX minZ store hroom hdraws => ?_⟩
  exact turns_pass _ seed' _ _ _ _ _ _ hmade hroom
    (turns_pass _ seed column _ _ _ _ _ htagged hroom hdraws)

/-- **The rare roll selects the list.** Over any map of groups, tags for a chance in range and
biomes from a table without empty lists make a map of biomes. A column where the first roll succeeds
holds an entry of the rare list of its group, any other column an entry of the normal list, and the
second roll is the index. If the lists have nothing in common, the biome alone tells whether the
first roll has succeeded. No value that a tile can hold leaves the second stage without a list to
draw from. -/
theorem rare_roll_selects_list (column : Coord → Coord → Cell) (chance seed seed' : Int32)
    (table : CandidateTable) (hchance : 0 ≤ chance ∧ chance ≤ 1000)
    (htable : table.validate = .ok ()) :
    let tags := (rareGroups chance).pass ⟨seed⟩ column
    let biomes := (materialize table).pass ⟨seed'⟩ tags
    let isRare := fun x z => Noise.rollPermille ⟨seed⟩ x z chance
    let roll := Noise.roll ⟨seed'⟩
    (∀ input : Stage, input.alphabet = .group → ∃ tagged made,
      Stage.ofCell (.rareGroups chance) seed input = .ok tagged ∧
      Stage.ofCell (.materialize table) seed' tagged = .ok made ∧
      ∀ minX minZ store, input.size.cells < cellLimit → input.Draws column minX minZ store →
        made.Draws biomes minX minZ store) ∧
    (∀ x z (group : Group), column x z = group.id →
      (isRare x z = true → RolledFrom (roll x z) (table.rare.get group) (biomes x z)) ∧
      (isRare x z = false → RolledFrom (roll x z) (table.normal.get group) (biomes x z)) ∧
      (List.Disjoint (table.rare.get group) (table.normal.get group) →
        ((∃ biome ∈ table.rare.get group, biomes x z = biome.id) ↔ isRare x z = true))) ∧
    (∀ x z, (chance = 1000 → isRare x z = true) ∧ (chance = 0 → isRare x z = false)) ∧
    ∀ value : Cell, (∃ group : Group, group.id.toInt = value.toInt % 1024 % 5 ∧
        table.candidates value =
          (if value.toInt % 2048 < 1024 then table.normal else table.rare).get group) ∧
      table.candidates value ≠ [] ∧
      ∀ noise x z, ∃ cell, (materialize table).apply noise value x z = .ok cell ∧
        RolledFrom (noise.roll x z) (table.candidates value) cell := by
  intro tags biomes isRare roll
  have hcomplete := CandidateTable.validate_eq_ok_iff.mp htable
  refine ⟨fun input => exists_stages hchance htable seed seed', fun x z group hgroup => ?_,
    fun x z => ⟨?_, ?_⟩, fun value =>
    ⟨table.exists_group value, hcomplete.candidates_ne_nil value,
      fun noise x z => hcomplete.exists_materialized noise value x z⟩⟩
  · have hrolled : RolledFrom (roll x z)
        (if isRare x z then table.rare.get group else table.normal.get group) (biomes x z) :=
      rolledFrom_pass hcomplete ⟨seed⟩ ⟨seed'⟩ chance hgroup
    refine ⟨fun hrare => ?_, fun hnormal => ?_, fun hdisjoint => hrolled.exists_mem_iff hdisjoint⟩
    · rwa [if_pos hrare] at hrolled
    · rwa [hnormal] at hrolled
  · rintro rfl
    exact Noise.rollPermille_of_ge (by decide)
  · rintro rfl
    exact Noise.rollPermille_of_le (by decide)

/-- One column of twenty in a temperate world asks for the rare list: at the column 20 grows the
jungle that the list consists of, at the column 0 the fifth entry of the normal list. -/
theorem jungle_from_rare_roll :
    let biomes :=
      (materialize .standard).pass ⟨28⟩ ((rareGroups 50).pass ⟨27⟩ fun _ _ => Group.temperate.id)
    ((0 : Int32) ≤ 50 ∧ (50 : Int32) ≤ 1000) ∧ CandidateTable.standard.validate = .ok () ∧
      biomes 20 0 = Biome.jungle.id ∧ biomes 0 0 = Biome.plains.id := by
  have hchance : (0 : Int32) ≤ 50 ∧ (50 : Int32) ≤ 1000 := by decide
  have htable : CandidateTable.standard.validate = .ok () := rfl
  obtain ⟨-, hlists, -⟩ :=
    rare_roll_selects_list (fun _ _ => Group.temperate.id) 50 27 28 .standard hchance htable
  obtain ⟨hrare, -⟩ := hlists 20 0 .temperate rfl
  obtain ⟨-, hnormal, -⟩ := hlists 0 0 .temperate rfl
  refine ⟨hchance, htable, ?_, ?_⟩
  · obtain ⟨biome, hmem, hbiome⟩ := (hrare (by decide +kernel)).exists_mem
    rw [hbiome, List.mem_singleton.mp hmem]
  · obtain ⟨i, hi, hbiome⟩ := hnormal (by decide +kernel)
    have hroll : (Noise.roll ⟨28⟩ 0 0).toInt % (7 : Nat) = 4 := by decide +kernel
    have hindex : i = (4 : Fin 7) := Fin.ext (Int.ofNat.inj (hi.trans hroll))
    rw [hbiome, hindex]
    rfl

/-- **Where the two lists of a group share a biome, it tells nothing of the roll**: both lists of
the open water hold the ocean alone, and a chance of nothing draws it from the normal one. -/
theorem shared_entries_hide_roll : ¬ ∀ (column : Coord → Coord → Cell) (chance seed seed' : Int32)
    (table : CandidateTable), 0 ≤ chance ∧ chance ≤ 1000 → table.validate = .ok () →
    ∀ x z (group : Group), column x z = group.id →
      ((∃ biome ∈ table.rare.get group,
          (materialize table).pass ⟨seed'⟩ ((rareGroups chance).pass ⟨seed⟩ column) x z =
            biome.id) ↔
        Noise.rollPermille ⟨seed⟩ x z chance = true) := by
  intro h
  have hvalid : CandidateTable.standard.validate = .ok () := rfl
  have hcomplete := CandidateTable.validate_eq_ok_iff.mp hvalid
  let sea : Coord → Coord → Cell := fun _ _ => Group.ocean.id
  have hsea : sea 0 0 = Group.ocean.id := rfl
  have hdrawn := rolledFrom_pass hcomplete ⟨27⟩ ⟨28⟩ 0 hsea
  have hfails : Noise.rollPermille ⟨27⟩ 0 0 0 = false := Noise.rollPermille_of_le (by decide)
  rw [hfails] at hdrawn
  -- the normal list, which the biome is drawn from, is the rare list too
  have hsucceeds :=
    (h sea 0 27 28 .standard (by decide) hvalid 0 0 .ocean hsea).mp hdrawn.exists_mem
  rw [hfails] at hsucceeds
  cases hsucceeds

end CellRule

end BiomeAtlas
