import BiomeAtlas.Proofs.Passes
import BiomeAtlas.Proofs.Values

/-! # Shores

Land at the coast, that is beside open water, turns into the beach that belongs to it. The rule only
looks at where the open water is, and of biomes it moves none of it: no land has open water for a
beach (`CrossRule.isOcean_beached`). So on the map that comes out, the same columns lie at the coast
as before. A second pass lays beaches at the same columns again, and since every beach of the table
is its own beach (`beachOf_beachOf`), it changes nothing (`CrossRule.beaches_keep_coastline`).

On other maps than those of biomes the table may make open water out of land, as its positions are
remainders.
-/
namespace BiomeAtlas

/-! ## Beaches -/

/-- The table of beaches maps each of its entries to itself, so the beach of a beach is the
beach. -/
theorem beachOf_beachOf (value : Cell) : beachOf (beachOf value) = beachOf value := by
  have hentries : ∀ i : Fin Biome.beaches.size,
      beachOf Biome.beaches[i].id = Biome.beaches[i].id := by
    decide
  exact hentries (beachIndex value)

/-- No land has open water for a beach. -/
theorem Biome.dry_beachOf {biome : Biome} (h : isOcean biome.id = false) :
    isOcean (beachOf biome.id) = false := by
  revert h
  cases biome <;> decide

namespace CrossRule
variable {noise noise' : Noise} {cross : Cross} {column : Coord → Coord → Cell} {x z : Coord}

/-! ## One column -/

theorem beached_of_coast {side : Side} (hland : isOcean cross.center = false)
    (hside : isOcean (cross.get side) = true) :
    beached cross = beachOf cross.center := by
  rw [beached, hland, Cross.any_neighbours_iff.mpr ⟨side, hside⟩]
  rfl

/-- A column keeps its value, or it is land at a coast and turns into its beach. -/
theorem beached_cases (cross : Cross) : beached cross = cross.center ∨
    (isOcean cross.center = false ∧ ∃ side, isOcean (cross.get side) = true) ∧
    beached cross = beachOf cross.center := by
  by_cases hcoast : isOcean cross.center = false ∧ ∃ side, isOcean (cross.get side) = true
  · obtain ⟨hland, side, hside⟩ := hcoast
    exact .inr ⟨⟨hland, side, hside⟩, beached_of_coast hland hside⟩
  · refine .inl ?_
    unfold beached
    split
    · rename_i hbeach
      obtain ⟨hland, hany⟩ := (Bool.and_eq_true ..).mp hbeach
      exact absurd ⟨Bool.not_eq_true' _ |>.mp hland, Cross.any_neighbours_iff.mp hany⟩ hcoast
    · rfl

/-- **Open water stays where it is**, and land stays land. -/
theorem isOcean_beached (hbiome : Alphabet.biome.contains cross.center = true) :
    isOcean (beached cross) = isOcean cross.center := by
  rcases beached_cases cross with hkept | ⟨⟨hland, -⟩, hbeach⟩
  · rw [hkept]
  · obtain ⟨biome, hid⟩ := Alphabet.contains_biome_iff.mp hbiome
    rw [hbeach, hland]
    rw [← hid] at hland ⊢
    exact Biome.dry_beachOf hland

/-! ## One pass and another -/

theorem isOcean_pass_beaches (noise : Noise)
    (hbiomes : ∀ x z, Alphabet.biome.contains (column x z) = true) (x z : Coord) :
    isOcean (beaches.pass noise column x z) = isOcean (column x z) :=
  @isOcean_beached (Cross.at column x z) (hbiomes x z)

/-- Away from open water nothing changes. -/
theorem pass_beaches_of_inland (h : ∀ side : Side, isOcean (side.beside column x z) = false) :
    beaches.pass noise column x z = column x z := by
  rcases beached_cases (Cross.at column x z) with hkept | ⟨⟨-, side, hside⟩, -⟩
  · exact hkept
  · rw [Cross.get_at, h side] at hside
    cases hside

/-- **A second pass finds nothing to do**: it lays beaches where the first one laid them, and these
are their own beaches. -/
theorem pass_beaches_pass_beaches (hbiomes : ∀ x z, Alphabet.biome.contains (column x z) = true) :
    beaches.pass noise' (beaches.pass noise column) = beaches.pass noise column := by
  funext x z
  have hocean := isOcean_pass_beaches noise hbiomes
  rcases beached_cases (Cross.at (beaches.pass noise column) x z) with
    hkept | ⟨⟨hland, side, hside⟩, hbeach⟩
  · exact hkept
  · -- the column was land at a coast before the first pass too, so by now it is a beach
    rw [Cross.get_at] at hside
    have hbefore : isOcean (column x z) = false := (hocean x z).symm.trans hland
    have hcoast : isOcean (side.beside column x z) = true :=
      (hocean (x + side.dx) (z + side.dz)).symm.trans hside
    rw [← Cross.get_at] at hcoast
    have hfirst : beaches.pass noise column x z = beachOf (column x z) :=
      beached_of_coast hbefore hcoast
    calc beaches.pass noise' (beaches.pass noise column) x z
      _ = beachOf (beaches.pass noise column x z) := hbeach
      _ = beachOf (beachOf (column x z)) := by rw [hfirst]
      _ = beachOf (column x z) := beachOf_beachOf _
      _ = beaches.pass noise column x z := hfirst.symm

/-- **Beaches keep the coastline.** They turn every map of biomes into a map with open water at the
same columns, in which only columns beside open water may have changed. A further pass turns that
map into itself. -/
theorem beaches_keep_coastline (column : Coord → Coord → Cell) (seed : Int32)
    (hbiomes : ∀ x z, Alphabet.biome.contains (column x z) = true) :
    let shores := beaches.pass ⟨seed⟩ column
    beaches.Turns seed column shores ∧
    (∀ x z, isOcean (shores x z) = true ↔ isOcean (column x z) = true) ∧
    (∀ x z, (∀ side : Side, isOcean (side.beside column x z) = false) → shores x z = column x z) ∧
    ∀ again, beaches.Turns again shores shores := by
  intro shores
  refine ⟨turns_pass _ _ _, fun x z => ?_, fun x z hinland => pass_beaches_of_inland hinland,
    fun again => ?_⟩
  · rw [isOcean_pass_beaches _ hbiomes]
  · have hturns := turns_pass beaches again shores
    rwa [pass_beaches_pass_beaches hbiomes] at hturns

/-- West of a coast lies the deep ocean, east of it a rare kind of taiga. -/
def taigaCoast (x : Coord) : Biome :=
  if x < 0 then .deepOcean else .taigaM

/-- The first column of the taiga turns into a cold beach, for good; the ocean before it and the
taiga behind it stay. -/
theorem taigaCoast_beaches :
    let column : Coord → Coord → Cell := fun x _ => (taigaCoast x).id
    let shores := beaches.pass ⟨0⟩ column
    (∀ x z, Alphabet.biome.contains (column x z) = true) ∧
      isOcean (shores (-1) 0) = true ∧ shores 0 0 = Biome.coldBeach.id ∧
      shores 1 0 = Biome.taigaM.id ∧
      ∀ again, beaches.Turns again shores shores := by
  intro column shores
  have hbiomes : ∀ x z, Alphabet.biome.contains (column x z) = true :=
    fun x z => Alphabet.contains_id _
  obtain ⟨-, hocean, hinland, hagain⟩ := beaches_keep_coastline column 0 hbiomes
  exact ⟨hbiomes, (hocean (-1) 0).mpr (by decide), by decide,
    hinland 1 0 fun side => by cases side <;> decide, hagain⟩

end CrossRule
end BiomeAtlas
