import BiomeAtlas.Biome.Basic

/-! # Climate groups

Coarse stages do not know biomes yet, only five climate groups. A group can carry the rare flag, one
bit that is packed into the same cell value; it asks for a biome from the rare list of the group.

`CandidateTable` holds both lists of every group. `CandidateTable.candidates` reads one of them off
any cell value: the flag selects the table, and the bits below the flag select the group, wrapping
at the number of groups. -/

namespace BiomeAtlas

/-- The climate groups, in the order of their numbers. -/
inductive Group where
  /-- Open water, and the value of cells nothing has been placed in. -/
  | ocean
  /-- Hot and dry land. -/
  | desert
  /-- Neutral land, which also replaces implausible neighbours. -/
  | temperate
  /-- Hills and highland forests. -/
  | mountains
  /-- Frozen land. -/
  | ice
  deriving DecidableEq, Repr

namespace Group

/-- The groups in the order of their numbers. -/
def all : List Group := [ocean, desert, temperate, mountains, ice]

/-- The number of groups, open water included. -/
def count : Nat := all.length

/-- The number stored in cells. -/
def id : Group → Cell
  | ocean => 0
  | desert => 1
  | temperate => 2
  | mountains => 3
  | ice => 4

/-- The largest number of a land group. -/
def maxLand : Cell := ice.id

/-- The name used in messages. -/
def name : Group → String
  | ocean => "ocean"
  | desert => "desert"
  | temperate => "temperate"
  | mountains => "mountains"
  | ice => "ice"

/-- The group at a position, counting around. -/
def wrapping (n : Nat) : Group :=
  match n % 5 with
  | 0 => ocean
  | 1 => desert
  | 2 => temperate
  | 3 => mountains
  | _ => ice

/-- The name of the group with a given number. -/
def nameOf (n : Nat) : String :=
  (all[n]?.map name).getD "unknown"

end Group

/-- The bit that marks a group as rare. -/
def rareFlag : Cell := 1024

/-- Whether a cell value is the number of a group. -/
def isGroup (value : Cell) : Bool :=
  decide (0 ≤ value) && decide (value ≤ Group.maxLand)

/-- Whether a cell value is the number of a group, with or without the rare flag. -/
def isRareGroup (value : Cell) : Bool :=
  isGroup (value &&& ~~~rareFlag)

/-- One entry for every group. -/
structure ByGroup (α : Type) where
  ocean : α
  desert : α
  temperate : α
  mountains : α
  ice : α
  deriving DecidableEq, Repr

namespace ByGroup

variable {α : Type}

/-- The entry of a group. -/
def get (entries : ByGroup α) : Group → α
  | .ocean => entries.ocean
  | .desert => entries.desert
  | .temperate => entries.temperate
  | .mountains => entries.mountains
  | .ice => entries.ice

/-- The entries in the order of the groups. -/
def toList (entries : ByGroup α) : List α :=
  Group.all.map entries.get

/-- Entries in the order of the groups, one for each. -/
def ofList? : List α → Option (ByGroup α)
  | [a, b, c, d, e] => some ⟨a, b, c, d, e⟩
  | _ => none

theorem ofList?_toList (entries : ByGroup α) : ofList? entries.toList = some entries := rfl

end ByGroup

/-- The biomes a group can turn into. An entry that occurs several times is drawn more often. -/
structure CandidateTable where
  /-- Candidates of groups without the rare flag. -/
  normal : ByGroup (List Biome)
  /-- Candidates of groups with the rare flag. -/
  rare : ByGroup (List Biome)
  deriving DecidableEq, Repr

namespace CandidateTable

open Biome in
/-- The candidates of a world that is not configured otherwise. -/
def standard : CandidateTable where
  normal := {
    ocean := [ocean]
    desert := [desert, desert, desert, desert, desert, desert, savanna, savanna, plains]
    temperate := [forest, forest, roofedForest, extremeHills, plains, birchForest, swampland]
    mountains := [extremeHills, forest, taiga, plains]
    ice := [icePlains, icePlains, icePlains, icePlains, coldTaiga] }
  rare := {
    ocean := [ocean]
    desert := [mesaPlateau, mesaPlateauF]
    temperate := [jungle]
    mountains := [megaTaiga]
    ice := [icePlains, icePlains, icePlains, icePlains, coldTaiga] }

/-- The list a cell value draws from. -/
def candidates (table : CandidateTable) (value : Cell) : List Biome :=
  let group := Group.wrapping (value &&& (rareFlag - 1)).toNatClampNeg
  if value &&& rareFlag = 0 then table.normal.get group else table.rare.get group

/-- The first group with an empty list, the lists without the flag first; the second component tells
the lists apart. -/
def firstEmpty? (table : CandidateTable) : Option (Group × Bool) :=
  match Group.all.find? fun group => (table.normal.get group).isEmpty with
  | some group => some (group, false)
  | none =>
      (Group.all.find? fun group => (table.rare.get group).isEmpty).map fun group => (group, true)

end CandidateTable

end BiomeAtlas
