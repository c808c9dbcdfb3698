import BiomeAtlas.BuildError
import BiomeAtlas.Stage.Basic

/-! # Wiring

The functions of this module put stages on top of each other and refuse what does not fit: tiles
without cells, inputs of the wrong size or alphabet, chances out of range, values that the alphabet
of the result does not contain. A stage built only by these functions generates tiles at every
anchor. -/

namespace BiomeAtlas

/-- Refuses tiles without cells. -/
def Size.checkNonempty (size : Size) : Except BuildError Unit :=
  if size.isEmpty then .error (.emptyTile size) else .ok ()

/-- Refuses a value outside an alphabet. -/
def Alphabet.check (alphabet : Alphabet) (stage : String) (value : Cell) : Except BuildError Unit :=
  if alphabet.contains value then .ok () else .error (.valueOutsideAlphabet stage value alphabet)

namespace Stage

/-- Refuses this stage as the input of another one unless it has the size and an alphabet that are
asked for. -/
def checkInput (input : Stage) (reader : String) (size : Size) (reads : Alphabet) :
    Except BuildError Unit :=
  if input.size ≠ size then .error (.sizeMismatch reader size input.size)
  else if reads.accepts input.alphabet then .ok ()
  else .error (.alphabetMismatch reader reads input.alphabet)

/-- A source. -/
def ofSource (rule : Source) (seed : Int32) (size : Size) : Except BuildError Stage := do
  size.checkNonempty
  match rule with
  | .choice range => if range ≤ 0 then throw (.invalidRange range)
  | .landOcean threshold => checkPercent "land_threshold_percent" threshold
  return .source rule ⟨seed⟩ size

/-- Doubling of a coarser stage. -/
def ofZoom (seed : Int32) (size : Size) (coarser : Stage) : Except BuildError Stage := do
  size.checkNonempty
  coarser.checkInput "zoom" size.halved .region
  return .zoom ⟨seed⟩ size coarser

/-- A cross rule over a stage whose tiles have a halo. -/
def ofCross (rule : CrossRule) (seed : Int32) (size : Size) (input : Stage) :
    Except BuildError Stage := do
  match rule with
  | .addToOcean chance new =>
    Alphabet.biome.check rule.name new
    checkPermille "add_to_ocean_chance_permille" chance
  | _ => pure ()
  size.checkNonempty
  match size.haloed? with
  | none => throw .sizeOverflow
  | some haloed => input.checkInput rule.name haloed rule.reads
  return .cross rule ⟨seed⟩ size input

/-- A cell rule over a stage. -/
def ofCell (rule : CellRule) (seed : Int32) (input : Stage) : Except BuildError Stage := do
  match rule with
  | .addIslands chance =>
    input.checkInput rule.name input.size rule.reads
    checkPermille "island_chance_permille" chance
  | .replaceRandomly _ new chance =>
    input.alphabet.check rule.name new
    checkPermille "replace_chance_permille" chance
  | .setRandomly chance new =>
    input.alphabet.check rule.name new
    checkPermille "set_chance_permille" chance
  | .rareGroups chance =>
    input.checkInput rule.name input.size rule.reads
    checkPermille "rare_chance_permille" chance
  | .materialize table =>
    table.validate
    input.checkInput rule.name input.size rule.reads
  return .cell rule ⟨seed⟩ input

/-- A blend rule over a stage of biomes and a second stage. -/
def ofBlend (rule : BlendRule) (base overlay : Stage) : Except BuildError Stage := do
  base.checkInput rule.name base.size .biome
  overlay.checkInput rule.name base.size rule.readsOverlay
  return .blend rule base overlay

/-- A stage that keeps its tiles in a store. -/
def ofCached (input : Stage) : StateM TileStore Stage := do
  return .cached (← modifyGet TileStore.register) input

end Stage

end BiomeAtlas
