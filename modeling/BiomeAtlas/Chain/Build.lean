import BiomeAtlas.Chain.Basic
import BiomeAtlas.Stage.Wiring

/-! # Building chains

`Chain.build` turns a chain into a stage that produces tiles of a requested size. The sizes are
found from the last step to the first; the stages are then wired from the first to the last, and the
first one that does not fit ends the building.

With a tile store every doubling keeps its tiles, also in secondary chains; its number comes from
the store. -/

namespace BiomeAtlas.Chain

/-- Computations that may number stages and may refuse a chain. -/
abbrev Building := StateT TileStore (Except BuildError)

/-- Refuses a chain unless its first step, and no other one, is a source. -/
def checkSources (chain : Chain) : Except BuildError Unit :=
  match chain.steps with
  | [] => .error .emptyChain
  | (first, _) :: later =>
    if first.isSource then
      match later.find? fun (kind, _) => kind.isSource with
      | some (kind, _) => .error (.misplacedSource kind.name)
      | none => .ok ()
    else
      .error (.missingSource first.name)

/-- Gives a doubling stage its place in the store, if there is one. -/
def shelve (cached : Bool) (stage : Stage) : Building Stage :=
  if cached then do
    let (shelved, store) := (Stage.ofCached stage).run (← get)
    set store
    return shelved
  else
    return stage

/-- The stages of a chain whose sources are in place. -/
def wire (cached : Bool) : Chain → Int32 → Size → Building Stage
  | empty, _, _ => throw .emptyChain
  | stage before layer offset, folded, size => do
    let seed := stageSeed folded offset
    match layer with
    | .source rule => Stage.ofSource rule seed size
    | .zoom => shelve cached (← Stage.ofZoom seed size (← before.wire cached folded size.halved))
    | .cross rule =>
      match size.haloed? with
      | none => throw .sizeOverflow
      | some haloed => Stage.ofCross rule seed size (← before.wire cached folded haloed)
    | .cell rule => Stage.ofCell rule seed (← before.wire cached folded size)
  | blend before rule secondary offset, folded, size => do
    let base ← before.wire cached folded size
    secondary.checkSources
    let overlay ← secondary.wire cached (stageSeed folded offset) size
    Stage.ofBlend rule base overlay

/-- The stage that a chain describes, for a folded world seed and a tile size. -/
def build (cached : Bool) (chain : Chain) (folded : Int32) (size : Size) : Building Stage := do
  chain.checkSources
  chain.wire cached folded size

end BiomeAtlas.Chain
