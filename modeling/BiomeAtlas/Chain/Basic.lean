import BiomeAtlas.BuildError
import BiomeAtlas.Stage.Blend
import BiomeAtlas.Stage.Cell
import BiomeAtlas.Stage.Cross
import BiomeAtlas.Stage.Source

/-! # Chains

A `Chain` describes stages before any tile size is known: a source, and then one stage after the
other, each with an offset that gives it a seed of its own. A stage that combines two tiles carries
the chain that yields its second tile.

`Chain.steps` reads a chain as a list, first stage first. -/

namespace BiomeAtlas

/-- A stage that reads at most one other stage. -/
inductive Layer where
  /-- Draws from noise. -/
  | source (rule : Source)
  /-- Doubles the resolution. -/
  | zoom
  /-- Looks at direct neighbours. -/
  | cross (rule : CrossRule)
  /-- Looks at single cells. -/
  | cell (rule : CellRule)
  deriving DecidableEq, Repr

namespace Layer

/-- The name of the stage. -/
def name : Layer → String
  | source rule => rule.name
  | zoom => "zoom"
  | cross rule => rule.name
  | cell rule => rule.name

/-- Whether the stage reads no other stage. -/
def isSource : Layer → Bool
  | source _ => true
  | _ => false

/-- The size of the tiles that the stage has to be given to produce tiles of some size; nothing for
a source. -/
def inputSize? : Layer → Size → Except BuildError (Option Size)
  | source _, _ => .ok none
  | zoom, size => .ok (some size.halved)
  | cross _, size =>
    match size.haloed? with
    | some haloed => .ok (some haloed)
    | none => .error .sizeOverflow
  | cell _, size => .ok (some size)

end Layer

/-- A sequence of stages, each with its seed offset. -/
inductive Chain where
  /-- No stages. -/
  | empty
  /-- One more stage behind the others. -/
  | stage (before : Chain) (layer : Layer) (offset : Int32)
  /-- One more stage behind the others, which combines their tiles with those of a secondary
  chain. -/
  | blend (before : Chain) (rule : BlendRule) (secondary : Chain) (offset : Int32)
  deriving DecidableEq, Repr

/-- What one step of a chain does. -/
inductive StageKind where
  /-- Reads at most one other stage. -/
  | single (layer : Layer)
  /-- Combines tiles with those of a secondary chain. -/
  | blend (rule : BlendRule) (secondary : Chain)
  deriving DecidableEq, Repr

namespace StageKind

/-- The name of the stage. -/
def name : StageKind → String
  | single layer => layer.name
  | blend rule _ => rule.name

/-- Whether the stage reads no other stage. -/
def isSource : StageKind → Bool
  | single layer => layer.isSource
  | blend .. => false

/-- The size of the tiles that the stage has to be given to produce tiles of some size; nothing for
a source. -/
def inputSize? : StageKind → Size → Except BuildError (Option Size)
  | single layer, size => layer.inputSize? size
  | blend .., size => .ok (some size)

end StageKind

namespace Chain

/-- The chain with one more stage of any kind. -/
def append (chain : Chain) (kind : StageKind) (offset : Int32) : Chain :=
  match kind with
  | .single layer => chain.stage layer offset
  | .blend rule secondary => chain.blend rule secondary offset

/-- The chain with `count` doublings behind it, whose offsets count up from `first`. -/
def zoomed (chain : Chain) : Nat → Int32 → Chain
  | 0, _ => chain
  | count + 1, first => (chain.zoomed count first).stage .zoom (first + Int32.ofNat count)

/-- The steps and their offsets, last step first. -/
def reversed : Chain → List (StageKind × Int32)
  | empty => []
  | stage before layer offset => (.single layer, offset) :: before.reversed
  | blend before rule secondary offset => (.blend rule secondary, offset) :: before.reversed

/-- The steps and their offsets. -/
def steps (chain : Chain) : List (StageKind × Int32) :=
  chain.reversed.reverse

/-- The number of steps. -/
def length : Chain → Nat
  | empty => 0
  | stage before .. => before.length + 1
  | blend before .. => before.length + 1

/-- Whether there are no steps. -/
def isEmpty : Chain → Bool
  | empty => true
  | _ => false

/-- The number of stages, those of secondary chains included. -/
def stageCount : Chain → Nat
  | empty => 0
  | stage before .. => before.stageCount + 1
  | blend before _ secondary _ => before.stageCount + (secondary.stageCount + 1)

end Chain

end BiomeAtlas
