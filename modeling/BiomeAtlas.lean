import BiomeAtlas.Files.Tree
import BiomeAtlas.Main
import BiomeAtlas.Proofs.Cells
import BiomeAtlas.Proofs.Doubling
import BiomeAtlas.Proofs.Tile
import BiomeAtlas.Proofs.Wiring
import BiomeAtlas.Proofs.Plan
import BiomeAtlas.Proofs.Typing
import BiomeAtlas.Proofs.Column
import BiomeAtlas.Proofs.Room
import BiomeAtlas.Proofs.Sharing
import BiomeAtlas.Proofs.Queries
import BiomeAtlas.Proofs.Seamless
import BiomeAtlas.Proofs.Values
import BiomeAtlas.Proofs.World
import BiomeAtlas.Proofs.Closure
import BiomeAtlas.Proofs.Counting
import BiomeAtlas.Proofs.Pasting
import BiomeAtlas.Proofs.Windows
import BiomeAtlas.Crew
import BiomeAtlas.Proofs.Regions
import BiomeAtlas.Traffic
import BiomeAtlas.Proofs.Calls
import BiomeAtlas.Proofs.Traffic
import BiomeAtlas.Proofs.Lattice
import BiomeAtlas.Proofs.SeedSpace
import BiomeAtlas.Proofs.Wrapping
import BiomeAtlas.Proofs.Parameters
import BiomeAtlas.Proofs.RiverOverlay
import BiomeAtlas.Proofs.Continents
import BiomeAtlas.Proofs.Spawn
import BiomeAtlas.Proofs.Stacks
import BiomeAtlas.Proofs.Provenance
import BiomeAtlas.Proofs.Seeds
import BiomeAtlas.Proofs.Rendering
import BiomeAtlas.Proofs.Drawing
import BiomeAtlas.Proofs.Tokens
import BiomeAtlas.Proofs.Spelling
import BiomeAtlas.Proofs.Members
import BiomeAtlas.Proofs.Nesting
import BiomeAtlas.Proofs.RoundTrip
import BiomeAtlas.Proofs.Trees
import BiomeAtlas.Proofs.Persistence
import BiomeAtlas.Proofs.GroupBorders
import BiomeAtlas.Proofs.BiomeBorders
import BiomeAtlas.Proofs.Shores
import BiomeAtlas.Proofs.Rivers
import BiomeAtlas.Proofs.Candidates
import BiomeAtlas.Proofs.Sessions
