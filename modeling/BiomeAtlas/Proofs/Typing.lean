import BiomeAtlas.Chain.World
import BiomeAtlas.Proofs.Plan

/-! # Well-formed chains

A chain is well-formed (`Chain.WellFormed`) if its first step, and no other one, is a source, and
every step fits what the steps before it write: numbers in range, no empty list of candidates,
targets inside the alphabet, alphabets accepted, and secondary chains well-formed in turn. Sizes do
not occur in this.

The main statement is that building accepts exactly the well-formed chains, at every size with room
for the halos (`Chain.build_eq_ok_iff_wellFormed`). Two computations of sizes meet in it: the one
from the last step to the first, which says how large the tiles of each step have to be, and the one
in the wiring functions, which compare the sizes of finished stages. They agree, so no chain is ever
refused for a wrong size.
-/
namespace BiomeAtlas

/-! ## Typing -/

/-- What a step writes behind steps that write `found`. -/
def Layer.writes : Layer → Alphabet → Alphabet
  | source rule, _ => rule.writes
  | zoom, found => found
  | cross rule, found => rule.writes found
  | cell rule, found => rule.writes found

/-- What a step asks for behind steps that write `found`. -/
def Layer.Fits : Layer → Alphabet → Prop
  | source rule, _ => rule.InRange
  | zoom, found => Alphabet.region.accepts found = true
  | cross rule, found => rule.Fits found
  | cell rule, found => rule.Fits found

namespace Chain

/-- What the last step of a chain writes. -/
def writes : Chain → Alphabet
  | empty => .region
  | stage before layer _ => layer.writes before.writes
  | blend .. => .biome

/-- Every step fits what the steps before it write, and every secondary chain begins with a source
and composes likewise. -/
def Composes : Chain → Prop
  | empty => True
  | stage before layer _ => before.Composes ∧ layer.Fits before.writes
  | blend before rule secondary _ =>
    before.Composes ∧ (secondary.BeginsWithSource ∧ secondary.Composes) ∧
      rule.Fits before.writes secondary.writes

/-- **A well-formed chain.** -/
structure WellFormed (chain : Chain) : Prop where
  beginsWithSource : chain.BeginsWithSource
  composes : chain.Composes

section Sound
variable {chain : Chain} {folded : Int32} {size : Size} {made : Stage}

theorem Makes.alphabet_eq (h : chain.Makes folded size made) : made.alphabet = chain.writes := by
  induction h with
  | source h => obtain ⟨-, -, rfl⟩ := Stage.ofSource_eq_ok_iff.mp h; rfl
  | zoom _ h ih => obtain ⟨-, -, rfl⟩ := Stage.ofZoom_eq_ok_iff.mp h; exact ih
  | @cross _ rule _ _ _ _ _ _ _ _ h ih =>
      obtain ⟨-, -, -, rfl⟩ := Stage.ofCross_eq_ok_iff.mp h
      exact congrArg rule.writes ih
  | @cell _ rule _ _ _ _ _ _ h ih =>
      obtain ⟨-, rfl⟩ := Stage.ofCell_eq_ok_iff.mp h
      exact congrArg rule.writes ih
  | blend _ _ h _ _ => obtain ⟨-, -, rfl⟩ := Stage.ofBlend_eq_ok_iff.mp h; rfl

theorem Makes.composes (h : chain.Makes folded size made) : chain.Composes := by
  induction h with
  | source h => exact ⟨trivial, (Stage.ofSource_eq_ok_iff.mp h).2.1⟩
  | zoom _ _ ih => exact ⟨ih, rfl⟩
  | cross _ hbefore h ih => exact ⟨ih, hbefore.alphabet_eq ▸ (Stage.ofCross_eq_ok_iff.mp h).2.2.1⟩
  | cell hbefore h ih => exact ⟨ih, hbefore.alphabet_eq ▸ (Stage.ofCell_eq_ok_iff.mp h).1⟩
  | blend hbefore hsecondary h ih ih' =>
      exact ⟨ih, ⟨hsecondary.beginsWithSource, ih'⟩,
        hbefore.alphabet_eq ▸ hsecondary.alphabet_eq ▸ (Stage.ofBlend_eq_ok_iff.mp h).2.1⟩

/-- Steps that check no size of their own pass it on to one that does. -/
theorem Makes.nonempty (h : chain.Makes folded size made) : size.isEmpty = false := by
  induction h with
  | source h => exact (Stage.ofSource_eq_ok_iff.mp h).1
  | zoom _ h _ => exact (Stage.ofZoom_eq_ok_iff.mp h).1
  | cross _ _ h _ => exact (Stage.ofCross_eq_ok_iff.mp h).1
  | cell _ _ ih => exact ih
  | blend _ _ _ ih _ => exact ih

end Sound

/-! ## Every well-formed chain is built -/

/-- Every tile that is read with a halo has a size that fits a word. The sizes are those that the
steps have to produce, found from the last step to the first. -/
def HasRoom : Chain → Size → Prop
  | empty, _ => True
  | stage before layer _, size =>
    match layer with
    | .source _ => True
    | .zoom => before.HasRoom size.halved
    | .cross _ =>
      (size.width + 2 < wordLimit ∧ size.height + 2 < wordLimit) ∧
        before.HasRoom ⟨size.width + 2, size.height + 2⟩
    | .cell _ => before.HasRoom size
  | blend before _ secondary _, size => before.HasRoom size ∧ secondary.HasRoom size

/-- A chain that begins with a source and composes makes a stage of every size at which its halos
have room. -/
theorem exists_makes_of_hasRoom :
    ∀ {chain : Chain} (folded : Int32) {size : Size}, chain.BeginsWithSource →
    chain.Composes → size.isEmpty = false → chain.HasRoom size → ∃ made,
      chain.Makes folded size made
  | empty, _, _, hsource, _, _, _ => absurd hsource not_beginsWithSource_empty
  | stage before (.source rule) offset, folded, size, hsource, hcomposes, hsize, _ => by
      rcases beginsWithSource_stage.mp hsource with ⟨hempty, -⟩ | ⟨-, hlayer⟩
      · cases steps_eq_nil_iff.mp hempty
        exact ⟨_, .source (Stage.ofSource_eq_ok_iff.mpr ⟨hsize, hcomposes.2, rfl⟩)⟩
      · cases hlayer
  | stage before .zoom offset, folded, size, hsource, hcomposes, hsize, hroom => by
      rcases beginsWithSource_stage.mp hsource with ⟨-, hlayer⟩ | ⟨hbefore, -⟩
      · cases hlayer
      have hhalved : size.halved.isEmpty = false :=
        Size.isEmpty_eq_false_iff.mpr ⟨by simp [Size.halved], by simp [Size.halved]⟩
      obtain ⟨coarser, hcoarser⟩ := exists_makes_of_hasRoom folded hbefore hcomposes.1 hhalved hroom
      exact ⟨_, .zoom hcoarser (Stage.ofZoom_eq_ok_iff.mpr ⟨hsize, hcoarser.size_eq, rfl⟩)⟩
  | stage before (.cross rule) offset, folded, size, hsource, hcomposes, hsize, hroom => by
      rcases beginsWithSource_stage.mp hsource with ⟨-, hlayer⟩ | ⟨hbefore, -⟩
      · cases hlayer
      obtain ⟨hwords, hinner⟩ := hroom
      have hhalo := Size.haloed?_eq_some_iff.mpr ⟨hwords, rfl⟩
      have hwide : Size.isEmpty ⟨size.width + 2, size.height + 2⟩ = false :=
        Size.isEmpty_eq_false_iff.mpr ⟨by simp, by simp⟩
      obtain ⟨input, hinput⟩ := exists_makes_of_hasRoom folded hbefore hcomposes.1 hwide hinner
      refine ⟨_, .cross hhalo hinput (Stage.ofCross_eq_ok_iff.mpr ⟨hsize, ?_, ?_, rfl⟩)⟩
      · rw [hinput.size_eq, hhalo]
      · rw [hinput.alphabet_eq]; exact hcomposes.2
  | stage before (.cell rule) offset, folded, size, hsource, hcomposes, hsize, hroom => by
      rcases beginsWithSource_stage.mp hsource with ⟨-, hlayer⟩ | ⟨hbefore, -⟩
      · cases hlayer
      obtain ⟨input, hinput⟩ := exists_makes_of_hasRoom folded hbefore hcomposes.1 hsize hroom
      exact ⟨_, .cell hinput (Stage.ofCell_eq_ok_iff.mpr ⟨hinput.alphabet_eq ▸ hcomposes.2, rfl⟩)⟩
  | blend before rule secondary offset, folded, size, hsource, hcomposes, hsize, hroom => by
      obtain ⟨hcompose, ⟨hsecondary, hcompose'⟩, hfits⟩ := hcomposes
      obtain ⟨base, hbase⟩ :=
        exists_makes_of_hasRoom folded (beginsWithSource_blend.mp hsource) hcompose hsize hroom.1
      obtain ⟨overlay, hoverlay⟩ :=
        exists_makes_of_hasRoom (stageSeed folded offset) hsecondary hcompose' hsize hroom.2
      refine ⟨_, .blend hbase hoverlay (Stage.ofBlend_eq_ok_iff.mpr ⟨?_, ?_, rfl⟩)⟩
      · rw [hoverlay.size_eq, hbase.size_eq]
      · rw [hbase.alphabet_eq, hoverlay.alphabet_eq]; exact hfits

/-- There is room for the halos of all stages, even if every one of them had one. -/
def Roomy (chain : Chain) (size : Size) : Prop :=
  size.width + 2 * chain.stageCount < wordLimit ∧ size.height + 2 * chain.stageCount < wordLimit

instance (chain : Chain) (size : Size) : Decidable (chain.Roomy size) :=
  inferInstanceAs (Decidable (_ ∧ _))

theorem Roomy.hasRoom : ∀ {chain : Chain} {size : Size}, chain.Roomy size → chain.HasRoom size
  | empty, _, _ => trivial
  | stage before layer offset, size, h => by
      simp only [Roomy, stageCount] at h
      cases layer with
      | source rule => trivial
      | zoom =>
          -- a coarse tile may be the larger one, but by no more than the two columns of this step
          have hlower : before.Roomy size.halved := by
            simp only [Roomy, Size.halved]
            omega
          exact hlower.hasRoom
      | cross rule =>
          have hinner : before.Roomy ⟨size.width + 2, size.height + 2⟩ := by
            simp only [Roomy]
            omega
          exact ⟨by omega, hinner.hasRoom⟩
      | cell rule =>
          have hinner : before.Roomy size := by
            simp only [Roomy]
            omega
          exact hinner.hasRoom
  | blend before rule secondary offset, size, h => by
      have hboth : before.Roomy size ∧ secondary.Roomy size := by
        simp only [Roomy, stageCount] at h ⊢
        omega
      exact ⟨hboth.1.hasRoom, hboth.2.hasRoom⟩

theorem exists_makes {chain : Chain} (folded : Int32) {size : Size}
    (hsource : chain.BeginsWithSource) (hcomposes : chain.Composes) (hsize : size.isEmpty = false)
    (hroom : chain.Roomy size) :
    ∃ made, chain.Makes folded size made :=
  exists_makes_of_hasRoom folded hsource hcomposes hsize hroom.hasRoom

/-! ## No chain is refused for a wrong size -/

end Chain

/-- Whatever is wrong, it is not the size of an input. -/
def SizesAgree {α : Type} (result : Except BuildError α) : Prop :=
  ∀ stage expected found, result ≠ .error (.sizeMismatch stage expected found)

section Sizes
variable {α : Type} {size : Size} {seed : Int32} {input base overlay : Stage}

theorem sizesAgree_ok (a : α) : SizesAgree (.ok a) := fun _ _ _ h => by cases h

theorem sizesAgree_bind {β : Type} {result : Except BuildError α} {next : α → Except BuildError β}
    (h : SizesAgree result) (hnext : ∀ a, result = .ok a → SizesAgree (next a)) :
    SizesAgree (result >>= next) := by
  cases result with
  | error e =>
      intro stage expected found he
      cases he
      exact h stage expected found rfl
  | ok a => exact hnext a rfl

theorem sizesAgree_checkNonempty : SizesAgree size.checkNonempty := by
  intro stage expected found h
  unfold Size.checkNonempty at h
  split at h <;> cases h

theorem sizesAgree_checkRange {name : String} {value max : Int32} :
    SizesAgree (checkRange name value max) := by
  intro stage expected found h
  unfold checkRange at h
  split at h <;> cases h

theorem sizesAgree_check {alphabet : Alphabet} {stage : String} {value : Cell} :
    SizesAgree (alphabet.check stage value) := by
  intro stage expected found h
  unfold Alphabet.check at h
  split at h <;> cases h

theorem sizesAgree_validate {table : CandidateTable} : SizesAgree table.validate := by
  intro stage expected found h
  unfold CandidateTable.validate at h
  split at h <;> cases h

theorem sizesAgree_checkSources {chain : Chain} : SizesAgree chain.checkSources := by
  intro stage expected found h
  unfold Chain.checkSources at h
  split at h
  · cases h
  · split at h
    · split at h <;> cases h
    · cases h

/-- The one check that compares sizes, for an input of the size that is asked for. -/
theorem sizesAgree_checkInput {reader : String} {reads : Alphabet} (hsize : input.size = size) :
    SizesAgree (input.checkInput reader size reads) := by
  intro stage expected found h
  unfold Stage.checkInput at h
  rw [if_neg fun hne => hne hsize] at h
  split at h <;> cases h

theorem sizesAgree_ofSource {rule : Source} : SizesAgree (Stage.ofSource rule seed size) := by
  refine sizesAgree_bind sizesAgree_checkNonempty fun _ _ => ?_
  cases rule with
  | choice range =>
      intro stage expected found h
      dsimp only at h
      split at h <;> cases h
  | landOcean threshold => exact sizesAgree_bind sizesAgree_checkRange fun _ _ => sizesAgree_ok _

theorem sizesAgree_ofZoom (hsize : input.size = size.halved) :
    SizesAgree (Stage.ofZoom seed size input) :=
  sizesAgree_bind sizesAgree_checkNonempty fun _ _ =>
    sizesAgree_bind (sizesAgree_checkInput hsize) fun _ _ => sizesAgree_ok _

theorem sizesAgree_ofCross {rule : CrossRule} (hsize : size.haloed? = some input.size) :
    SizesAgree (Stage.ofCross rule seed size input) := by
  have htile : SizesAgree (size.checkNonempty >>= fun _ =>
      input.checkInput rule.name input.size rule.reads >>= fun _ =>
      .ok (Stage.cross rule ⟨seed⟩ size input)) :=
    sizesAgree_bind sizesAgree_checkNonempty fun _ _ =>
      sizesAgree_bind (sizesAgree_checkInput rfl) fun _ _ => sizesAgree_ok _
  cases rule with
  | addToOcean chance new =>
      unfold Stage.ofCross
      rw [hsize]
      exact sizesAgree_bind sizesAgree_check fun _ _ =>
        sizesAgree_bind sizesAgree_checkRange fun _ _ => htile
  | smooth | beaches | groupEdges | biomeEdges | river =>
      unfold Stage.ofCross
      rw [hsize]
      exact htile

theorem sizesAgree_ofCell {rule : CellRule} : SizesAgree (Stage.ofCell rule seed input) := by
  cases rule with
  | addIslands chance | rareGroups chance =>
      exact sizesAgree_bind (sizesAgree_checkInput rfl) fun _ _ =>
        sizesAgree_bind sizesAgree_checkRange fun _ _ => sizesAgree_ok _
  | replaceRandomly _ new chance | setRandomly chance new =>
      exact sizesAgree_bind sizesAgree_check fun _ _ =>
        sizesAgree_bind sizesAgree_checkRange fun _ _ => sizesAgree_ok _
  | materialize table =>
      exact sizesAgree_bind sizesAgree_validate fun _ _ =>
        sizesAgree_bind (sizesAgree_checkInput rfl) fun _ _ => sizesAgree_ok _

theorem sizesAgree_ofBlend {rule : BlendRule} (hsize : overlay.size = base.size) :
    SizesAgree (Stage.ofBlend rule base overlay) :=
  sizesAgree_bind (sizesAgree_checkInput rfl) fun _ _ =>
    sizesAgree_bind (sizesAgree_checkInput hsize) fun _ _ => sizesAgree_ok _

end Sizes

namespace Chain

/-- The sizes computed from the last step to the first are the ones the wiring functions ask for. -/
theorem sizesAgree_plan :
    ∀ (chain : Chain) (folded : Int32) (size : Size), SizesAgree (chain.plan folded size)
  | empty, _, _ => fun _ _ _ h => by cases h
  | stage _ (.source _) _, _, _ => sizesAgree_ofSource
  | stage before .zoom _, folded, size =>
      sizesAgree_bind (sizesAgree_plan before folded size.halved) fun _ h =>
        sizesAgree_ofZoom (size_of_plan h)
  | stage before (.cross rule) offset, folded, size => by
      rw [plan]
      cases hhalo : size.haloed? with
      | none => exact fun _ _ _ h => by cases h
      | some haloed =>
          exact sizesAgree_bind (sizesAgree_plan before folded haloed) fun _ h =>
            sizesAgree_ofCross (by rw [hhalo, size_of_plan h])
  | stage before (.cell _) _, folded, size =>
      sizesAgree_bind (sizesAgree_plan before folded size) fun _ _ => sizesAgree_ofCell
  | blend before _ secondary offset, folded, size =>
      sizesAgree_bind (sizesAgree_plan before folded size) fun _ hbase =>
        sizesAgree_bind sizesAgree_checkSources fun _ _ =>
          sizesAgree_bind (sizesAgree_plan secondary (stageSeed folded offset) size)
            fun _ hoverlay =>
            sizesAgree_ofBlend (by rw [size_of_plan hoverlay, size_of_plan hbase])

theorem wellFormed_rarerMask : rarerMask.WellFormed := by
  refine ⟨⟨_, _, rfl, rfl, by decide⟩, ⟨⟨⟨⟨trivial, ?_⟩, rfl⟩, ?_⟩, rfl⟩, ?_⟩
  · exact (by decide : (0 : Int32) < 2)
  · exact ⟨(by decide : (0 : Int32) ≤ 800 ∧ (800 : Int32) ≤ 1000), trivial, fun _ _ => rfl, rfl⟩
  · exact ⟨trivial, fun _ h => (by cases h), rfl⟩

/-- **Building accepts exactly the well-formed chains.** At every size with room for the halos, and
with any store or without one, building succeeds if, and only if, there are cells to produce and the
chain is well-formed. The stage then has the requested size and writes the alphabet that the steps
of the chain say. At no size at all is a chain refused for the size of an input. -/
theorem build_eq_ok_iff_wellFormed (cached : Bool) (chain : Chain) (folded : Int32) (size : Size)
    (store : TileStore) :
    (size.width + 2 * chain.stageCount + 4 < wordLimit →
      size.height + 2 * chain.stageCount + 4 < wordLimit →
      ((∃ built store', (chain.build cached folded size).run store = .ok (built, store')) ↔
        (size.width ≠ 0 ∧ size.height ≠ 0) ∧ chain.WellFormed)) ∧
    (∀ built store', (chain.build cached folded size).run store = .ok (built, store') →
      built.size = size ∧ built.alphabet = chain.writes) ∧
    ∀ stage expected found,
      (chain.build cached folded size).run store ≠ .error (.sizeMismatch stage expected found) := by
  refine ⟨fun hwidth hheight => ⟨?_, ?_⟩, ?_, ?_⟩
  · rintro ⟨built, store', h⟩
    have hmakes := makes_of_build h
    exact ⟨Size.isEmpty_eq_false_iff.mp hmakes.nonempty, hmakes.beginsWithSource, hmakes.composes⟩
  · rintro ⟨hsize, hwell⟩
    have hroom : chain.Roomy size := ⟨by omega, by omega⟩
    obtain ⟨made, hmakes⟩ := exists_makes folded hwell.beginsWithSource hwell.composes
      (Size.isEmpty_eq_false_iff.mpr hsize) hroom
    obtain ⟨built, store', h, -⟩ := hmakes.exists_build cached store
    exact ⟨built, store', h⟩
  · intro built store' h
    have hmakes := makes_of_build h
    exact ⟨by rw [← Stage.size_bare, hmakes.size_eq], by rw [← Stage.alphabet_bare,
      hmakes.alphabet_eq]⟩
  · intro stage expected found h
    have hplan := run_build cached chain folded size store
    rw [h] at hplan
    exact sizesAgree_bind sizesAgree_checkSources (fun _ _ => sizesAgree_plan chain folded size)
      stage expected found hplan.symm

/-- The mask of the rarer biomes is well-formed, so it is built at the size of three by two cells,
with a store. -/
theorem build_rarerMask :
    (3 + 2 * rarerMask.stageCount + 4 < wordLimit ∧ 2 + 2 * rarerMask.stageCount + 4 < wordLimit) ∧
    ∃ built store', (rarerMask.build true 7 ⟨3, 2⟩).run (.empty 4) = .ok (built, store') :=
  ⟨by decide,
    ((build_eq_ok_iff_wellFormed true rarerMask 7 ⟨3, 2⟩ (.empty 4)).1 (by decide) (by decide)).mpr
    ⟨by decide, wellFormed_rarerMask⟩⟩

end Chain
end BiomeAtlas
