import BiomeAtlas.Proofs.Wiring

/-! # The plan of a chain

`Chain.plan` wires the stages of a chain without a store. It is what building yields whatever the
store: the same cause of refusal, or the planned stage with places in the store added
(`Chain.run_build`). So everything that does not concern the store is said of plans.

`Chain.Makes` tells how a chain whose sources are in place makes its stage, one step after the
other, and is what proofs about chains go by induction on. The stage has the size that was asked for
and one stage for each step, the steps of secondary chains included, and every node of it satisfies
the conditions of its kind (`Makes.size_eq`, `Makes.count_eq`, `Makes.wired`).
-/
namespace BiomeAtlas.Chain

/-- The stages of a chain whose sources are in place, wired without a store. -/
def plan : Chain → Int32 → Size → Except BuildError Stage
  | empty, _, _ => throw .emptyChain
  | stage before layer offset, folded, size =>
    let seed := stageSeed folded offset
    match layer with
    | .source rule => Stage.ofSource rule seed size
    | .zoom => do Stage.ofZoom seed size (← before.plan folded size.halved)
    | .cross rule =>
      match size.haloed? with
      | none => throw .sizeOverflow
      | some haloed => do Stage.ofCross rule seed size (← before.plan folded haloed)
    | .cell rule => do Stage.ofCell rule seed (← before.plan folded size)
  | blend before rule secondary offset, folded, size => do
    let base ← before.plan folded size
    secondary.checkSources
    let overlay ← secondary.plan (stageSeed folded offset) size
    Stage.ofBlend rule base overlay

/-- A planned stage has the size that was asked for. -/
theorem size_of_plan : ∀ {chain : Chain} {folded : Int32} {size : Size} {made : Stage},
    chain.plan folded size = .ok made → made.size = size
  | empty, _, _, _, h => by cases h
  | stage _ (.source _) _, _, _, _, h => by
      obtain ⟨-, -, rfl⟩ := Stage.ofSource_eq_ok_iff.mp h
      rfl
  | stage _ .zoom _, _, _, _, h => by
      obtain ⟨coarser, -, h⟩ := bind_eq_ok.mp h
      obtain ⟨-, -, rfl⟩ := Stage.ofZoom_eq_ok_iff.mp h
      rfl
  | stage _ (.cross _) _, _, size, _, h => by
      rw [plan] at h
      cases hhalo : size.haloed? with
      | none => rw [hhalo] at h; cases h
      | some haloed =>
          rw [hhalo] at h
          obtain ⟨input, -, h⟩ := bind_eq_ok.mp h
          obtain ⟨-, -, -, rfl⟩ := Stage.ofCross_eq_ok_iff.mp h
          rfl
  | stage _ (.cell _) _, _, _, _, h => by
      obtain ⟨input, hinput, h⟩ := bind_eq_ok.mp h
      obtain ⟨-, rfl⟩ := Stage.ofCell_eq_ok_iff.mp h
      exact (size_of_plan hinput : input.size = _)
  | blend _ _ _ _, _, _, _, h => by
      obtain ⟨base, hbase, h⟩ := bind_eq_ok.mp h
      obtain ⟨-, h⟩ := check_bind_eq_ok.mp h
      obtain ⟨overlay, -, h⟩ := bind_eq_ok.mp h
      obtain ⟨-, -, rfl⟩ := Stage.ofBlend_eq_ok_iff.mp h
      exact (size_of_plan hbase : base.size = _)

/-! ## Building follows the plan -/

/-- A computation with a store that makes the planned stage, up to its places in the store, or fails
as planned. -/
def Follows (making : Building Stage) (planned : Except BuildError Stage) : Prop :=
  ∀ store, (making.run store).map (fun made => made.1.bare) = planned

theorem follows_lift {wired planned : Except BuildError Stage} (h : Stage.strip wired = planned) :
    Follows (liftM wired) planned := by
  intro store
  subst h
  cases wired <;> rfl

theorem follows_bind {making : Building Stage} {planned : Except BuildError Stage}
    {next : Stage → Building Stage} {nextPlanned : Stage → Except BuildError Stage}
    (h : Follows making planned) (hnext : ∀ stage, Follows (next stage) (nextPlanned stage.bare)) :
    Follows (making >>= next) (planned >>= nextPlanned) := by
  intro store
  rw [← h store]
  change ((making.run store >>= fun made => (next made.1).run made.2)).map _ = _
  cases making.run store with
  | error e => rfl
  | ok made => exact hnext made.1 made.2

theorem follows_check {check : Except BuildError Unit} {making : Building Stage}
    {planned : Except BuildError Stage} (h : Follows making planned) :
    Follows (liftM check >>= fun _ : Unit => making) (check >>= fun _ => planned) := by
  intro store
  cases check with
  | error e => rfl
  | ok u => exact h store

/-- A place in the store does not count. -/
theorem follows_shelve {making : Building Stage} {planned : Except BuildError Stage} (cached : Bool)
    (h : Follows making planned) : Follows (making >>= shelve cached) planned := by
  have hplace : ∀ stage, Follows (shelve cached stage) (.ok stage.bare) := by
    intro stage store
    cases cached <;> rfl
  have hboth := follows_bind h hplace
  rwa [show (planned >>= fun stage => .ok stage) = planned from bind_pure planned] at hboth

theorem follows_wire (cached : Bool) : ∀ (chain : Chain) (folded : Int32) (size : Size),
    Follows (chain.wire cached folded size) (chain.plan folded size)
  | empty, _, _ => fun _ => rfl
  | stage _ (.source _) _, _, _ => follows_lift Stage.strip_ofSource
  | stage before .zoom _, folded, size =>
      follows_bind (follows_wire cached before folded size.halved) fun _ =>
        follows_shelve cached (follows_lift Stage.strip_ofZoom)
  | stage before (.cross rule) offset, folded, size => by
      rw [wire, plan]
      cases size.haloed? with
      | none => exact fun _ => rfl
      | some haloed =>
          exact follows_bind (follows_wire cached before folded haloed) fun _ =>
            follows_lift Stage.strip_ofCross
  | stage before (.cell _) _, folded, size =>
      follows_bind (follows_wire cached before folded size) fun _ => follows_lift Stage.strip_ofCell
  | blend before _ secondary _, folded, size =>
      follows_bind (follows_wire cached before folded size) fun _ =>
        follows_check (follows_bind (follows_wire cached secondary _ size) fun _ =>
          follows_lift Stage.strip_ofBlend)

/-- **Building follows the plan**: whatever the store holds, and whether stages get places in it,
building fails as planned or makes the planned stage. -/
theorem run_build (cached : Bool) (chain : Chain) (folded : Int32) (size : Size) :
    Follows (chain.build cached folded size) (chain.checkSources >>= fun _ =>
      chain.plan folded size) :=
  follows_check (follows_wire cached chain folded size)

/-! ## Sources in place -/

/-- The first step, and no other one, is a source. -/
def BeginsWithSource (chain : Chain) : Prop :=
  ∃ first later, chain.steps = first :: later ∧ first.1.isSource = true ∧
    ∀ step ∈ later, step.1.isSource = false

theorem checkSources_eq_ok_iff {chain : Chain} :
    chain.checkSources = .ok () ↔ chain.BeginsWithSource := by
  unfold checkSources BeginsWithSource
  cases chain.steps with
  | nil => simp
  | cons first later =>
      have hcons : (∃ head rest, first :: later = head :: rest ∧ head.1.isSource = true ∧
          ∀ step ∈ rest, step.1.isSource = false) ↔
          first.1.isSource = true ∧ ∀ step ∈ later, step.1.isSource = false := by
        constructor
        · rintro ⟨_, _, h, hhead⟩
          cases h
          exact hhead
        · exact fun h => ⟨first, later, rfl, h⟩
      rw [hcons]
      obtain ⟨kind, offset⟩ := first
      dsimp only
      by_cases hfirst : kind.isSource = true
      · rw [if_pos hfirst, and_iff_right hfirst]
        split
        · rename_i late lateOffset hlate
          have hsource := List.find?_some hlate
          constructor
          · intro h; cases h
          · intro hlater
            rw [hlater _ (List.mem_of_find?_eq_some hlate)] at hsource
            cases hsource
        · rename_i hlate
          rw [List.find?_eq_none] at hlate
          exact ⟨fun _ step hs => by simpa using hlate step hs, fun _ => rfl⟩
      · rw [if_neg hfirst]
        constructor
        · intro h; cases h
        · rintro ⟨h, -⟩; exact absurd h hfirst

theorem beginsWithSource_snoc {chain before : Chain} (step : StageKind × Int32)
    (hsteps : chain.steps = before.steps ++ [step]) : chain.BeginsWithSource ↔
      (before.steps = [] ∧ step.1.isSource = true) ∨
      (before.BeginsWithSource ∧ step.1.isSource = false) := by
  unfold BeginsWithSource
  rw [hsteps]
  cases before.steps with
  | nil =>
      constructor
      · rintro ⟨first, later, h, hfirst, -⟩
        cases h
        exact Or.inl ⟨rfl, hfirst⟩
      · rintro (⟨-, h⟩ | ⟨⟨_, _, h, _⟩, _⟩)
        · exact ⟨step, [], rfl, h, fun _ hs => by cases hs⟩
        · cases h
  | cons head rest =>
      constructor
      · rintro ⟨first, later, h, hfirst, hlater⟩
        cases h
        refine Or.inr ⟨⟨head, rest, rfl, hfirst, fun s hs => hlater s ?_⟩, hlater step ?_⟩
        · exact List.mem_append_left _ hs
        · exact List.mem_append_right _ (List.mem_singleton_self step)
      · rintro (⟨h, -⟩ | ⟨⟨first, later, h, hfirst, hlater⟩, hstep⟩)
        · cases h
        · cases h
          refine ⟨head, rest ++ [step], rfl, hfirst, fun s hs => ?_⟩
          rcases List.mem_append.mp hs with hs | hs
          · exact hlater s hs
          · rw [List.mem_singleton.mp hs]; exact hstep

theorem beginsWithSource_stage {before : Chain} {layer : Layer} {offset : Int32} :
    (before.stage layer offset).BeginsWithSource ↔
      (before.steps = [] ∧ layer.isSource = true) ∨
      (before.BeginsWithSource ∧ layer.isSource = false) :=
  beginsWithSource_snoc (.single layer, offset) (by simp [steps, reversed])

theorem beginsWithSource_blend {before secondary : Chain} {rule : BlendRule} {offset : Int32} :
    (before.blend rule secondary offset).BeginsWithSource ↔ before.BeginsWithSource := by
  have hsteps : (before.blend rule secondary offset).steps =
      before.steps ++ [(.blend rule secondary, offset)] := by
    simp [steps, reversed]
  rw [beginsWithSource_snoc _ hsteps]
  simp [StageKind.isSource]

theorem steps_eq_nil_iff {chain : Chain} : chain.steps = [] ↔ chain = empty := by
  cases chain <;> simp [steps, reversed]

theorem not_beginsWithSource_empty : ¬ empty.BeginsWithSource := by
  rintro ⟨_, _, h, _⟩
  cases h

/-! ## What a chain makes -/

/-- **How a chain makes a stage of a given size**, one step after the other: the source makes a
stage by itself, every other step puts a stage on top of the one its predecessors make, at the size
it has to read. -/
inductive Makes : Chain → Int32 → Size → Stage → Prop
  | source {rule : Source} {offset folded : Int32} {size : Size} {made : Stage}
      (h : Stage.ofSource rule (stageSeed folded offset) size = .ok made) :
      Makes (empty.stage (.source rule) offset) folded size made
  | zoom {before : Chain} {offset folded : Int32} {size : Size} {coarser made : Stage}
      (hbefore : Makes before folded size.halved coarser)
      (h : Stage.ofZoom (stageSeed folded offset) size coarser = .ok made) :
      Makes (before.stage .zoom offset) folded size made
  | cross {before : Chain} {rule : CrossRule} {offset folded : Int32} {size haloed : Size}
      {input made : Stage} (hhalo : size.haloed? = some haloed)
      (hbefore : Makes before folded haloed input)
      (h : Stage.ofCross rule (stageSeed folded offset) size input = .ok made) :
      Makes (before.stage (.cross rule) offset) folded size made
  | cell {before : Chain} {rule : CellRule} {offset folded : Int32} {size : Size}
      {input made : Stage} (hbefore : Makes before folded size input)
      (h : Stage.ofCell rule (stageSeed folded offset) input = .ok made) :
      Makes (before.stage (.cell rule) offset) folded size made
  | blend {before secondary : Chain} {rule : BlendRule} {offset folded : Int32} {size : Size}
      {base overlay made : Stage} (hbefore : Makes before folded size base)
      (hsecondary : Makes secondary (stageSeed folded offset) size overlay)
      (h : Stage.ofBlend rule base overlay = .ok made) :
      Makes (before.blend rule secondary offset) folded size made

theorem Makes.beginsWithSource {chain : Chain} {folded : Int32} {size : Size} {made : Stage}
    (h : chain.Makes folded size made) : chain.BeginsWithSource := by
  induction h with
  | source _ => exact beginsWithSource_stage.mpr (Or.inl ⟨rfl, rfl⟩)
  | zoom _ _ ih | cross _ _ _ ih | cell _ _ ih =>
      exact beginsWithSource_stage.mpr (Or.inr ⟨ih, rfl⟩)
  | blend _ _ _ ih _ => exact beginsWithSource_blend.mpr ih

theorem Makes.plan_eq {chain : Chain} {folded : Int32} {size : Size} {made : Stage}
    (h : chain.Makes folded size made) : chain.plan folded size = .ok made := by
  induction h with
  | source h => exact h
  | zoom _ h ih | cell _ h ih => exact bind_eq_ok.mpr ⟨_, ih, h⟩
  | cross hhalo _ h ih =>
      rw [plan, hhalo]
      exact bind_eq_ok.mpr ⟨_, ih, h⟩
  | blend _ hsecondary h ih ih' =>
      exact bind_eq_ok.mpr ⟨_, ih, check_bind_eq_ok.mpr
        ⟨checkSources_eq_ok_iff.mpr hsecondary.beginsWithSource, bind_eq_ok.mpr ⟨_, ih', h⟩⟩⟩

theorem makes_of_plan : ∀ {chain : Chain} {folded : Int32} {size : Size} {made : Stage},
    chain.BeginsWithSource → chain.plan folded size = .ok made → chain.Makes folded size made
  | empty, _, _, _, hsource, _ => absurd hsource not_beginsWithSource_empty
  | stage before (.source rule) offset, _, _, _, hsource, h => by
      rcases beginsWithSource_stage.mp hsource with ⟨hempty, -⟩ | ⟨-, hlayer⟩
      · cases steps_eq_nil_iff.mp hempty
        exact .source h
      · cases hlayer
  | stage before .zoom offset, _, _, _, hsource, h => by
      rcases beginsWithSource_stage.mp hsource with ⟨-, hlayer⟩ | ⟨hbefore, -⟩
      · cases hlayer
      · obtain ⟨coarser, hcoarser, h⟩ := bind_eq_ok.mp h
        exact .zoom (makes_of_plan hbefore hcoarser) h
  | stage before (.cross rule) offset, _, size, _, hsource, h => by
      rcases beginsWithSource_stage.mp hsource with ⟨-, hlayer⟩ | ⟨hbefore, -⟩
      · cases hlayer
      · rw [plan] at h
        cases hhalo : size.haloed? with
        | none => rw [hhalo] at h; cases h
        | some haloed =>
            rw [hhalo] at h
            obtain ⟨input, hinput, h⟩ := bind_eq_ok.mp h
            exact .cross hhalo (makes_of_plan hbefore hinput) h
  | stage before (.cell rule) offset, _, _, _, hsource, h => by
      rcases beginsWithSource_stage.mp hsource with ⟨-, hlayer⟩ | ⟨hbefore, -⟩
      · cases hlayer
      · obtain ⟨input, hinput, h⟩ := bind_eq_ok.mp h
        exact .cell (makes_of_plan hbefore hinput) h
  | blend before rule secondary offset, _, _, _, hsource, h => by
      have hbefore := beginsWithSource_blend.mp hsource
      obtain ⟨base, hbase, h⟩ := bind_eq_ok.mp h
      obtain ⟨hcheck, h⟩ := check_bind_eq_ok.mp h
      obtain ⟨overlay, hoverlay, h⟩ := bind_eq_ok.mp h
      exact .blend (makes_of_plan hbefore hbase)
        (makes_of_plan (checkSources_eq_ok_iff.mp hcheck) hoverlay) h

/-- **A chain is built exactly if it makes a stage**: the stage that building yields, without its
places in the store. -/
theorem makes_of_build {cached : Bool} {chain : Chain} {folded : Int32} {size : Size}
    {store store' : TileStore} {built : Stage}
    (h : (chain.build cached folded size).run store = .ok (built, store')) :
    chain.Makes folded size built.bare := by
  have hplan := run_build cached chain folded size store
  rw [h] at hplan
  obtain ⟨hsource, hplan⟩ := check_bind_eq_ok.mp hplan.symm
  exact makes_of_plan (checkSources_eq_ok_iff.mp hsource) hplan

theorem Makes.exists_build {chain : Chain} {folded : Int32} {size : Size} {made : Stage}
    (h : chain.Makes folded size made) (cached : Bool) (store : TileStore) :
    ∃ built store', (chain.build cached folded size).run store = .ok (built, store') ∧
      built.bare = made := by
  have hplan := run_build cached chain folded size store
  rw [checkSources_eq_ok_iff.mpr h.beginsWithSource, h.plan_eq] at hplan
  cases hrun : (chain.build cached folded size).run store with
  | error e => rw [hrun] at hplan; cases hplan
  | ok result =>
      rw [hrun] at hplan
      cases hplan
      exact ⟨result.1, result.2, rfl, rfl⟩

/-! ## Facts about the stage a chain makes -/

section Facts
variable {chain : Chain} {folded : Int32} {size : Size} {made : Stage}

/-- There is one stage that a chain makes of a given size. -/
theorem Makes.unique {made' : Stage} (h : chain.Makes folded size made)
    (h' : chain.Makes folded size made') : made = made' :=
  Except.ok.inj (h.plan_eq.symm.trans h'.plan_eq)

theorem Makes.size_eq (h : chain.Makes folded size made) : made.size = size :=
  size_of_plan h.plan_eq

theorem Makes.wired (h : chain.Makes folded size made) : made.Wired := by
  induction h with
  | source h => exact Stage.wired_ofSource h
  | zoom _ h ih => exact Stage.wired_ofZoom ih h
  | cross _ _ h ih => exact Stage.wired_ofCross ih h
  | cell _ h ih => exact Stage.wired_ofCell ih h
  | blend _ _ h ih ih' => exact Stage.wired_ofBlend ih ih' h

/-- One stage for each step, the steps of secondary chains included. -/
theorem Makes.count_eq (h : chain.Makes folded size made) : made.count = chain.stageCount := by
  induction h with
  | source h => obtain ⟨-, -, rfl⟩ := Stage.ofSource_eq_ok_iff.mp h; rfl
  | zoom _ h ih =>
      obtain ⟨-, -, rfl⟩ := Stage.ofZoom_eq_ok_iff.mp h; simp only [Stage.count, stageCount, ih]
  | cross _ _ h ih =>
      obtain ⟨-, -, -, rfl⟩ := Stage.ofCross_eq_ok_iff.mp h; simp only [Stage.count, stageCount, ih]
  | cell _ h ih =>
      obtain ⟨-, rfl⟩ := Stage.ofCell_eq_ok_iff.mp h; simp only [Stage.count, stageCount, ih]
  | blend _ _ h ih ih' =>
      obtain ⟨-, -, rfl⟩ := Stage.ofBlend_eq_ok_iff.mp h
      simp only [Stage.count, stageCount, ih, ih']

end Facts

end BiomeAtlas.Chain
