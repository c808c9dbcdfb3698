import BiomeAtlas.Proofs.Sharing

/-! # Queries

A chain that has been built answers every request, at every anchor, as far as memory goes
(`Chain.Built.answers`). The tile lies where it was asked for and has the size it was built for; the
one thing that can stop the computation is a tile on the way with more cells than memory can
address. In particular no cell is read outside its tile, no window leaves its grid, nothing is drawn
from an empty list, and no remainder by zero and no negative size comes up
(`Stage.ArithmeticDefined`).

The store of the chain may be shared with any number of other chains. It does not even matter
whether the 32-bit numbers of their doublings have run out: an answer from memory is then the tile
of another stage, but it still lies where its key says.
-/
namespace BiomeAtlas

/-! ## Arithmetic -/

/-- No remainder by zero is taken, and no column is taken away from an empty tile. -/
def Stage.ArithmeticDefined : Stage → Prop
  | source (.choice range) _ _ => range ≠ 0
  | source (.landOcean _) _ _ | sampled .. => True
  | zoom _ _ coarser => 1 ≤ coarser.size.width ∧ 1 ≤ coarser.size.height ∧ coarser.ArithmeticDefined
  | cross _ _ _ input | cell _ _ input | cached _ input => input.ArithmeticDefined
  | blend _ base overlay => base.ArithmeticDefined ∧ overlay.ArithmeticDefined

theorem Stage.Wired.arithmeticDefined {stage : Stage} (h : stage.Wired) :
    stage.ArithmeticDefined := by
  induction h with
  | @source rule _ _ _ hrange =>
      cases rule with
      | choice range =>
          intro hzero
          rw [hzero] at hrange
          exact Int32.lt_irrefl hrange
      | landOcean _ => trivial
  | sampled => trivial
  | zoom _ hinput _ ih =>
      rw [ArithmeticDefined, hinput]
      simp only [Size.halved]
      exact ⟨by omega, by omega, ih⟩
  | cross _ _ _ _ ih | cell _ _ ih | cached _ ih => exact ih
  | blend _ _ _ _ ih ih' => exact ⟨ih, ih'⟩

/-! ## Chains that have been built -/

/-- **A chain that has been built**: the stage it was built into and a store to ask it with. The
stage was built alone, and then any store will do, or on the store, on which others may have been
built before and since. -/
inductive Chain.Built (chain : Chain) (folded : Int32) (size : Size) : Stage → TileStore → Prop
  | alone {stage : Stage} {store store' later : TileStore}
      (hrun : (chain.build false folded size).run store = .ok (stage, store')) :
      Built chain folded size stage later
  | shared {capacity handed : Nat} {served : List (Order × Stage)} {stage : Stage}
      {store : TileStore} (h : Shares capacity served handed store)
      (hserved : (⟨chain, folded, size⟩, stage) ∈ served) :
      Built chain folded size stage store

/-- Building changes nothing in a store but the next number. -/
theorem Chain.store_of_wire {cached : Bool} :
    ∀ {chain : Chain} {folded : Int32} {size : Size} {store store' : TileStore}
    {made : Stage}, (chain.wire cached folded size).run store = .ok (made, store') →
    ∃ next, store' = { store with nextStage := next }
  | empty, _, _, _, _, _, h => by cases h
  | stage _ (.source _) _, _, _, store, _, _, h => by
      obtain ⟨-, rfl⟩ := run_lift_eq_ok.mp h
      exact ⟨_, rfl⟩
  | stage before .zoom _, _, _, _, _, _, h => by
      obtain ⟨input, store₁, hinput, hrest⟩ := run_bind_eq_ok.mp h
      obtain ⟨doubled, store₂, hdoubled, hshelve⟩ := run_bind_eq_ok.mp hrest
      obtain ⟨-, rfl⟩ := run_lift_eq_ok.mp hdoubled
      obtain ⟨next, rfl⟩ := store_of_wire hinput
      -- with a store the doubling takes the next number, without one it takes none
      cases cached with
      | false => cases hshelve; exact ⟨_, rfl⟩
      | true => cases hshelve; exact ⟨_, rfl⟩
  | stage before (.cross _) _, _, size, _, _, _, h => by
      rw [wire] at h
      cases hhalo : size.haloed? with
      | none => rw [hhalo] at h; cases h
      | some haloed =>
          rw [hhalo] at h
          obtain ⟨input, store₁, hinput, h⟩ := run_bind_eq_ok.mp h
          obtain ⟨-, rfl⟩ := run_lift_eq_ok.mp h
          exact store_of_wire hinput
  | stage before (.cell _) _, _, _, _, _, _, h => by
      obtain ⟨input, store₁, hinput, h⟩ := run_bind_eq_ok.mp h
      obtain ⟨-, rfl⟩ := run_lift_eq_ok.mp h
      exact store_of_wire hinput
  | blend before _ secondary _, _, _, _, _, _, h => by
      obtain ⟨base, store₁, hbase, hrest⟩ := run_bind_eq_ok.mp h
      obtain ⟨_, store₂, hcheck, hlater⟩ := run_bind_eq_ok.mp hrest
      obtain ⟨-, rfl⟩ := run_lift_eq_ok.mp hcheck
      obtain ⟨overlay, store₃, hoverlay, hlast⟩ := run_bind_eq_ok.mp hlater
      obtain ⟨-, rfl⟩ := run_lift_eq_ok.mp hlast
      obtain ⟨_, rfl⟩ := store_of_wire hbase
      obtain ⟨next, rfl⟩ := store_of_wire hoverlay
      exact ⟨next, rfl⟩

/-- Every tile in a shared store lies where its key says. -/
theorem Shares.aligned {capacity handed : Nat} {served : List (Order × Stage)} {store : TileStore}
    (h : Shares capacity served handed store) : store.Aligned := by
  induction h with
  | start => exact .empty capacity
  | giveUp _ ih => exact ih
  | build _ hrun ih =>
      obtain ⟨_, _, hcheck, hwire⟩ := run_bind_eq_ok.mp hrun
      obtain ⟨-, rfl⟩ := run_lift_eq_ok.mp hcheck
      obtain ⟨next, rfl⟩ := Chain.store_of_wire hwire
      exact ih
  | ask _ _ hrun ih => exact (Stage.occupies_generate ih hrun).2

namespace Chain.Built
variable {chain : Chain} {folded : Int32} {size : Size} {stage : Stage} {store later : TileStore}
  {minX minZ : Coord} {tile : Grid}

theorem makes (h : chain.Built folded size stage store) : chain.Makes folded size stage.bare := by
  cases h with
  | alone hrun => exact makes_of_build hrun
  | shared h hserved => exact h.makes hserved

theorem wired (h : chain.Built folded size stage store) : stage.Wired :=
  Stage.wired_bare_iff.mp h.makes.wired

theorem size_eq (h : chain.Built folded size stage store) : stage.size = size := by
  rw [← Stage.size_bare, h.makes.size_eq]

theorem count_eq (h : chain.Built folded size stage store) : stage.count = chain.stageCount := by
  rw [← Stage.count_bare, h.makes.count_eq]

/-- A chain that has been built answers with a tile where it was asked for, or is stopped for want
of room. -/
theorem run_generate (h : chain.Built folded size stage store)
    (hword : size.Representable (2 * chain.stageCount)) :
    Answers ((stage.generate minX minZ).run store) stage.Holdable ∧
      ∀ tile later, (stage.generate minX minZ).run store = .ok (tile, later) →
        tile.Occupies minX minZ size := by
  have hwired := h.wired
  rw [← h.size_eq, ← h.count_eq] at hword
  rw [← h.size_eq]
  cases h with
  | @alone _ _ _ store hrun =>
      have hstage := stage.run_generate_bare minX minZ
      rw [bare_of_build hrun] at hstage
      -- the stage does not look at the store, so it answers as it does with an empty one
      have hempty := @Stage.answers_generate stage hwired minX minZ (.empty 0) hword (.empty 0)
      rw [hstage, Answers.map_iff] at hempty
      rw [hstage, Answers.map_iff]
      refine ⟨hempty, fun tile later hmade => ?_⟩
      cases htile : stage.tile minX minZ with
      | error e => rw [htile] at hmade; cases hmade
      | ok found =>
          rw [htile] at hmade
          cases hmade
          exact Stage.tile_occupies htile
  | shared hshares hserved =>
      refine ⟨Stage.answers_generate hwired hword hshares.aligned, fun tile later hrun => ?_⟩
      exact (Stage.occupies_generate hshares.aligned hrun).1

/-- **Queries are answered.** Let a chain have been built at a size at which the numbers of columns,
rows and cells of all tiles on the way are 64-bit words. Then its arithmetic is defined, and at
every anchor, the wrapping ones included, the chain answers with a tile at that anchor, of that size
and with that many cells, as soon as memory can hold the tiles on the way. What can stop it
otherwise is one of these tiles, and no other fault. -/
theorem answers (h : chain.Built folded size stage store)
    (hword : size.Representable (2 * chain.stageCount)) :
    stage.ArithmeticDefined ∧ (size.Addressable (2 * chain.stageCount) → stage.Holdable) ∧
      ∀ minX minZ,
        (stage.Holdable → ∃ tile later, (stage.generate minX minZ).run store = .ok (tile, later)) ∧
        (∀ tile later, (stage.generate minX minZ).run store = .ok (tile, later) →
          tile.Occupies minX minZ size ∧ tile.values.size = size.width * size.height) ∧
        ∀ fault, (stage.generate minX minZ).run store = .error fault → fault = .tooManyCells ∧
          ¬ stage.Holdable := by
  refine ⟨h.wired.arithmeticDefined, fun hroom => ?_, fun minX minZ => ?_⟩
  · rw [← h.size_eq, ← h.count_eq] at hroom
    exact Stage.holdable_of_addressable h.wired hroom
  obtain ⟨hanswers, hat⟩ := @run_generate _ _ _ _ _ minX minZ h hword
  refine ⟨fun hroom => ?_, fun tile later hrun => ?_, fun fault hrun => ?_⟩
  · obtain ⟨⟨tile, later⟩, hrun⟩ := hanswers.exists_of_room hroom
    exact ⟨tile, later, hrun⟩
  · have htile := hat tile later hrun
    refine ⟨htile, ?_⟩
    rw [tile.size_values, htile.size_eq]
    rfl
  · rcases hanswers with ⟨made, hmade⟩ | ⟨hfault, hnone⟩
    · rw [hmade] at hrun
      cases hrun
    · rw [hfault] at hrun
      cases hrun
      exact ⟨rfl, hnone⟩

/-- The mask of the rarer biomes at an anchor where both axes wrap. -/
theorem rarerMask_answers : ∃ stage,
    (rarerMask.Built 7 ⟨3, 2⟩ stage (.empty 0) ∧
      Size.Representable ⟨3, 2⟩ (2 * rarerMask.stageCount)) ∧
      stage.ArithmeticDefined ∧ ∃ tile later,
        (stage.generate 2147483647 2147483646).run (.empty 0) = .ok (tile, later) ∧
        tile.Occupies 2147483647 2147483646 ⟨3, 2⟩ ∧ tile.values.size = 6 := by
  have hwell := wellFormed_rarerMask
  obtain ⟨made, hmade⟩ :=
    @exists_makes rarerMask 7 ⟨3, 2⟩ hwell.beginsWithSource hwell.composes rfl (by decide)
  have hbuilt : rarerMask.Built 7 ⟨3, 2⟩ made (.empty 0) :=
    .alone (hmade.run_build_alone (.empty 0))
  have hword : Size.Representable ⟨3, 2⟩ (2 * rarerMask.stageCount) := by decide
  obtain ⟨harithmetic, hholdable, hanswers⟩ := hbuilt.answers hword
  obtain ⟨hexists, hmade, -⟩ := hanswers 2147483647 2147483646
  obtain ⟨tile, later, hrun⟩ := hexists (hholdable (by decide))
  obtain ⟨hat, hcells⟩ := hmade tile later hrun
  exact ⟨made, ⟨hbuilt, hword⟩, harithmetic, tile, later, hrun, hat, hcells⟩

/-- A tower of one column has a number of cells that fits a word, but no memory can hold them. -/
theorem tower_is_not_answered : ∃ stage,
    ((empty.stage (.source (.choice 2)) 1).Built 0 ⟨1, 2305843009213693952⟩ stage (.empty 0) ∧
      Size.Representable ⟨1,
        2305843009213693952⟩ (2 * (empty.stage (.source (.choice 2)) 1).stageCount)) ∧
      (stage.generate 0 0).run (.empty 0) = .error .tooManyCells := by
  have hbuilt : ((empty.stage (.source (.choice 2)) 1).build false 0 ⟨1,
      2305843009213693952⟩).run (.empty 0) =
      .ok (.source (.choice 2) ⟨1⟩ ⟨1, 2305843009213693952⟩, .empty 0) := rfl
  refine ⟨_, ⟨.alone hbuilt, by decide⟩, ?_⟩
  have htoo : ¬ Size.cells ⟨1, 2305843009213693952⟩ < cellLimit := by decide
  have hword : Size.cells ⟨1, 2305843009213693952⟩ < wordLimit := by decide
  have htile :
      (Source.choice 2).generate ⟨1⟩ ⟨1, 2305843009213693952⟩ 0 0 = .error .tooManyCells := by
    rw [Source.generate, Grid.tabulate, if_neg htoo, Grid.oversize, if_pos hword]
    rfl
  rw [Stage.generate, htile]
  rfl

end Chain.Built

end BiomeAtlas
