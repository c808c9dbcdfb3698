import BiomeAtlas.Proofs.Room
import BiomeAtlas.Proofs.Store
import BiomeAtlas.Proofs.Typing

/-! # Sharing a store

Several chains may be built on one store and asked for tiles in any order. None of this shows in the
tiles: in every state that a store can get into, a chain built on it answers exactly as the same
chain built without one (`Shares.generate_eq_alone`).

Building hands out numbers that have no stored tiles yet, one for each doubling
(`Chain.exists_numbers`), and generating keeps the store orderly. So every state is orderly
(`Shares.exists_owners`), as long as the numbers do not run out: they are 32-bit words, and after
the last one the first would be handed out again.

`Chain.Serves` says of a stage that it is a chain in use, with a store or without one. What holds of
chains in use is said of it in the modules that follow.
-/
namespace BiomeAtlas

/-! ## Building hands out numbers -/

namespace Stage

/-- The number of doublings in the tree. -/
def doublings : Stage → Nat
  | source .. | sampled .. => 0
  | zoom _ _ coarser => coarser.doublings + 1
  | cross _ _ _ input | cell _ _ input | cached _ input => input.doublings
  | blend _ base overlay => base.doublings + overlay.doublings

/-- Every doubling has a place in a store, and nothing else has. The places have the numbers from
`first` on: those of a secondary chain come after those of the main one, and that of a doubling
after those of what it doubles. -/
def Numbered : Stage → Nat → Prop
  | source .., _ | sampled .., _ => True
  | cross _ _ _ input, first | cell _ _ input, first => input.Numbered first
  | blend _ base overlay, first => base.Numbered first ∧ overlay.Numbered (first + base.doublings)
  | cached number (zoom _ _ coarser), first =>
      number.toNat = first + coarser.doublings ∧ coarser.Numbered first
  | zoom .., _ | cached .., _ => False

end Stage

namespace Chain

/-- The number of doublings behind the source, those of secondary chains included: each one gets a
number from the store. -/
def doublings : Chain → Nat
  | empty | stage _ (.source _) _ => 0
  | stage before .zoom _ => before.doublings + 1
  | stage before (.cross _) _ | stage before (.cell _) _ => before.doublings
  | blend before _ secondary _ => before.doublings + secondary.doublings

/-- What building does to the store: it hands out `count` numbers, all to stages below the one that
is made. -/
structure Numbers (owners : Owners) (store : TileStore) (count : Nat) (made : Stage)
    (store' : TileStore) (more : Owners) : Prop where
  length_eq : more.length = count
  doublings_eq : made.doublings = count
  numbered : made.Numbered owners.length
  places : made.Places (Owners.Owns (owners ++ more))
  store_eq : store' = { store with nextStage := UInt32.ofNat (owners ++ more).length }

/-- As long as there are numbers, the next one is the number of those handed out. -/
theorem Numbers.toNat_next {owners more : Owners} {store store' : TileStore} {count : Nat}
    {input : Stage} (h : Numbers owners store count input store' more)
    (hroom : owners.length + (count + 1) ≤ 2 ^ 32) :
    store'.nextStage.toNat = (owners ++ more).length := by
  rw [h.store_eq]
  refine UInt32.toNat_ofNat_of_lt' ?_
  rw [List.length_append, h.length_eq, UInt32.size]
  omega

/-- The next number goes to the doubling. -/
theorem Numbers.shelve {owners more : Owners} {store store' : TileStore} {count : Nat}
    {input : Stage} {noise : Noise} {size : Size} (h : Numbers owners store count input store' more)
    (hroom : owners.length + (count + 1) ≤ 2 ^ 32) :
    Numbers owners store (count + 1) (.cached store'.nextStage (.zoom noise size input))
      { store' with nextStage := store'.nextStage + 1 }
      (more ++ [some (.zoom noise size input)]) where
  length_eq := by rw [List.length_append, h.length_eq]; rfl
  doublings_eq := congrArg (· + 1) h.doublings_eq
  numbered := by
    refine ⟨?_, h.numbered⟩
    rw [h.toNat_next hroom, List.length_append, h.length_eq, h.doublings_eq]
  places := by
    rw [← List.append_assoc]
    refine ⟨?_, h.places.mono fun _ _ howns => howns.append⟩
    rw [Owners.Owns, h.toNat_next hroom, List.getElem?_concat_length]
  store_eq := by
    have hnext : UInt32.ofNat (owners ++ (more ++ [some (Stage.zoom noise size input)])).length =
        UInt32.ofNat (owners ++ more).length + 1 := by
      rw [← List.append_assoc, List.length_append, UInt32.ofNat_add]
      rfl
    rw [h.store_eq, hnext]

/-- **Building hands out numbers** in order, one for each doubling, and each to one stage. -/
theorem exists_numbers :
    ∀ (chain : Chain) (owners : Owners) {folded : Int32} {size : Size} {store store' : TileStore}
    {made : Stage}, store.nextStage = UInt32.ofNat owners.length →
    owners.length + chain.doublings ≤ 2 ^ 32 →
    (chain.wire true folded size).run store = .ok (made, store') →
    ∃ more, Numbers owners store chain.doublings made store' more
  | empty, _, _, _, _, _, _, _, _, h => by cases h
  | stage _ (.source rule) _, owners, _, _, _, store', _, hstore, _, h => by
      obtain ⟨hmade, hsame⟩ := run_lift_eq_ok.mp h
      obtain ⟨-, -, rfl⟩ := Stage.ofSource_eq_ok_iff.mp hmade
      refine ⟨[], rfl, rfl, trivial, trivial, ?_⟩
      rw [hsame, List.append_nil, ← hstore]
  | stage before .zoom _, owners, _, _, _, _, _, hstore, hroom, h => by
      obtain ⟨input, store₁, hinput, h⟩ := run_bind_eq_ok.mp h
      obtain ⟨doubled, store₂, hlift, h⟩ := run_bind_eq_ok.mp h
      obtain ⟨hdoubled, rfl⟩ := run_lift_eq_ok.mp hlift
      obtain ⟨-, -, rfl⟩ := Stage.ofZoom_eq_ok_iff.mp hdoubled
      cases h
      obtain ⟨more, hnumbers⟩ :=
        exists_numbers before owners hstore (by simp only [doublings] at hroom; omega) hinput
      exact ⟨_, hnumbers.shelve hroom⟩
  | stage before (.cross rule) _, owners, _, size, _, _, _, hstore, hroom, h => by
      rw [wire] at h
      cases hhalo : size.haloed? with
      | none => rw [hhalo] at h; cases h
      | some haloed =>
          rw [hhalo] at h
          obtain ⟨input, store₁, hinput, h⟩ := run_bind_eq_ok.mp h
          obtain ⟨hmade, rfl⟩ := run_lift_eq_ok.mp h
          obtain ⟨-, -, -, rfl⟩ := Stage.ofCross_eq_ok_iff.mp hmade
          obtain ⟨more, hnumbers⟩ := exists_numbers before owners hstore hroom hinput
          exact ⟨more, hnumbers.length_eq, hnumbers.doublings_eq, hnumbers.numbered,
            hnumbers.places, hnumbers.store_eq⟩
  | stage before (.cell rule) _, owners, _, size, _, _, _, hstore, hroom, h => by
      obtain ⟨input, store₁, hinput, h⟩ := run_bind_eq_ok.mp h
      obtain ⟨hmade, rfl⟩ := run_lift_eq_ok.mp h
      obtain ⟨-, rfl⟩ := Stage.ofCell_eq_ok_iff.mp hmade
      obtain ⟨more, hnumbers⟩ := exists_numbers before owners hstore hroom hinput
      exact ⟨more, hnumbers.length_eq, hnumbers.doublings_eq, hnumbers.numbered, hnumbers.places,
        hnumbers.store_eq⟩
  | blend before _ secondary _, owners, _, size, store, _, _, hstore, hroom, h => by
      obtain ⟨base, store₁, hbase, h⟩ := run_bind_eq_ok.mp h
      obtain ⟨_, store₂, hcheck, hrest⟩ := run_bind_eq_ok.mp h
      obtain ⟨-, rfl⟩ := run_lift_eq_ok.mp hcheck
      obtain ⟨overlay, store₃, hoverlay, hlift⟩ := run_bind_eq_ok.mp hrest
      obtain ⟨hmade, rfl⟩ := run_lift_eq_ok.mp hlift
      obtain ⟨-, -, rfl⟩ := Stage.ofBlend_eq_ok_iff.mp hmade
      simp only [doublings] at hroom
      -- the numbers of the secondary chain follow those of the main one
      obtain ⟨more, hnumbers⟩ := exists_numbers before owners hstore (by omega) hbase
      obtain ⟨more', hnumbers'⟩ :=
        exists_numbers secondary (owners ++ more) (by rw [hnumbers.store_eq])
        (by rw [List.length_append, hnumbers.length_eq]; omega) hoverlay
      refine ⟨more ++ more', ?_, ?_, ⟨hnumbers.numbered, ?_⟩, ?_, ?_⟩
      · rw [List.length_append, hnumbers.length_eq, hnumbers'.length_eq]; rfl
      · rw [Stage.doublings, hnumbers.doublings_eq, hnumbers'.doublings_eq]; rfl
      · rw [hnumbers.doublings_eq, ← hnumbers.length_eq, ← List.length_append]
        exact hnumbers'.numbered
      · rw [← List.append_assoc]
        exact ⟨hnumbers.places.mono fun _ _ howns => howns.append, hnumbers'.places⟩
      · rw [hnumbers'.store_eq, hnumbers.store_eq, List.append_assoc]

/-! ## Building alone -/

/-- Without a store, wiring makes the stage without places, and leaves the store alone. -/
theorem Makes.run_wire_alone {chain : Chain} {folded : Int32} {size : Size} {made : Stage}
    (h : chain.Makes folded size made) (store : TileStore) :
    (chain.wire false folded size).run store = .ok (made, store) := by
  induction h with
  | source h => exact run_lift_eq_ok.mpr ⟨h, rfl⟩
  | zoom _ h ih =>
      exact run_bind_eq_ok.mpr ⟨_, _, ih,
        run_bind_eq_ok.mpr ⟨_, _, run_lift_eq_ok.mpr ⟨h, rfl⟩, rfl⟩⟩
  | cross hhalo _ h ih =>
      rw [wire, hhalo]
      exact run_bind_eq_ok.mpr ⟨_, _, ih, run_lift_eq_ok.mpr ⟨h, rfl⟩⟩
  | cell _ h ih => exact run_bind_eq_ok.mpr ⟨_, _, ih, run_lift_eq_ok.mpr ⟨h, rfl⟩⟩
  | blend _ hsecondary h ih ih' =>
      have hcheck := checkSources_eq_ok_iff.mpr hsecondary.beginsWithSource
      exact run_bind_eq_ok.mpr ⟨_, _, ih,
        run_bind_eq_ok.mpr ⟨(), _, run_lift_eq_ok.mpr ⟨hcheck, rfl⟩,
        run_bind_eq_ok.mpr ⟨_, _, ih', run_lift_eq_ok.mpr ⟨h, rfl⟩⟩⟩⟩

theorem Makes.run_build_alone {chain : Chain} {folded : Int32} {size : Size} {made : Stage}
    (h : chain.Makes folded size made) (store : TileStore) :
    (chain.build false folded size).run store = .ok (made, store) := by
  have hcheck := checkSources_eq_ok_iff.mpr h.beginsWithSource
  exact run_bind_eq_ok.mpr ⟨(), store, run_lift_eq_ok.mpr ⟨hcheck, rfl⟩, h.run_wire_alone store⟩

/-- A stage that was built alone has no places in a store. -/
theorem bare_of_build {chain : Chain} {folded : Int32} {size : Size} {store store' : TileStore}
    {stage : Stage} (h : (chain.build false folded size).run store = .ok (stage, store')) :
    stage.bare = stage := by
  have hsame := ((makes_of_build h).run_build_alone store).symm.trans h
  exact congrArg Prod.fst (Except.ok.inj hsame)

end Chain

/-! ## Using a store -/

/-- What a chain is built for. -/
structure Order where
  chain : Chain
  folded : Int32
  size : Size

/-- **The states that a store gets into** when chains are built on it and asked for tiles, in any
order and any number of times. `served` lists the stages built so far with what they were built for,
and `handed` counts the numbers that have been handed out. A number may also be given up, when the
building it was for fails later on. -/
inductive Shares (capacity : Nat) : List (Order × Stage) → Nat → TileStore → Prop
  | start : Shares capacity [] 0 (.empty capacity)
  | giveUp {served : List (Order × Stage)} {handed : Nat} {store : TileStore}
      (h : Shares capacity served handed store) :
      Shares capacity served (handed + 1) store.register.2
  | build {served : List (Order × Stage)} {handed : Nat} {store store' : TileStore} {order : Order}
      {stage : Stage} (h : Shares capacity served handed store)
      (hrun : (order.chain.build true order.folded order.size).run store = .ok (stage, store')) :
      Shares capacity ((order, stage) :: served) (handed + order.chain.doublings) store'
  | ask {served : List (Order × Stage)} {handed : Nat} {store store' : TileStore} {order : Order}
      {stage : Stage} {minX minZ : Coord} {tile : Grid} (h : Shares capacity served handed store)
      (hserved : (order, stage) ∈ served)
      (hrun : (stage.generate minX minZ).run store = .ok (tile, store')) :
      Shares capacity served handed store'

namespace Shares
variable {capacity handed : Nat} {served : List (Order × Stage)} {store : TileStore}

/-- Whatever numbers its doublings have, a stage is what its chain makes. -/
theorem makes (h : Shares capacity served handed store) {order : Order} {stage : Stage}
    (hserved : (order, stage) ∈ served) :
    order.chain.Makes order.folded order.size stage.bare := by
  induction h with
  | start => cases hserved
  | giveUp _ ih => exact ih hserved
  | build _ hrun ih =>
      rcases List.mem_cons.mp hserved with heq | hserved
      · cases heq
        exact Chain.makes_of_build hrun
      · exact ih hserved
  | ask _ _ _ ih => exact ih hserved

/-- As long as no number is handed out twice, the store is orderly. -/
theorem exists_owners (h : Shares capacity served handed store) (hroom : handed ≤ 2 ^ 32) :
    ∃ owners : Owners, owners.length = handed ∧ Orderly owners store ∧
      ∀ order stage, (order, stage) ∈ served → stage.Places owners.Owns := by
  induction h with
  | start => exact ⟨[], rfl, .empty capacity, fun _ _ h => by cases h⟩
  | giveUp _ ih =>
      obtain ⟨owners, hlength, horderly, hserved⟩ := ih (Nat.le_of_succ_le hroom)
      -- the number is gone, so it stays without an owner
      refine ⟨owners ++ [none], ?_, ?_, fun order stage hmem => ?_⟩
      · rw [List.length_append, hlength]; rfl
      · have hnext := horderly.handOut [none]
        rwa [List.length_append, UInt32.ofNat_add, ← horderly.nextStage_eq] at hnext
      · exact (hserved order stage hmem).mono fun _ _ howns => howns.append
  | @build _ _ _ _ order stage _ hrun ih =>
      obtain ⟨owners, hlength, horderly, hserved⟩ := ih (Nat.le_of_add_right_le hroom)
      obtain ⟨_, _, hcheck, hwire⟩ := run_bind_eq_ok.mp hrun
      obtain ⟨-, rfl⟩ := run_lift_eq_ok.mp hcheck
      obtain ⟨more, hnumbers⟩ :=
        Chain.exists_numbers order.chain owners horderly.nextStage_eq (hlength ▸ hroom) hwire
      refine ⟨owners ++ more, ?_, hnumbers.store_eq ▸ horderly.handOut more,
        fun other found hmem => ?_⟩
      · rw [List.length_append, hlength, hnumbers.length_eq]
      · -- the stages built earlier keep their numbers
        rcases List.mem_cons.mp hmem with heq | hmem
        · cases heq
          exact hnumbers.places
        · exact (hserved other found hmem).mono fun _ _ howns => howns.append
  | @ask _ _ _ _ order stage minX minZ _ _ hmem hrun ih =>
      obtain ⟨owners, hlength, horderly, hserved⟩ := ih hroom
      -- the run is the one that the orderly store yields, so it leaves an orderly store
      obtain ⟨store₁, hrun₁, horderly₁⟩ :=
        Stage.yields_generate (fun _ _ _ _ => Orderly.yields_fetch)
        (hserved order stage hmem) minX minZ _ horderly
      rw [hrun] at hrun₁
      cases htile : stage.tile minX minZ with
      | error e => rw [htile] at hrun₁; cases hrun₁
      | ok tile =>
          rw [htile] at hrun₁
          cases hrun₁
          exact ⟨owners, hlength, horderly₁, hserved⟩

/-- A stage that was built on the store answers with its tile. -/
theorem exists_run_generate (h : Shares capacity served handed store) (hroom : handed ≤ 2 ^ 32)
    {order : Order} {stage : Stage} (hserved : (order, stage) ∈ served)
    (minX minZ : Coord) : ∃ store',
      (stage.generate minX minZ).run store = (stage.tile minX minZ).map fun tile =>
        (tile, store') := by
  obtain ⟨owners, -, horderly, hplaces⟩ := h.exists_owners hroom
  obtain ⟨store', hrun, -⟩ := Stage.yields_generate (fun _ _ _ _ => Orderly.yields_fetch)
    (hplaces order stage hserved) minX minZ store horderly
  exact ⟨store', hrun⟩

/-- **A store does not show.** Whatever chains have been built on a store and whichever tiles they
have been asked for, with room in the store or without: a stage that was built on it answers every
request exactly as the stage that the same chain makes when it is built alone. -/
theorem generate_eq_alone (h : Shares capacity served handed store) (hroom : handed ≤ 2 ^ 32)
    {order : Order} {stage : Stage} (hserved : (order, stage) ∈ served) :
    ∃ alone,
      (∀ other, (order.chain.build false order.folded order.size).run other = .ok (alone, other)) ∧
      ∀ minX minZ other, ((stage.generate minX minZ).run store).map Prod.fst =
        ((alone.generate minX minZ).run other).map Prod.fst := by
  refine ⟨stage.bare, (h.makes hserved).run_build_alone, fun minX minZ other => ?_⟩
  obtain ⟨store', hrun⟩ := h.exists_run_generate hroom hserved minX minZ
  rw [hrun, Stage.run_generate_bare]
  cases stage.tile minX minZ <;> rfl

/-- The mask of the rarer biomes on a store with room for four tiles, after a first request has
filled it. -/
theorem generate_rarerMask_eq_alone : ∃ served handed store stage,
    (Shares 4 served handed store ∧ handed ≤ 2 ^ 32 ∧
      (⟨Chain.rarerMask, 7, ⟨3, 2⟩⟩, stage) ∈ served) ∧
      ∃ alone, (∀ other, (Chain.rarerMask.build false 7 ⟨3, 2⟩).run other = .ok (alone, other)) ∧
        ∀ minX minZ other, ((stage.generate minX minZ).run store).map Prod.fst =
          ((alone.generate minX minZ).run other).map Prod.fst := by
  have hwell := Chain.wellFormed_rarerMask
  obtain ⟨made, hmade⟩ :=
    @Chain.exists_makes Chain.rarerMask 7 ⟨3, 2⟩ hwell.beginsWithSource hwell.composes rfl
    (by decide)
  obtain ⟨built, store, hbuild, rfl⟩ := hmade.exists_build true (.empty 4)
  have hbuilt :
      Shares 4 [(⟨Chain.rarerMask, 7, ⟨3, 2⟩⟩, built)] (0 + Chain.rarerMask.doublings) store :=
    .build .start hbuild
  have hroom : 0 + Chain.rarerMask.doublings ≤ 2 ^ 32 := by decide
  have hserved := List.mem_singleton_self ((⟨Chain.rarerMask, 7, ⟨3, 2⟩⟩, built) : Order × Stage)
  obtain ⟨tile, htile⟩ := @Stage.exists_tile built.bare hmade.wired 0 0 (by
    rw [hmade.size_eq, hmade.count_eq]
    decide)
  obtain ⟨store', hask⟩ := hbuilt.exists_run_generate hroom hserved 0 0
  rw [← Stage.tile_bare, htile] at hask
  have hasked := Shares.ask hbuilt hserved hask
  exact ⟨_, _, _, built, ⟨hasked, hroom, hserved⟩, hasked.generate_eq_alone hroom hserved⟩

end Shares

/-! ## Chains in use -/

/-- **A chain in use**: a stage it was built into and a store to ask it with. The stage was built
alone, and then any store will do, or it was built on the store, which it may share. The store has
then handed out `2 ^ 32` numbers at most, to all the stages built on it: numbers are 32-bit words
and wrap, and behind them a stage would get the number of another one, and be answered with its
tiles. -/
inductive Chain.Serves (chain : Chain) (folded : Int32) (size : Size) : Stage → TileStore → Prop
  | alone {stage : Stage} {store store' later : TileStore}
      (hrun : (chain.build false folded size).run store = .ok (stage, store')) :
      Serves chain folded size stage later
  | shared {capacity handed : Nat} {served : List (Order × Stage)} {stage : Stage}
      {store : TileStore} (h : Shares capacity served handed store) (hroom : handed ≤ 2 ^ 32)
      (hserved : (⟨chain, folded, size⟩, stage) ∈ served) : Serves chain folded size stage store

namespace Chain.Serves
variable {chain : Chain} {folded : Int32} {size : Size} {stage : Stage} {store later : TileStore}
  {minX minZ : Coord} {tile : Grid}

theorem makes (h : chain.Serves folded size stage store) : chain.Makes folded size stage.bare := by
  cases h with
  | alone hrun => exact makes_of_build hrun
  | shared h hroom hserved => exact h.makes hserved

/-- However the chain is in use, it answers with the tile of the stage. -/
theorem exists_run_generate (h : chain.Serves folded size stage store)
    (minX minZ : Coord) : ∃ store', (stage.generate minX minZ).run store =
      (stage.tile minX minZ).map fun tile => (tile, store') := by
  cases h with
  | alone hrun =>
      have hgenerate := stage.run_generate_bare minX minZ store
      rw [bare_of_build hrun] at hgenerate
      exact ⟨store, hgenerate⟩
  | shared h hroom hserved => exact h.exists_run_generate hroom hserved minX minZ

/-- A chain in use answers with a tile, if memory can hold what the tile is made from. -/
theorem exists_tile (h : chain.Serves folded size stage store)
    (hroom : size.Addressable (2 * chain.stageCount)) (minX minZ : Coord) :
    ∃ tile later, (stage.generate minX minZ).run store = .ok (tile, later) := by
  have hmakes := h.makes
  obtain ⟨tile, htile⟩ := @Stage.exists_tile stage.bare hmakes.wired minX minZ
    (by rw [hmakes.size_eq, hmakes.count_eq]; exact hroom)
  obtain ⟨later, hrun⟩ := h.exists_run_generate minX minZ
  rw [← Stage.tile_bare, htile] at hrun
  exact ⟨tile, later, hrun⟩

theorem tile_eq (h : chain.Serves folded size stage store)
    (hrun : (stage.generate minX minZ).run store = .ok (tile, later)) :
    stage.bare.tile minX minZ = .ok tile := by
  obtain ⟨later', hrun'⟩ := h.exists_run_generate minX minZ
  rw [hrun] at hrun'
  rw [Stage.tile_bare]
  cases htile : stage.tile minX minZ with
  | error e => rw [htile] at hrun'; cases hrun'
  | ok found => rw [htile] at hrun'; cases hrun'; rfl

/-- A chain that has been asked is still in use. -/
theorem ask (h : chain.Serves folded size stage store)
    (hrun : (stage.generate minX minZ).run store = .ok (tile, later)) :
    chain.Serves folded size stage later := by
  cases h with
  | alone hbuild => exact .alone hbuild
  | shared h hroom hserved => exact .shared (.ask h hserved hrun) hroom hserved

end Chain.Serves

end BiomeAtlas
