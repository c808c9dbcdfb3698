import BiomeAtlas.Proofs.Layout
import BiomeAtlas.Proofs.Workers

/-! # Crews

What a crew of workers does while it resolves a region is described by two invariants of its steps:
work and tiles in flight belong to anchors that were asked for (`Crew.Sound`), and every tile of the
region is still to be made, or in flight, or in the region (`Crew.Complete`). So nothing fails
(`Crew.Complete.not_fails`), and what everybody leaves behind is the whole region
(`Crew.Complete.shows`). They do leave: the number of steps is bounded (`Crew.Within`), and until
the end there is somebody who can go on (`Crew.Complete.exists_step`).
-/
namespace BiomeAtlas

/-! ## What is in flight -/

namespace Crew
variable {owners : Owners} {root : Stage} {asked : Coord → Coord → Prop} {crew next : Crew}
  {before after : List Worker} {worker other : Worker}

/-- The jobs, the work and the delivered tiles belong to anchors that are asked for, and the store
is orderly. -/
structure Sound (owners : Owners) (root : Stage) (asked : Coord → Coord → Prop)
    (crew : Crew) : Prop where
  orderly : Orderly owners crew.store
  jobs : ∀ x z, (x, z) ∈ crew.jobs → asked x z
  busy : ∀ work, .busy work ∈ crew.workers → ∃ x z,
    asked x z ∧ work.Keeps (Orderly owners) (root.tile x z)
  delivered : ∀ tile ∈ crew.delivered, ∃ x z, asked x z ∧ root.tile x z = .ok tile

/-- **Every step keeps the crew sound.** -/
theorem Sound.step (hplaces : root.Places owners.Owns) (h : crew.Sound owners root asked)
    (hstep : Step root crew next) :
    next.Sound owners root asked := by
  cases hstep with
  | @take before after x z jobs hworkers hjobs =>
      refine ⟨h.orderly, fun x' z' hmem => ?_, fun work hmem => ?_, h.delivered⟩
      · exact h.jobs x' z' (hjobs ▸ List.mem_cons_of_mem _ hmem)
      · rcases eq_or_mem_replaced hmem .idle with heq | hmem
        · cases heq
          exact ⟨x, z, h.jobs x z (hjobs ▸ List.mem_cons_self ..), Stage.keeps_work hplaces x z⟩
        · exact h.busy work (hworkers ▸ hmem)
  | @use before after work made store hworkers hstep =>
      obtain ⟨x, z, hasked, hkeeps⟩ := h.busy work (hworkers ▸ mem_replaced before after _)
      obtain ⟨horderly, hmade⟩ := hkeeps.step h.orderly hstep
      refine ⟨horderly, h.jobs, fun work' hmem => ?_, h.delivered⟩
      rcases eq_or_mem_replaced hmem (.busy work) with heq | hmem
      · cases heq
        exact ⟨x, z, hasked, hmade⟩
      · exact h.busy work' (hworkers ▸ hmem)
  | @deliver before after tile hworkers =>
      refine ⟨h.orderly, h.jobs, fun work hmem => ?_, fun tile' hmem => ?_⟩
      · rcases eq_or_mem_replaced hmem (.busy (.done (.ok tile))) with heq | hmem
        · cases heq
        · exact h.busy work (hworkers ▸ hmem)
      · rcases List.mem_append.mp hmem with hmem | hmem
        · exact h.delivered tile' hmem
        · cases List.mem_singleton.mp hmem
          obtain ⟨x, z, hasked, hkeeps⟩ := h.busy _ (hworkers ▸ mem_replaced before after _)
          exact ⟨x, z, hasked, Eq.symm hkeeps⟩
  | @leave before after hworkers hjobs =>
      exact ⟨h.orderly, h.jobs,
        fun work hmem => h.busy work (hworkers ▸ mem_of_mem_rest hmem .idle), h.delivered⟩
  | paste hdelivered hpaste =>
      exact ⟨h.orderly, h.jobs, h.busy,
        fun tile' hmem => h.delivered tile' (hdelivered ▸ List.mem_cons_of_mem _ hmem)⟩

theorem Sound.reaches (hplaces : root.Places owners.Owns) {start : Crew}
    (h : start.Sound owners root asked) {n : Nat} (hreaches : Reaches root start n crew) :
    crew.Sound owners root asked := by
  induction hreaches with
  | start => exact h
  | step _ hstep ih => exact ih.step hplaces hstep

/-! ## What becomes of the tiles of a region -/

variable {layout : Layout} {tx tz : Nat}

/-- The anchor belongs to one of the tiles of the layout. -/
def Asked (layout : Layout) (x z : Coord) : Prop :=
  ∃ tx tz, layout.Has tx tz ∧ x = layout.anchorX tx ∧ z = layout.anchorZ tz

/-- A tile of a region is still to be made, or in flight, or in the region. -/
inductive Accounts (owners : Owners) (root : Stage) (layout : Layout) (crew : Crew)
    (tx tz : Nat) : Prop
  | queued (hmem : (layout.anchorX tx, layout.anchorZ tz) ∈ crew.jobs)
  | inWork {work : Work Grid} (hmem : .busy work ∈ crew.workers)
      (hkeeps : work.Keeps (Orderly owners) (root.tile (layout.anchorX tx) (layout.anchorZ tz)))
  | delivered {tile : Grid} (hmem : tile ∈ crew.delivered)
      (htile : root.tile (layout.anchorX tx) (layout.anchorZ tz) = .ok tile)
  | pasted (hshows : layout.Shows root crew.region tx tz)

/-- No tile of the region gets lost, and no job is left when all have left. -/
structure Complete (owners : Owners) (root : Stage) (layout : Layout) (crew : Crew) : Prop where
  sound : crew.Sound owners root (Asked layout)
  region_at : crew.region.Occupies layout.minX layout.minZ layout.size
  accounts : ∀ tx tz, layout.Has tx tz → crew.Accounts owners root layout tx tz
  manned : crew.workers = [] → crew.jobs = []

/-- **Every step accounts for all tiles.** -/
theorem Complete.step (hplaces : root.Places owners.Owns) (hsize : root.size = layout.tile)
    (hfits : layout.Fits) (h : crew.Complete owners root layout) (hstep : Step root crew next) :
    next.Complete owners root layout := by
  have hsound := h.sound.step hplaces hstep
  cases hstep with
  | @take before after x z jobs hworkers hjobs =>
      refine ⟨hsound, h.region_at, fun tx tz hhas => ?_, fun hnone => by simp at hnone⟩
      cases h.accounts tx tz hhas with
      | queued hmem =>
          rcases List.mem_cons.mp (hjobs ▸ hmem) with heq | hmem
          · -- the tile whose job is taken is in work
            obtain ⟨rfl, rfl⟩ := Prod.mk.inj heq
            exact .inWork (mem_replaced before after _) (Stage.keeps_work hplaces _ _)
          · exact .queued hmem
      | @inWork work hmem hkeeps =>
          rcases eq_or_mem_replaced (hworkers ▸ hmem) (.busy (root.work x z)) with heq | hmem
          · cases heq
          · exact .inWork hmem hkeeps
      | delivered hmem htile => exact .delivered hmem htile
      | pasted hshows => exact .pasted hshows
  | @use before after work made store hworkers hstep =>
      refine ⟨hsound, h.region_at, fun tx tz hhas => ?_, fun hnone => by simp at hnone⟩
      cases h.accounts tx tz hhas with
      | queued hmem => exact .queued hmem
      | @inWork work' hmem hkeeps =>
          rcases eq_or_mem_replaced (hworkers ▸ hmem) (.busy made) with heq | hmem
          · -- the tile that comes of the work stays the same
            cases heq
            exact .inWork (mem_replaced before after _) (hkeeps.step h.sound.orderly hstep).2
          · exact .inWork hmem hkeeps
      | delivered hmem htile => exact .delivered hmem htile
      | pasted hshows => exact .pasted hshows
  | @deliver before after tile hworkers =>
      refine ⟨hsound, h.region_at, fun tx tz hhas => ?_, fun hnone => by simp at hnone⟩
      cases h.accounts tx tz hhas with
      | queued hmem => exact .queued hmem
      | @inWork work hmem hkeeps =>
          rcases eq_or_mem_replaced (hworkers ▸ hmem) .idle with heq | hmem
          · -- the tile that has been in work is delivered
            cases heq
            exact .delivered (List.mem_append_right _ (List.mem_singleton_self tile))
              (Eq.symm hkeeps)
          · exact .inWork hmem hkeeps
      | delivered hmem htile => exact .delivered (List.mem_append_left _ hmem) htile
      | pasted hshows => exact .pasted hshows
  | @leave before after hworkers hjobs =>
      refine ⟨hsound, h.region_at, fun tx tz hhas => ?_, fun _ => hjobs⟩
      cases h.accounts tx tz hhas with
      | queued hmem => exact .queued hmem
      | @inWork work hmem hkeeps =>
          rcases mem_rest (hworkers ▸ hmem) with heq | hmem
          · cases heq
          · exact .inWork hmem hkeeps
      | delivered hmem htile => exact .delivered hmem htile
      | pasted hshows => exact .pasted hshows
  | @paste tile region delivered hdelivered hpaste =>
      have hmem := h.sound.delivered tile (hdelivered ▸ List.mem_cons_self ..)
      obtain ⟨x, z, ⟨tx, tz, hhas, rfl, rfl⟩, htile⟩ := hmem
      obtain ⟨pasted, hpasted, hat, hshown⟩ := hfits.shows_paste hsize hhas h.region_at htile
      cases hpaste.symm.trans hpasted
      refine ⟨hsound, hat, fun tx' tz' hhas' => ?_, h.manned⟩
      cases h.accounts tx' tz' hhas' with
      | queued hmem => exact .queued hmem
      | inWork hmem hkeeps => exact .inWork hmem hkeeps
      | delivered hmem htile' =>
          rcases List.mem_cons.mp (hdelivered ▸ hmem) with heq | hmem
          · -- this is the tile that has been pasted
            cases heq
            exact .pasted (hshown tx' tz' hhas' (Or.inr htile'))
          · exact .delivered hmem htile'
      | pasted hshows => exact .pasted (hshown tx' tz' hhas' (Or.inl hshows))

theorem Complete.reaches (hplaces : root.Places owners.Owns) (hsize : root.size = layout.tile)
    (hfits : layout.Fits) {start : Crew} (h : start.Complete owners root layout) {n : Nat}
    (hreaches : Reaches root start n crew) :
    crew.Complete owners root layout := by
  induction hreaches with
  | start => exact h
  | step _ hstep ih => exact ih.step hplaces hsize hfits hstep

/-- What has been delivered can be pasted. -/
theorem Complete.exists_paste (hsize : root.size = layout.tile) (hfits : layout.Fits)
    (h : crew.Complete owners root layout) {tile : Grid} {delivered : List Grid}
    (hdelivered : crew.delivered = tile :: delivered) :
    ∃ region, crew.region.paste tile = .ok region := by
  obtain ⟨x, z, ⟨tx, tz, hhas, rfl, rfl⟩, htile⟩ :=
    h.sound.delivered tile (hdelivered ▸ List.mem_cons_self ..)
  obtain ⟨pasted, hpasted, -⟩ := hfits.shows_paste hsize hhas h.region_at htile
  exact ⟨pasted, hpasted⟩

/-- **Where faults come from**: what fails is a tile of the region. -/
theorem Complete.error_of_fails (hsize : root.size = layout.tile) (hfits : layout.Fits)
    (h : crew.Complete owners root layout) {fault : Fault} (hfails : crew.Fails fault) :
    ∃ tx tz, layout.Has tx tz ∧ root.tile (layout.anchorX tx)
      (layout.anchorZ tz) = .error fault := by
  cases hfails with
  | work hmem =>
      obtain ⟨x, z, ⟨tx, tz, hhas, rfl, rfl⟩, hkeeps⟩ := h.sound.busy _ hmem
      exact ⟨tx, tz, hhas, Eq.symm hkeeps⟩
  | paste hdelivered hpaste =>
      obtain ⟨region, hpasted⟩ := h.exists_paste hsize hfits hdelivered
      cases hpaste.symm.trans hpasted

/-- **Nothing fails**, if all tiles of the region exist. -/
theorem Complete.not_fails (hsize : root.size = layout.tile) (hfits : layout.Fits)
    (h : crew.Complete owners root layout) (htiles : ∀ tx tz, layout.Has tx tz → ∃ tile,
      root.tile (layout.anchorX tx) (layout.anchorZ tz) = .ok tile)
    (fault : Fault) : ¬ crew.Fails fault := by
  intro hfails
  obtain ⟨tx, tz, hhas, herror⟩ := h.error_of_fails hsize hfits hfails
  obtain ⟨tile, htile⟩ := htiles tx tz hhas
  cases htile.symm.trans herror

/-- **Somebody can go on**, until the crew is finished. -/
theorem Complete.exists_step (hsize : root.size = layout.tile) (hfits : layout.Fits)
    (h : crew.Complete owners root layout) (htiles : ∀ tx tz, layout.Has tx tz → ∃ tile,
      root.tile (layout.anchorX tx) (layout.anchorZ tz) = .ok tile)
    (hopen : ¬ crew.Finished) : ∃ next, Step root crew next := by
  cases hdelivered : crew.delivered with
  | cons tile delivered =>
      obtain ⟨region, hpasted⟩ := h.exists_paste hsize hfits hdelivered
      exact ⟨_, .paste hdelivered hpasted⟩
  | nil =>
      cases hworkers : crew.workers with
      | nil => exact absurd ⟨hworkers, hdelivered⟩ hopen
      | cons worker others =>
          have hfront : crew.workers = [] ++ worker :: others := hworkers
          cases worker with
          | idle =>
              cases hjobs : crew.jobs with
              | nil => exact ⟨_, .leave hfront hjobs⟩
              | cons job jobs => exact ⟨_, .take hfront hjobs⟩
          | busy work =>
              cases work with
              | done result =>
                  cases result with
                  | ok tile => exact ⟨_, .deliver hfront⟩
                  | error fault =>
                      have hfails : crew.Fails fault := .work (hworkers ▸ List.mem_cons_self ..)
                      exact absurd hfails (h.not_fails hsize hfits htiles fault)
              | find | room | settle => exact ⟨_, .use hfront rfl⟩

/-- A finished crew leaves the whole region behind. -/
theorem Complete.shows (h : crew.Complete owners root layout) (hfinished : crew.Finished)
    (hhas : layout.Has tx tz) :
    layout.Shows root crew.region tx tz := by
  cases h.accounts tx tz hhas with
  | queued hmem =>
      rw [h.manned hfinished.workers_eq] at hmem
      cases hmem
  | inWork hmem _ =>
      rw [hfinished.workers_eq] at hmem
      cases hmem
  | delivered hmem _ =>
      rw [hfinished.delivered_eq] at hmem
      cases hmem
  | pasted hshows => exact hshows

/-! ## The end -/

end Crew

/-- At most `n` steps are left before the worker waits for a job again, and can leave. -/
def Worker.Within : Worker → Nat → Prop
  | idle, n => 1 ≤ n
  | busy work, n => ∃ m, work.Within m ∧ m + 3 ≤ n

/-- At most `n` steps of workers are left, not counting those for further jobs. -/
def Worker.AllWithin : List Worker → Nat → Prop
  | [], _ => True
  | worker :: others, n => ∃ a b, worker.Within a ∧ AllWithin others b ∧ a + b ≤ n

namespace Crew

/-- One worker can be counted before the others. -/
theorem allWithin_iff {after : List Worker} {worker : Worker} : ∀ {before : List Worker} {n : Nat},
    Worker.AllWithin (before ++ worker :: after) n ↔
      ∃ a b, worker.Within a ∧ Worker.AllWithin (before ++ after) b ∧ a + b ≤ n
  | [], n => Iff.rfl
  | first :: before, n => by
      constructor
      · rintro ⟨a, b, hfirst, hothers, hle⟩
        obtain ⟨c, d, hworker, hrest, hle'⟩ := allWithin_iff.mp hothers
        exact ⟨c, a + d, hworker, ⟨a, d, hfirst, hrest, Nat.le_refl _⟩, by omega⟩
      · rintro ⟨c, b, hworker, ⟨a, d, hfirst, hrest, hle'⟩, hle⟩
        exact ⟨a, c + d, hfirst, allWithin_iff.mpr ⟨c, d, hworker, hrest, Nat.le_refl _⟩, by omega⟩

/-- At most `n` steps are left: for every job those that a tile takes, and taking, delivering and
pasting it. -/
def Within (root : Stage) (crew : Crew) (n : Nat) : Prop :=
  ∃ m, Worker.AllWithin crew.workers m ∧
    crew.jobs.length * (root.operations + 3) + m + crew.delivered.length ≤ n

variable {root : Stage} {crew next : Crew} {n : Nat}

/-- **Every step brings the end nearer.** -/
theorem Within.step (h : crew.Within root n) (hstep : Step root crew next) :
    ∃ m < n, next.Within root m := by
  obtain ⟨m, hworkers, hle⟩ := h
  cases hstep with
  | @take before after x z jobs hcrew hjobs =>
      rw [hcrew] at hworkers
      obtain ⟨a, b, hidle, hothers, hsum⟩ := allWithin_iff.mp hworkers
      rw [hjobs, List.length_cons, Nat.succ_mul] at hle
      have hbusy : (Worker.busy (root.work x z)).Within (root.operations + 3) :=
        ⟨root.operations, root.within_work x z, Nat.le_refl _⟩
      have hone : 1 ≤ a := hidle
      exact ⟨n - 1, by omega, _,
        allWithin_iff.mpr ⟨_, _, hbusy, hothers, Nat.le_refl _⟩, by dsimp only; omega⟩
  | @use before after work made store hcrew hmade =>
      rw [hcrew] at hworkers
      obtain ⟨a, b, ⟨k, hwork, hk⟩, hothers, hsum⟩ := allWithin_iff.mp hworkers
      obtain ⟨j, hj, hless⟩ := hwork.step hmade
      exact ⟨n - 1, by omega, _,
        allWithin_iff.mpr ⟨_, _, ⟨j, hless, Nat.le_refl _⟩, hothers, Nat.le_refl _⟩,
        by dsimp only; omega⟩
  | @deliver before after tile hcrew =>
      rw [hcrew] at hworkers
      obtain ⟨a, b, ⟨k, -, hk⟩, hothers, hsum⟩ := allWithin_iff.mp hworkers
      exact ⟨n - 1, by omega, _, allWithin_iff.mpr ⟨1, _, Nat.le_refl 1, hothers, Nat.le_refl _⟩, by
        rw [List.length_append, List.length_singleton]; dsimp only; omega⟩
  | @leave before after hcrew hjobs =>
      rw [hcrew] at hworkers
      obtain ⟨a, b, hidle, hothers, hsum⟩ := allWithin_iff.mp hworkers
      have hone : 1 ≤ a := hidle
      exact ⟨n - 1, by omega, b, hothers, by dsimp only; omega⟩
  | paste hdelivered hpaste =>
      rw [hdelivered, List.length_cons] at hle
      exact ⟨n - 1, by omega, m, hworkers, by dsimp only; omega⟩

theorem Within.reaches {start : Crew} (h : start.Within root n) {k : Nat}
    (hreaches : Reaches root start k crew) :
    ∃ m, k + m ≤ n ∧ crew.Within root m := by
  induction hreaches with
  | start => exact ⟨n, by omega, h⟩
  | step _ hstep ih =>
      obtain ⟨m, hm, hwithin⟩ := ih
      obtain ⟨l, hl, hnext⟩ := hwithin.step hstep
      exact ⟨l, by omega, hnext⟩

/-- Each worker who waits can leave in one step. -/
theorem allWithin_replicate : ∀ n : Nat, Worker.AllWithin (List.replicate n .idle) n
  | 0 => trivial
  | n + 1 => ⟨1, n, Nat.le_refl 1, allWithin_replicate n, by omega⟩

/-! ## Success -/

/-- **A crew succeeds**, whoever does what when: it comes to an end, nothing fails on the way,
somebody can go on until the end, and in the end the region is whole. -/
structure Succeeds (root : Stage) (start : Crew) (region : Grid) : Prop where
  ends : ∃ most, ∀ n crew, Reaches root start n crew → n ≤ most
  safe : ∀ n crew, Reaches root start n crew → ∀ fault, ¬ crew.Fails fault
  live : ∀ n crew, Reaches root start n crew → ¬ crew.Finished → ∃ next, Step root crew next
  whole : ∀ n crew, Reaches root start n crew → crew.Finished → crew.region = region

/-- If all tiles exist, a crew that accounts for them succeeds, and leaves the region behind that
shows all of them. -/
theorem Complete.succeeds {owners : Owners} {layout : Layout} {start : Crew}
    {region : Grid} {n : Nat} (hplaces : root.Places owners.Owns) (hsize : root.size = layout.tile)
    (hfits : layout.Fits) (h : start.Complete owners root layout) (hwithin : start.Within root n)
    (htiles : ∀ tx tz, layout.Has tx tz → ∃ tile,
      root.tile (layout.anchorX tx) (layout.anchorZ tz) = .ok tile)
    (hregion : ∀ grid : Grid, grid.Occupies layout.minX layout.minZ layout.size →
      (∀ tx tz, layout.Has tx tz → layout.Shows root grid tx tz) → grid = region) :
    start.Succeeds root region where
  ends := by
    refine ⟨n, fun k crew hreaches => ?_⟩
    obtain ⟨m, hm, -⟩ := hwithin.reaches hreaches
    omega
  safe k crew hreaches := (h.reaches hplaces hsize hfits hreaches).not_fails hsize hfits htiles
  live k crew hreaches hopen :=
    (h.reaches hplaces hsize hfits hreaches).exists_step hsize hfits htiles hopen
  whole k crew hreaches hfinished := by
    have hcomplete := h.reaches hplaces hsize hfits hreaches
    exact hregion crew.region hcomplete.region_at fun tx tz hhas => hcomplete.shows hfinished hhas

end Crew

end BiomeAtlas
