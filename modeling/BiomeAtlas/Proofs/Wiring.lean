import BiomeAtlas.Stage.Wiring
import BiomeAtlas.Proofs.Tile

/-! # What the wiring functions accept

Each function of `BiomeAtlas.Stage.Wiring` checks a few conditions and puts one stage on top of
others. Here the conditions are stated without the checks: numbers in range (`InRange`), no empty
list of candidates (`CandidateTable.Complete`), a target that the alphabet contains and an input
whose alphabet is accepted (`Fits`). One lemma for each function says that it succeeds exactly under
its conditions, and which stage it makes (`Stage.ofZoom_eq_ok_iff` and its siblings).

A stage all of whose nodes satisfy their conditions is `Stage.Wired`.
-/
namespace BiomeAtlas

/-! ## Checks -/

/-- A check in front of a computation has to pass, and nothing else. -/
theorem check_bind_eq_ok {ε β : Type} {check : Except ε Unit} {f : Unit → Except ε β} {b : β} :
    (check >>= f) = .ok b ↔ check = .ok () ∧ f () = .ok b := by
  rw [bind_eq_ok]
  constructor
  · rintro ⟨⟨⟩, hcheck, h⟩; exact ⟨hcheck, h⟩
  · rintro ⟨hcheck, h⟩; exact ⟨(), hcheck, h⟩

theorem ok_eq_ok_iff {ε α : Type} {a b : α} : (.ok a : Except ε α) = .ok b ↔ b = a :=
  ⟨fun h => by cases h; rfl, fun h => h ▸ rfl⟩

theorem ite_eq_ok_iff {ε α : Type} {p : Prop} [Decidable p] {a b : α} {e : ε} :
    (if p then .ok a else .error e : Except ε α) = .ok b ↔ p ∧ a = b := by
  by_cases h : p
  · simp [h]
  · simp [h]

theorem checkRange_eq_ok_iff {name : String} {value max : Int32} :
    checkRange name value max = .ok () ↔ 0 ≤ value ∧ value ≤ max := by
  rw [checkRange, ite_eq_ok_iff, and_iff_left rfl]

theorem Size.checkNonempty_eq_ok_iff {size : Size} :
    size.checkNonempty = .ok () ↔ size.isEmpty = false := by
  unfold Size.checkNonempty
  cases size.isEmpty <;> simp

theorem Size.isEmpty_eq_false_iff {size : Size} :
    size.isEmpty = false ↔ size.width ≠ 0 ∧ size.height ≠ 0 := by
  simp [Size.isEmpty]

theorem Size.haloed?_eq_some_iff {size haloed : Size} : size.haloed? = some haloed ↔
    (size.width + 2 < wordLimit ∧ size.height + 2 < wordLimit) ∧
    haloed = ⟨size.width + 2, size.height + 2⟩ := by
  unfold Size.haloed? fitWord?
  by_cases hw : size.width + 2 < wordLimit
  · by_cases hh : size.height + 2 < wordLimit
    · simp [hw, hh, eq_comm]
    · simp [hw, hh]
  · simp [hw]

theorem Alphabet.check_eq_ok_iff {alphabet : Alphabet} {stage : String} {value : Cell} :
    alphabet.check stage value = .ok () ↔ alphabet.contains value = true := by
  rw [Alphabet.check, ite_eq_ok_iff, and_iff_left rfl]

/-- Only biomes are accepted where biomes are read. -/
theorem Alphabet.accepts_biome_iff {found : Alphabet} :
    Alphabet.biome.accepts found = true ↔ found = .biome := by
  cases found <;> decide

theorem Stage.checkInput_eq_ok_iff {input : Stage} {reader : String} {size : Size}
    {reads : Alphabet} :
    input.checkInput reader size reads = .ok () ↔ input.size = size ∧
    reads.accepts input.alphabet = true := by
  unfold Stage.checkInput
  by_cases hsize : input.size = size
  · rw [if_neg (fun h => h hsize), ite_eq_ok_iff]
    simp [hsize]
  · rw [if_pos hsize]
    simp [hsize]

/-! ## Conditions -/

/-- Every group has candidates, with the rare flag and without it. -/
def CandidateTable.Complete (table : CandidateTable) : Prop :=
  ∀ group, table.normal.get group ≠ [] ∧ table.rare.get group ≠ []

theorem CandidateTable.validate_eq_ok_iff {table : CandidateTable} :
    table.validate = .ok () ↔ table.Complete := by
  have hall : ∀ entries : ByGroup (List Biome),
      (Group.all.find? fun group => (entries.get group).isEmpty) = none ↔ ∀ group,
        entries.get group ≠ [] := by
    intro entries
    rw [List.find?_eq_none]
    constructor
    · intro h group
      simpa using h group (by cases group <;> decide)
    · intro h group _
      simpa using h group
  unfold CandidateTable.validate CandidateTable.firstEmpty? CandidateTable.Complete
  rw [forall_and, ← hall, ← hall]
  cases hnormal : Group.all.find? fun group => (table.normal.get group).isEmpty with
  | some group => simp
  | none =>
      cases hrare : Group.all.find? fun group => (table.rare.get group).isEmpty with
      | some group => simp
      | none => simp

/-- The number of a source is in range. -/
def Source.InRange : Source → Prop
  | choice range => 0 < range
  | landOcean threshold => 0 ≤ threshold ∧ threshold ≤ 100

/-- The chance of a cross rule is in range. -/
def CrossRule.InRange : CrossRule → Prop
  | addToOcean chance _ => 0 ≤ chance ∧ chance ≤ 1000
  | _ => True

/-- The chance of a cell rule is in range. -/
def CellRule.InRange : CellRule → Prop
  | addIslands chance | replaceRandomly _ _ chance | setRandomly chance _ | rareGroups chance =>
    0 ≤ chance ∧ chance ≤ 1000
  | materialize _ => True

/-- No list of a table is empty. -/
def CellRule.HasCandidates : CellRule → Prop
  | materialize table => table.Complete
  | _ => True

/-- The value that a cross rule is set up to write. -/
def CrossRule.target? : CrossRule → Option Cell
  | addToOcean _ new => some new
  | _ => none

/-- The value that a cell rule is set up to write. -/
def CellRule.target? : CellRule → Option Cell
  | replaceRandomly _ new _ | setRandomly _ new => some new
  | _ => none

/-- What a cross rule asks for when its input writes `found`. -/
structure CrossRule.Fits (rule : CrossRule) (found : Alphabet) : Prop where
  inRange : rule.InRange
  target : ∀ value, rule.target? = some value → found.contains value = true
  accepts : rule.reads.accepts found = true

/-- What a cell rule asks for when its input writes `found`. -/
structure CellRule.Fits (rule : CellRule) (found : Alphabet) : Prop where
  inRange : rule.InRange
  candidates : rule.HasCandidates
  target : ∀ value, rule.target? = some value → found.contains value = true
  accepts : rule.reads.accepts found = true

/-- What a blend rule asks for when its inputs write `found` and `overlay`. -/
structure BlendRule.Fits (rule : BlendRule) (found overlay : Alphabet) : Prop where
  accepts : Alphabet.biome.accepts found = true
  acceptsOverlay : rule.readsOverlay.accepts overlay = true

/-! ## The wiring functions -/

namespace Stage
variable {seed : Int32} {size : Size} {stage input base overlay : Stage}

theorem ofSource_eq_ok_iff {rule : Source} : ofSource rule seed size = .ok stage ↔
    size.isEmpty = false ∧ rule.InRange ∧ stage = .source rule ⟨seed⟩ size := by
  cases rule with
  | choice range =>
      change (size.checkNonempty >>= fun _ => (if range ≤ 0 then .error (.invalidRange range)
        else .ok (.source (.choice range) ⟨seed⟩ size))) = .ok stage ↔ _
      rw [check_bind_eq_ok, Size.checkNonempty_eq_ok_iff]
      refine and_congr_right fun _ => ?_
      by_cases h : range ≤ 0
      · simp [h, Source.InRange, Int32.not_lt.mpr h]
      · rw [if_neg h, ok_eq_ok_iff]
        simp [Source.InRange, Int32.not_le.mp h]
  | landOcean threshold =>
      change (size.checkNonempty >>= fun _ => checkPercent _ threshold >>= fun _ =>
        .ok (.source (.landOcean threshold) ⟨seed⟩ size)) = .ok stage ↔ _
      rw [check_bind_eq_ok, check_bind_eq_ok, Size.checkNonempty_eq_ok_iff, checkPercent,
        checkRange_eq_ok_iff, ok_eq_ok_iff]
      rfl

theorem ofZoom_eq_ok_iff : ofZoom seed size input = .ok stage ↔
    size.isEmpty = false ∧ input.size = size.halved ∧ stage = .zoom ⟨seed⟩ size input := by
  change (size.checkNonempty >>= fun _ => input.checkInput _ size.halved .region >>= fun _ =>
    .ok (.zoom ⟨seed⟩ size input)) = .ok stage ↔ _
  rw [check_bind_eq_ok, check_bind_eq_ok, Size.checkNonempty_eq_ok_iff,
    checkInput_eq_ok_iff, ok_eq_ok_iff]
  simp [Alphabet.accepts]

theorem ofCross_eq_ok_iff {rule : CrossRule} : ofCross rule seed size input = .ok stage ↔
    size.isEmpty = false ∧ size.haloed? = some input.size ∧ rule.Fits input.alphabet ∧
      stage = .cross rule ⟨seed⟩ size input := by
  -- All rules share the checks of the tile;
  -- only the one with a target has checks of its own in front.
  have hshared : ofCross rule seed size input = .ok stage ↔
      ((∀ value, rule.target? = some value → Alphabet.biome.contains value = true) ∧ rule.InRange) ∧
        size.isEmpty = false ∧ size.haloed? = some input.size ∧
        rule.reads.accepts input.alphabet = true ∧
          stage = .cross rule ⟨seed⟩ size input := by
    cases hhalo : size.haloed? with
    | none => cases rule <;> simp [ofCross, hhalo, check_bind_eq_ok, -bind_pure_comp]
    | some haloed =>
        have htile : (size.checkNonempty >>= fun _ =>
            input.checkInput rule.name haloed rule.reads >>= fun _ =>
            .ok (.cross rule ⟨seed⟩ size input)) = .ok stage ↔
            size.isEmpty = false ∧ some haloed = some input.size ∧
              rule.reads.accepts input.alphabet = true ∧
              stage = .cross rule ⟨seed⟩ size input := by
          rw [check_bind_eq_ok, check_bind_eq_ok, Size.checkNonempty_eq_ok_iff,
            checkInput_eq_ok_iff, ok_eq_ok_iff, Option.some.injEq, and_assoc, @eq_comm _ haloed]
        rw [← htile]
        cases rule with
        | addToOcean chance new =>
            simp only [ofCross, hhalo]
            rw [check_bind_eq_ok, check_bind_eq_ok, Alphabet.check_eq_ok_iff, checkPermille,
              checkRange_eq_ok_iff, ← and_assoc]
            simp only [CrossRule.target?, Option.some.injEq, forall_eq']
            rfl
        | smooth | beaches | groupEdges | biomeEdges | river =>
            simp only [ofCross, hhalo]
            exact (and_iff_right ⟨fun _ hv => (by cases hv), trivial⟩).symm
  rw [hshared]
  constructor
  · rintro ⟨⟨htarget, hrange⟩, hsize, hhalo, hreads, h⟩
    refine ⟨hsize, hhalo, ⟨hrange, fun value hv => ?_, hreads⟩, h⟩
    cases rule with
    | addToOcean chance new => exact Alphabet.accepts_biome_iff.mp hreads ▸ htarget value hv
    | _ => cases hv
  · rintro ⟨hsize, hhalo, hfits, h⟩
    refine ⟨⟨fun value hv => ?_, hfits.inRange⟩, hsize, hhalo, hfits.accepts, h⟩
    cases rule with
    | addToOcean chance new =>
        exact Alphabet.accepts_biome_iff.mp hfits.accepts ▸ hfits.target value hv
    | _ => cases hv

theorem ofCell_eq_ok_iff {rule : CellRule} : ofCell rule seed input = .ok stage ↔
    rule.Fits input.alphabet ∧ stage = .cell rule ⟨seed⟩ input := by
  have haccepts : (input.checkInput rule.name input.size rule.reads) = .ok () ↔
      rule.reads.accepts input.alphabet = true := by
    rw [checkInput_eq_ok_iff, and_iff_right rfl]
  cases rule with
  | addIslands chance | rareGroups chance =>
      change (input.checkInput _ input.size _ >>= fun _ => checkPermille _ chance >>= fun _ =>
        .ok _) = .ok stage ↔ _
      rw [check_bind_eq_ok, check_bind_eq_ok, checkPermille, checkRange_eq_ok_iff,
        ok_eq_ok_iff, haccepts]
      constructor
      · rintro ⟨hreads, hchance, h⟩
        exact ⟨⟨hchance, trivial, fun _ hv => (by cases hv), hreads⟩, h⟩
      · rintro ⟨hfits, h⟩
        exact ⟨hfits.accepts, hfits.inRange, h⟩
  | replaceRandomly _ new chance | setRandomly chance new =>
      change (input.alphabet.check _ new >>= fun _ => checkPermille _ chance >>= fun _ =>
        .ok _) = .ok stage ↔ _
      rw [check_bind_eq_ok, check_bind_eq_ok, checkPermille, checkRange_eq_ok_iff, ok_eq_ok_iff,
        Alphabet.check_eq_ok_iff]
      constructor
      · rintro ⟨hnew, hchance, h⟩
        exact ⟨⟨hchance, trivial, fun _ hv => (by cases hv; exact hnew), rfl⟩, h⟩
      · rintro ⟨hfits, h⟩
        exact ⟨hfits.target new rfl, hfits.inRange, h⟩
  | materialize table =>
      change (table.validate >>= fun _ => input.checkInput _ input.size _ >>= fun _ =>
        .ok _) = .ok stage ↔ _
      rw [check_bind_eq_ok, check_bind_eq_ok, CandidateTable.validate_eq_ok_iff,
        ok_eq_ok_iff, haccepts]
      constructor
      · rintro ⟨hcomplete, hreads, h⟩
        exact ⟨⟨trivial, hcomplete, fun _ hv => (by cases hv), hreads⟩, h⟩
      · rintro ⟨hfits, h⟩
        exact ⟨hfits.candidates, hfits.accepts, h⟩

theorem ofBlend_eq_ok_iff {rule : BlendRule} : ofBlend rule base overlay = .ok stage ↔
    overlay.size = base.size ∧ rule.Fits base.alphabet overlay.alphabet ∧
    stage = .blend rule base overlay := by
  change (base.checkInput _ base.size .biome >>= fun _ =>
    overlay.checkInput _ base.size _ >>= fun _ =>
    .ok (.blend rule base overlay)) = .ok stage ↔ _
  rw [check_bind_eq_ok, check_bind_eq_ok, checkInput_eq_ok_iff, checkInput_eq_ok_iff, ok_eq_ok_iff]
  constructor
  · rintro ⟨⟨-, hbase⟩, ⟨hsize, hoverlay⟩, h⟩
    exact ⟨hsize, ⟨hbase, hoverlay⟩, h⟩
  · rintro ⟨hsize, hfits, h⟩
    exact ⟨⟨rfl, hfits.accepts⟩, ⟨hsize, hfits.acceptsOverlay⟩, h⟩

/-! ## Wired stages -/

/-- **A stage wired as the functions above wire it**: every node satisfies the conditions of its
kind, down to the leaves. A given column function may be a leaf of any size; a place in a store adds
no condition. -/
inductive Wired : Stage → Prop
  | source {rule : Source} {noise : Noise} {size : Size} (hsize : size.isEmpty = false)
      (hrange : rule.InRange) :
      Wired (.source rule noise size)
  | sampled {name : String} {alphabet : Alphabet} {size : Size} {field : Coord → Coord → Cell} :
      Wired (.sampled name alphabet size field)
  | zoom {noise : Noise} {size : Size} {coarser : Stage} (hsize : size.isEmpty = false)
      (hinput : coarser.size = size.halved) (hwired : coarser.Wired) :
      Wired (.zoom noise size coarser)
  | cross {rule : CrossRule} {noise : Noise} {size : Size} {input : Stage}
      (hsize : size.isEmpty = false) (hinput : size.haloed? = some input.size)
      (hfits : rule.Fits input.alphabet) (hwired : input.Wired) :
      Wired (.cross rule noise size input)
  | cell {rule : CellRule} {noise : Noise} {input : Stage} (hfits : rule.Fits input.alphabet)
      (hwired : input.Wired) : Wired (.cell rule noise input)
  | blend {rule : BlendRule} {base overlay : Stage} (hsize : overlay.size = base.size)
      (hfits : rule.Fits base.alphabet overlay.alphabet) (hbase : base.Wired)
      (hoverlay : overlay.Wired) :
      Wired (.blend rule base overlay)
  | cached {number : UInt32} {input : Stage} (hwired : input.Wired) : Wired (.cached number input)

theorem wired_ofSource {rule : Source} (h : ofSource rule seed size = .ok stage) : stage.Wired := by
  obtain ⟨hsize, hrange, rfl⟩ := ofSource_eq_ok_iff.mp h
  exact .source hsize hrange

theorem wired_ofZoom (hwired : input.Wired) (h : ofZoom seed size input = .ok stage) :
    stage.Wired := by
  obtain ⟨hsize, hinput, rfl⟩ := ofZoom_eq_ok_iff.mp h
  exact .zoom hsize hinput hwired

theorem wired_ofCross {rule : CrossRule} (hwired : input.Wired)
    (h : ofCross rule seed size input = .ok stage) :
    stage.Wired := by
  obtain ⟨hsize, hinput, hfits, rfl⟩ := ofCross_eq_ok_iff.mp h
  exact .cross hsize hinput hfits hwired

theorem wired_ofCell {rule : CellRule} (hwired : input.Wired)
    (h : ofCell rule seed input = .ok stage) :
    stage.Wired := by
  obtain ⟨hfits, rfl⟩ := ofCell_eq_ok_iff.mp h
  exact .cell hfits hwired

theorem wired_ofBlend {rule : BlendRule} (hbase : base.Wired) (hoverlay : overlay.Wired)
    (h : ofBlend rule base overlay = .ok stage) : stage.Wired := by
  obtain ⟨hsize, hfits, rfl⟩ := ofBlend_eq_ok_iff.mp h
  exact .blend hsize hfits hbase hoverlay

/-! ## Places in a store do not matter to the checks -/

/-- Forgets the places in a store of what a wiring function made. -/
def strip (result : Except BuildError Stage) : Except BuildError Stage :=
  result.map bare

@[simp] theorem checkInput_bare (input : Stage) : input.bare.checkInput = input.checkInput := by
  funext reader size reads
  simp only [checkInput, size_bare, alphabet_bare]

theorem strip_ofSource {rule : Source} :
    strip (ofSource rule seed size) = ofSource rule seed size := by
  cases h : ofSource rule seed size with
  | error e => rfl
  | ok stage =>
      obtain ⟨-, -, rfl⟩ := ofSource_eq_ok_iff.mp h
      rfl

theorem strip_check {check : Except BuildError Unit} {next : Unit → Except BuildError Stage} :
    strip (check >>= next) = check >>= fun u => strip (next u) := by
  cases check <;> rfl

theorem strip_ofZoom : strip (ofZoom seed size input) = ofZoom seed size input.bare := by
  simp only [ofZoom, strip_check, checkInput_bare]
  rfl

theorem strip_ofCross {rule : CrossRule} :
    strip (ofCross rule seed size input) = ofCross rule seed size input.bare := by
  cases rule <;> simp only [ofCross, strip_check, checkInput_bare] <;> cases size.haloed? <;>
    simp only [strip_check] <;> rfl

theorem strip_ofCell {rule : CellRule} :
    strip (ofCell rule seed input) = ofCell rule seed input.bare := by
  cases rule <;> simp only [ofCell, strip_check, checkInput_bare, size_bare, alphabet_bare] <;> rfl

theorem strip_ofBlend {rule : BlendRule} :
    strip (ofBlend rule base overlay) = ofBlend rule base.bare overlay.bare := by
  simp only [ofBlend, strip_check, checkInput_bare, size_bare]
  rfl

end Stage
end BiomeAtlas
