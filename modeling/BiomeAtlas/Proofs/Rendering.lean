import Mathlib.Data.Set.Card
import BiomeAtlas.MapTool.Basic
import BiomeAtlas.Proofs.Cells

/-! # Images of grids

An image is written as one stream of bytes and read in two ways: by stride, for a single pixel, and
in chunks of four, for the list of colours. All cells are written as pieces of the same length, so
both ways find the piece of the cell that they ask for (`Image.getElem?_pixels_render`), whatever
the sides of the grid are. An image is therefore the grid seen through the palette
(`Image.render_faithful`).
-/
namespace BiomeAtlas

/-! ## Pieces of one length -/

/-- Pieces of one length are found back in the list that they make up. -/
theorem getElem?_flatMap_of_length {α β : Type} {piece : α → List β} {n k : Nat}
    (hlength : ∀ a, (piece a).length = n) (hk : k < n)
    (l : List α) (i : Nat) : (l.flatMap piece)[n * i + k]? = l[i]?.bind fun a => (piece a)[k]? := by
  induction l generalizing i with
  | nil => rw [List.flatMap_nil, List.getElem?_nil, List.getElem?_nil, Option.bind_none]
  | cons a l ih =>
      rw [List.flatMap_cons]
      cases i with
      | zero =>
          have hfirst : k < (piece a).length := hlength a ▸ hk
          rw [Nat.mul_zero, Nat.zero_add, List.getElem?_append_left hfirst, List.getElem?_cons_zero,
            Option.bind_some]
      | succ i =>
          have hlater : n * (i + 1) + k = (piece a).length + (n * i + k) := by
            rw [hlength, Nat.mul_succ]
            omega
          rw [hlater, List.getElem?_append_right (Nat.le_add_right ..), Nat.add_sub_cancel_left, ih,
            List.getElem?_cons_succ]

/-- A list is what its places hold, one after the other. -/
theorem filterMap_range_getElem? {α β : Type} {f : α → β} (l : List α) :
    (List.range l.length).filterMap (fun i => l[i]?.map f) = l.map f := by
  induction l with
  | nil => rfl
  | cons a l ih =>
      rw [List.length_cons, List.range_succ_eq_map, List.filterMap_cons, List.filterMap_map,
        List.map_cons]
      exact congrArg (f a :: ·) ih

/-- A set that is made of a list has one element for each value in the list. -/
theorem size_ofList_eq_ncard {α : Type} [DecidableEq α] [Hashable α] (l : List α) :
    (Std.HashSet.ofList l).size = {a | a ∈ l}.ncard := by
  have hnodup : (Std.HashSet.ofList l).toList.Nodup :=
    Std.HashSet.distinct_toList.imp fun hne => beq_eq_false_iff_ne.mp hne
  have hsame : {a | a ∈ l} = ((Std.HashSet.ofList l).toList.toFinset : Set α) := by
    ext a
    rw [Finset.mem_coe, List.mem_toFinset, Std.HashSet.mem_toList, Std.HashSet.mem_ofList,
      List.contains_iff_mem, Set.mem_ofPred_eq]
  rw [hsame, Set.ncard_coe_finset, List.toFinset_card_of_nodup hnodup, Std.HashSet.length_toList]

/-! ## The cells of a grid -/

namespace Grid
variable {grid : Grid}

/-- The values that the cells of a grid have. -/
def contents (grid : Grid) : Set Cell :=
  {value | ∃ x z, grid.get x z = .ok value}

theorem contents_eq : grid.contents = {value | value ∈ grid.values.toList} := by
  ext value
  rw [contents, Set.mem_ofPred_eq, Set.mem_ofPred_eq, Array.mem_toList_iff]
  exact ⟨fun ⟨_, _, hget⟩ => mem_of_get hget, exists_get_of_mem⟩

/-- There are finitely many. -/
theorem finite_contents : grid.contents.Finite := by
  rw [contents_eq]
  exact List.finite_toSet _

end Grid

theorem MapTool.distinctValues_eq {grid : Grid} : distinctValues grid = grid.contents.ncard := by
  rw [distinctValues, size_ofList_eq_ncard, Grid.contents_eq]

/-! ## Pixels -/

namespace Image
variable {palette : Cell → Color} {grid : Grid} {x z : Nat} {value : Cell}

/-- There are four bytes for each cell. -/
theorem size_pixels_render : (render palette grid).pixels.size = 4 * grid.size.cells := by
  have hconst : ∀ values : List Cell, (values.map fun _ => 4).sum = 4 * values.length := by
    intro values
    rw [List.map_const', List.sum_replicate_nat, Nat.mul_comm]
  rw [← grid.size_values, render, Array.size_flatMap, ← Array.sum_toList, Array.toList_map,
    ← Array.length_toList]
  exact hconst _

/-- The bytes of a cell are where its number says. -/
theorem getElem?_pixels_render (i : Nat) {k : Nat} (hk : k < 4) :
    (render palette grid).pixels[4 * i + k]? = grid.values[i]?.bind fun value =>
      [(palette value).red, (palette value).green, (palette value).blue, 255][k]? := by
  have hlength : ∀ value, [(palette value).red, (palette value).green, (palette value).blue,
    255].length = 4 := fun _ => rfl
  rw [render, ← Array.getElem?_toList, Array.toList_flatMap, ← Array.getElem?_toList]
  exact getElem?_flatMap_of_length hlength hk _ i

/-- **The four bytes of a cell** are its colour and that it is opaque. -/
theorem bytes_render {i : Nat} (hvalue : grid.values[i]? = some value) :
    (render palette grid).pixels[4 * i]? = some (palette value).red ∧
    (render palette grid).pixels[4 * i + 1]? = some (palette value).green ∧
    (render palette grid).pixels[4 * i + 2]? = some (palette value).blue ∧
    (render palette grid).pixels[4 * i + 3]? = some 255 := by
  have hbyte : ∀ k, k < 4 → (render palette grid).pixels[4 * i + k]? =
      [(palette value).red, (palette value).green, (palette value).blue, 255][k]? := by
    intro k hk
    rw [getElem?_pixels_render i hk, hvalue, Option.bind_some]
  exact ⟨hbyte 0 (by decide), hbyte 1 (by decide), hbyte 2 (by decide), hbyte 3 (by decide)⟩

/-- A pixel has the colour of its cell, and is opaque. -/
theorem pixel?_render (hget : grid.get x z = .ok value) :
    (render palette grid).pixel? x z = some (palette value, 255) := by
  obtain ⟨hinside, hvalue⟩ := Grid.get_eq_ok_iff.mp hget
  have hinside : x < (render palette grid).width ∧ z < (render palette grid).height := hinside
  have hstart : (x + z * (render palette grid).width) * 4 = 4 * grid.index x z := Nat.mul_comm ..
  obtain ⟨hred, hgreen, hblue, hopaque⟩ := @bytes_render palette _ _ _ hvalue
  unfold pixel?
  rw [guard, if_pos hinside, hstart]
  dsimp only
  rw [hred, hgreen, hblue, hopaque]
  rfl

/-- There are no pixels outside. -/
theorem pixel?_eq_none {image : Image} (hout : ¬ (x < image.width ∧ z < image.height)) :
    image.pixel? x z = none := by
  unfold pixel?
  rw [guard, if_neg hout]
  rfl

/-- The colours are those of the cells, in the same order. -/
theorem colors_render : (render palette grid).colors = grid.values.toList.map palette := by
  have hcount : (render palette grid).pixels.size / 4 = grid.values.toList.length := by
    rw [size_pixels_render, Nat.mul_div_cancel_left _ (by decide), Array.length_toList,
      grid.size_values]
  rw [colors, hcount, ← filterMap_range_getElem?]
  refine List.filterMap_congr fun i hi => ?_
  have hvalue := List.getElem?_eq_getElem (List.mem_range.mp hi)
  obtain ⟨hred, hgreen, hblue, -⟩ :=
    @bytes_render palette _ _ _ (Array.getElem?_toList.symm.trans hvalue)
  rw [hvalue, hred, hgreen, hblue]
  rfl

theorem distinctColors_render :
    (render palette grid).distinctColors = (palette '' grid.contents).ncard := by
  rw [distinctColors, size_ofList_eq_ncard, colors_render, Grid.contents_eq]
  refine congrArg Set.ncard (Set.ext fun color => ?_)
  rw [Set.mem_ofPred_eq, List.mem_map, Set.mem_image]
  rfl

/-- **An image is faithful to its grid**, for every palette. It has the sides of the grid and four
bytes for each cell. Inside, the pixel at a position has the colour of the cell there and is opaque;
outside there are none. There are as many colours as the palette has for the cells, so never more
than the number of values that is reported for the map. -/
theorem render_faithful (palette : Cell → Color) (grid : Grid) :
    ((render palette grid).width = grid.size.width ∧
      (render palette grid).height = grid.size.height ∧
      (render palette grid).pixels.size = 4 * grid.size.width * grid.size.height) ∧
    (∀ x z, x < grid.size.width → z < grid.size.height →
      ∃ value, grid.get x z = .ok value ∧
        (render palette grid).pixel? x z = some (palette value, 255)) ∧
    (∀ x z, ¬ (x < grid.size.width ∧ z < grid.size.height) →
      (render palette grid).pixel? x z = none) ∧
    (render palette grid).distinctColors = (palette '' grid.contents).ncard ∧
    (render palette grid).distinctColors ≤ MapTool.distinctValues grid := by
  have hbytes : 4 * grid.size.width * grid.size.height = 4 * grid.size.cells := Nat.mul_assoc ..
  refine ⟨⟨rfl, rfl, ?_⟩, fun x z hx hz => ?_, fun x z hout => pixel?_eq_none hout,
    distinctColors_render, ?_⟩
  · rw [size_pixels_render, hbytes]
  · obtain ⟨value, hget⟩ := Grid.exists_get hx hz
    exact ⟨value, hget, pixel?_render hget⟩
  · rw [distinctColors_render, MapTool.distinctValues_eq]
    exact Set.ncard_image_le Grid.finite_contents

end Image
end BiomeAtlas
