import LargerThanLife.Proofs.Board.Picture
import LargerThanLife.Proofs.Board.Plane

/-! Boards in a mirror. A neighbourhood looks the same from left and right, from above and below, and
along rows and columns, and all four edges cut it off alike. So a board develops as its image in a
mirror does. Every board has such images, and they are boards like any other. -/

namespace LargerThanLife

/-- A way to mirror a grid. -/
inductive Reflection where
  | leftRight
  | topBottom
  /-- at the diagonal: rows become columns -/
  | diagonal
  deriving DecidableEq, Repr

namespace Reflection

/-- The number of columns and rows of the image of a grid. -/
def size (σ : Reflection) (width height : ℕ) : ℕ × ℕ :=
  match σ with
  | leftRight => (width, height)
  | topBottom => (width, height)
  | diagonal => (height, width)

def cell (σ : Reflection) (width height : ℕ) (p : ℕ × ℕ) : ℕ × ℕ :=
  match σ with
  | leftRight => (width - 1 - p.1, p.2)
  | topBottom => (p.1, height - 1 - p.2)
  | diagonal => (p.2, p.1)

/-- The image of a place of the plane that the grid lies on. -/
def place (σ : Reflection) (width height : ℕ) (x y : ℤ) : ℤ × ℤ :=
  match σ with
  | leftRight => (width - 1 - x, y)
  | topBottom => (x, height - 1 - y)
  | diagonal => (y, x)

def turn (σ : Reflection) (o : Offset) : Offset :=
  match σ with
  | leftRight => ⟨-o.dx, o.dy⟩
  | topBottom => ⟨o.dx, -o.dy⟩
  | diagonal => ⟨o.dy, o.dx⟩

variable {σ : Reflection} {width height : ℕ}

/-! ### Cells and places -/

@[simp] theorem size_size (σ : Reflection) (width height : ℕ) :
    σ.size (σ.size width height).1 (σ.size width height).2 = (width, height) := by
  cases σ <;> rfl

theorem area_size (σ : Reflection) (width height : ℕ) :
    (σ.size width height).1 * (σ.size width height).2 = width * height := by
  cases σ with
  | leftRight => rfl
  | topBottom => rfl
  | diagonal => exact Nat.mul_comm height width

theorem cell_lt {p : ℕ × ℕ} (on : p.1 < width ∧ p.2 < height) :
    (σ.cell width height p).1 < (σ.size width height).1 ∧
      (σ.cell width height p).2 < (σ.size width height).2 := by
  cases σ <;> simp only [cell, size] <;> omega

theorem cell_cell {p : ℕ × ℕ} (on : p.1 < width ∧ p.2 < height) :
    σ.cell (σ.size width height).1 (σ.size width height).2 (σ.cell width height p) = p := by
  cases σ with
  | leftRight => exact Prod.ext (by simp only [cell, size]; omega) rfl
  | topBottom => exact Prod.ext rfl (by simp only [cell, size]; omega)
  | diagonal => rfl

theorem place_natCast {p : ℕ × ℕ} (on : p.1 < width ∧ p.2 < height) :
    σ.place width height p.1 p.2 =
      (((σ.cell width height p).1 : ℤ), ((σ.cell width height p).2 : ℤ)) := by
  cases σ with
  | leftRight => exact Prod.ext (by simp only [cell, place]; omega) rfl
  | topBottom => exact Prod.ext rfl (by simp only [cell, place]; omega)
  | diagonal => rfl

theorem place_add (σ : Reflection) (width height : ℕ) (x y : ℤ) (o : Offset) :
    σ.place width height (x + o.dx) (y + o.dy) =
      ((σ.place width height x y).1 + (σ.turn o).dx, (σ.place width height x y).2 + (σ.turn o).dy) := by
  cases σ with
  | leftRight => exact Prod.ext (by simp only [place, turn]; omega) rfl
  | topBottom => exact Prod.ext rfl (by simp only [place, turn]; omega)
  | diagonal => rfl

theorem covers_place (σ : Reflection) (width height : ℕ) (x y : ℤ) :
    (0 ≤ (σ.place width height x y).1 ∧ (σ.place width height x y).1 < (σ.size width height).1 ∧
        0 ≤ (σ.place width height x y).2 ∧ (σ.place width height x y).2 < (σ.size width height).2) ↔
      0 ≤ x ∧ x < width ∧ 0 ≤ y ∧ y < height := by
  cases σ <;> simp only [place, size] <;> omega

/-! ### Offsets -/

@[simp] theorem turn_turn (σ : Reflection) (o : Offset) : σ.turn (σ.turn o) = o := by
  cases σ <;> simp [turn]

theorem distance_turn (σ : Reflection) (shape : Shape) (o : Offset) :
    shape.distance (σ.turn o).dx (σ.turn o).dy = shape.distance o.dx o.dy := by
  cases σ with
  | leftRight => cases shape <;> simp [turn, Shape.distance]
  | topBottom => cases shape <;> simp [turn, Shape.distance]
  | diagonal => exact shape.distance_swap _ _

theorem turn_mem_offsets {shape : Shape} {radius : ℕ} {o : Offset} :
    σ.turn o ∈ shape.offsets radius ↔ o ∈ shape.offsets radius := by
  rw [Shape.mem_offsets, Shape.mem_offsets, Shape.contains_iff, Shape.contains_iff, distance_turn]
  cases σ <;> simp only [turn] <;> omega

/-- A mirror permutes the neighbours. -/
theorem map_turn_offsets_perm (σ : Reflection) (shape : Shape) (radius : ℕ) :
    ((shape.offsets radius).map σ.turn).Perm (shape.offsets radius) := by
  have injective : Function.Injective σ.turn := fun o p same => by
    rw [← σ.turn_turn o, same, σ.turn_turn]
  refine (List.perm_ext_iff_of_nodup ((shape.nodup_offsets radius).map injective)
    (shape.nodup_offsets radius)).mpr fun o => ?_
  rw [List.mem_map]
  constructor
  · rintro ⟨p, listed, rfl⟩
    exact turn_mem_offsets.mpr listed
  · intro listed
    exact ⟨σ.turn o, turn_mem_offsets.mpr listed, σ.turn_turn o⟩

/-! ### Boards -/

/-- The board `b'` is the image of the board `b`. -/
structure Maps (σ : Reflection) (b b' : Board) : Prop where
  size_eq : (b'.width, b'.height) = σ.size b.width b.height
  configuration_eq : b'.configuration = b.configuration
  get_eq : ∀ m < b.width, ∀ n < b.height,
    b'.get (σ.cell b.width b.height (m, n)).1 (σ.cell b.width b.height (m, n)).2 = b.get m n

namespace Maps

variable {width' height' : ℕ} {c : Configuration} {b b' : Board}

theorem on_image (image : σ.Maps b b') {p : ℕ × ℕ} (on : p.1 < b.width ∧ p.2 < b.height) :
    (σ.cell b.width b.height p).1 < b'.width ∧ (σ.cell b.width b.height p).2 < b'.height := by
  have inside := cell_lt (σ := σ) on
  rwa [← image.size_eq] at inside

theorem plane_eq (image : σ.Maps b b') (x y : ℤ) :
    b'.plane (σ.place b.width b.height x y).1 (σ.place b.width b.height x y).2 = b.plane x y := by
  have same_cover := σ.covers_place b.width b.height x y
  rw [← image.size_eq] at same_cover
  by_cases covered : b.Covers x y
  · obtain ⟨m, n, rfl, rfl, on⟩ := Board.exists_cell_of_covers covered
    have same := image.get_eq m on.1 n on.2
    rw [Board.get_eq_plane on, Board.get_eq_plane (image.on_image (p := (m, n)) on)] at same
    rw [place_natCast (p := (m, n)) on]
    exact Except.ok.inj same
  · rw [Board.plane_of_not_covers covered, Board.plane_of_not_covers (mt same_cover.mp covered)]

/-- A cell and its image have equally many live neighbours. -/
theorem liveBeside_eq (image : σ.Maps b b') (c : Configuration) {p : ℕ × ℕ}
    (on : p.1 < b.width ∧ p.2 < b.height) :
    c.liveBeside b'.plane (σ.cell b.width b.height p).1 (σ.cell b.width b.height p).2 =
      c.liveBeside b.plane p.1 p.2 := by
  have here := place_natCast (σ := σ) on
  rw [Configuration.liveBeside, Configuration.liveBeside, Configuration.offsets,
    ← (σ.map_turn_offsets_perm c.shape c.radius).countP_eq, List.countP_map]
  refine List.countP_congr fun o _ => ?_
  have there := image.plane_eq (p.1 + o.dx) (p.2 + o.dy)
  rw [place_add, here] at there
  rw [Function.comp_apply, there]

theorem step (sound : Board.Sound width height c b) (sound' : Board.Sound width' height' c b')
    (image : σ.Maps b b') : σ.Maps b.step b'.step where
  size_eq := image.size_eq
  configuration_eq := image.configuration_eq
  get_eq := by
    intro m hm n hn
    have on : m < b.width ∧ n < b.height := ⟨hm, hn⟩
    have on' := image.on_image (p := (m, n)) on
    have here := image.get_eq m hm n hn
    rw [Board.get_eq_plane on, Board.get_eq_plane on'] at here
    change b'.step.get (σ.cell b.width b.height (m, n)).1 (σ.cell b.width b.height (m, n)).2 = _
    rw [Board.get_eq_plane (b := b.step) on, Board.get_eq_plane (b := b'.step) on',
      Board.plane_step sound (by omega), Board.plane_step sound' (by omega)]
    have around := image.liveBeside_eq c (p := (m, n)) on
    rw [Configuration.evolve, Configuration.evolve, Except.ok.inj here, around]

theorem stepN (sound : Board.Sound width height c b) (sound' : Board.Sound width' height' c b')
    (image : σ.Maps b b') (n : ℕ) : σ.Maps (Board.stepN n b) (Board.stepN n b') := by
  induction n generalizing b b' with
  | zero => exact image
  | succ n ih => exact ih sound.step sound'.step (image.step sound sound')

theorem liveNeighbours_eq (sound : Board.Sound width height c b)
    (sound' : Board.Sound width' height' c b') (image : σ.Maps b b') {p : ℕ × ℕ}
    (on : p.1 < b.width ∧ p.2 < b.height) :
    b'.liveNeighbours (σ.cell b.width b.height p).1 (σ.cell b.width b.height p).2 =
      b.liveNeighbours p.1 p.2 := by
  rw [Board.liveNeighbours_eq_liveBeside sound on,
    Board.liveNeighbours_eq_liveBeside sound' (image.on_image on), image.liveBeside_eq c on]

end Maps

theorem exists_maps {b : Board} (reach : b.Reachable) (σ : Reflection) :
    ∃ b' : Board, b'.Reachable ∧ σ.Maps b b' := by
  have sound := reach.sound
  have area := σ.area_size b.width b.height
  have back := σ.size_size b.width b.height
  generalize mirrored : σ.size b.width b.height = size at area back
  obtain ⟨width', height'⟩ := size
  -- the cell of the image shows the cell that it is the image of
  let picture : ℕ × ℕ → Cell := fun p =>
    b.plane (σ.cell width' height' p).1 (σ.cell width' height' p).2
  obtain ⟨b', reach', sound', shown⟩ := Board.exists_reachable_get_eq (c := b.configuration)
    (area ▸ sound.area_pos) (area ▸ sound.area_lt) picture
    fun _ _ _ _ => Board.plane_le_maxState sound _ _
  refine ⟨b', reach', ?_, sound'.configuration_eq, ?_⟩
  · rw [sound'.width_eq, sound'.height_eq, mirrored]
  · intro m hm n hn
    have inside := cell_lt (σ := σ) (p := (m, n)) ⟨hm, hn⟩
    have again := cell_cell (σ := σ) (p := (m, n)) ⟨hm, hn⟩
    rw [mirrored] at inside again
    rw [shown _ inside.1 _ inside.2, Board.get_eq_plane ⟨hm, hn⟩]
    simp only [picture, Prod.mk.eta, again]

/-- Every board has images in mirrors, and such an image stays the image of the board from step to
step, with equally many live neighbours at a cell and at the image of the cell. -/
theorem maps_stepN {b : Board} (reach : b.Reachable) (σ : Reflection) :
    (∃ b' : Board, b'.Reachable ∧ σ.Maps b b') ∧
      ∀ b' : Board, b'.Reachable → σ.Maps b b' →
        (∀ n, σ.Maps (Board.stepN n b) (Board.stepN n b')) ∧
          ∀ m < b.width, ∀ n < b.height,
            b'.liveNeighbours (σ.cell b.width b.height (m, n)).1 (σ.cell b.width b.height (m, n)).2 =
              b.liveNeighbours m n := by
  refine ⟨exists_maps reach σ, fun b' reach' image => ?_⟩
  have sound' := reach'.sound
  rw [Board.WellFormed, image.configuration_eq] at sound'
  exact ⟨image.stepN reach.sound sound', fun m hm n hn =>
    image.liveNeighbours_eq reach.sound sound' (p := (m, n)) ⟨hm, hn⟩⟩

/-- The board `corner` of three columns and two rows, with its rows as columns. -/
theorem maps_stepN_corner :
    ∃ b' : Board, b'.Reachable ∧ b'.width = 2 ∧ b'.height = 3 ∧ diagonal.Maps .corner b' ∧
      diagonal.Maps (Board.stepN 3 .corner) (Board.stepN 3 b') ∧ b'.liveNeighbours 0 1 = .ok 2 := by
  let b' := (Board.blank 2 3 .decaying).run [.raise 0 0, .raise 0 1, .raise 1 0, .set 1 2 3]
  have reach' : b'.Reachable := ⟨.usual, 2, 3, .decaying, _, _, rfl, rfl⟩
  have image : diagonal.Maps .corner b' :=
    ⟨by decide +kernel, by decide +kernel, by decide +kernel⟩
  obtain ⟨-, develops⟩ := maps_stepN Board.reachable_corner diagonal
  obtain ⟨steps, counts⟩ := develops b' reach' image
  have two : Board.corner.liveNeighbours 1 0 = .ok 2 := by decide +kernel
  exact ⟨b', reach', by decide +kernel, by decide +kernel, image, steps 3,
    (counts 1 (by decide) 0 (by decide)).trans two⟩

end Reflection

end LargerThanLife
