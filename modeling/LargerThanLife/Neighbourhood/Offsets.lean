import LargerThanLife.Neighbourhood.Shape

/-! The relative coordinates of the neighbours of a cell, in reading order: row by row, and from
left to right in a row. The main statement is that the list holds exactly the points within the
radius other than the origin. -/

namespace LargerThanLife

/-- A relative coordinate. -/
structure Offset where
  dx : Int
  dy : Int
  deriving DecidableEq, Repr

/-- The integers from `-radius` to `radius`, in increasing order. -/
def span (radius : Nat) : List Int :=
  (List.range (2 * radius + 1)).map fun (i : Nat) => (i : Int) - radius

namespace Shape

/-- The columns of the neighbours in the row `dy`. -/
def columns (shape : Shape) (radius : Nat) (dy : Int) : List Int :=
  (span radius).filter fun dx => (dx ≠ 0 || dy ≠ 0) && shape.contains dx dy radius

/-- Every point within `radius` of the origin, the origin left out, in reading order. -/
def offsets (shape : Shape) (radius : Nat) : List Offset :=
  (span radius).flatMap fun dy => (shape.columns radius dy).map fun dx => ⟨dx, dy⟩

end Shape

theorem mem_span {radius : Nat} {d : Int} : d ∈ span radius ↔ -radius ≤ d ∧ d ≤ radius := by
  simp only [span, List.mem_map, List.mem_range]
  constructor
  · rintro ⟨i, hi, rfl⟩
    omega
  · intro h
    exact ⟨(d + radius).toNat, by omega, by omega⟩

theorem Shape.natAbs_le_distance (shape : Shape) (dx dy : Int) :
    dx.natAbs ≤ shape.distance dx dy ∧ dy.natAbs ≤ shape.distance dx dy := by
  cases shape <;> simp only [distance] <;> omega

theorem Shape.mem_offsets {shape : Shape} {radius : Nat} {o : Offset} :
    o ∈ shape.offsets radius ↔
      (o.dx ≠ 0 ∨ o.dy ≠ 0) ∧ shape.contains o.dx o.dy radius := by
  obtain ⟨dx, dy⟩ := o
  simp only [offsets, columns, List.mem_flatMap, List.mem_map, List.mem_filter, mem_span,
    Bool.and_eq_true, Bool.or_eq_true, decide_eq_true_eq, Offset.mk.injEq]
  constructor
  · rintro ⟨_, _, _, ⟨_, other, inside⟩, rfl, rfl⟩
    exact ⟨other, inside⟩
  · rintro ⟨other, inside⟩
    have near : shape.distance dx dy ≤ radius := by simpa [contains] using inside
    have := shape.natAbs_le_distance dx dy
    exact ⟨dy, by omega, dx, ⟨by omega, other, inside⟩, rfl, rfl⟩

end LargerThanLife
