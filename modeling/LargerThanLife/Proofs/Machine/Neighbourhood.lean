import LargerThanLife.Proofs.Machine.Board
import LargerThanLife.Proofs.Neighbourhood.Count

/-! Neighbourhoods in machine words. A radius has 8 bits, and a coordinate relative to a cell is an
integer of 32 bits, of which the absolute value or a sum may not be one. They are one whenever the two
absolute values add up to one; so the machine decides what is within a radius for points far beyond any
radius, and it lists the neighbours and counts them for every radius that there is. -/

namespace LargerThanLife.Machine

/-- A radius as an integer of 32 bits. -/
def reachOf (radius : UInt8) : Int32 := Int32.ofNat radius.toNat

/-- Is a point within the radius of the origin? -/
def contains (shape : Shape) (dx dy : Int32) (radius : UInt8) : Except Halt Bool := do
  let width ← magnitude dx
  let height ← magnitude dy
  match shape with
  | .moore => return (if width ≤ height then height else width) ≤ reachOf radius
  | .vonNeumann => return (← signed (width.toInt + height.toInt)) ≤ reachOf radius

/-- The number of points within the radius of the origin, the origin left out. -/
def neighbourCount (shape : Shape) (radius : UInt8) : Except Halt UInt64 := do
  let double ← full.mul 2 radius.toUInt64
  match shape with
  | .moore =>
    let side ← full.next double
    full.previous (← full.mul side side)
  | .vonNeumann => full.mul double (← full.next radius.toUInt64)

/-- Is a point other than the origin within the radius of it? -/
def isNeighbour (shape : Shape) (radius : UInt8) (o : Int32 × Int32) : Except Halt Bool :=
  if o = (0, 0) then return false else contains shape o.1 o.2 radius

/-- The neighbours, row by row. Room for them is made beforehand. -/
def offsets (shape : Shape) (radius : UInt8) : Except Halt (List (Int32 × Int32)) := do
  let low ← signed (-(reachOf radius).toInt)
  let _ ← neighbourCount shape radius
  let row := between low (reachOf radius)
  keep (isNeighbour shape radius) (row.flatMap fun dy => row.map fun dx => (dx, dy))

def offsetValue (o : Int32 × Int32) : Offset := ⟨o.1.toInt, o.2.toInt⟩

variable {shape : Shape} {radius : UInt8}

theorem toInt_reachOf (radius : UInt8) : (reachOf radius).toInt = radius.toNat := by
  have small := radius.toNat_lt
  exact Int32.toInt_ofNat_of_lt (by omega)

theorem contains_eq_ok {dx dy : Int32} (near : dx.toInt.natAbs + dy.toInt.natAbs ≤ 2147483647) :
    contains shape dx dy radius = .ok (shape.contains dx.toInt dy.toInt radius.toNat) := by
  have reach := toInt_reachOf radius
  obtain ⟨width, width_ok, width_eq⟩ := magnitude_eq_ok (d := dx) (by omega)
  obtain ⟨height, height_ok, height_eq⟩ := magnitude_eq_ok (d := dy) (by omega)
  rw [contains, width_ok, ok_bind, height_ok, ok_bind]
  cases shape with
  | moore =>
    refine congrArg Except.ok (decide_eq_decide.mpr ?_)
    rw [Int32.le_iff_toInt_le, reach, Shape.distance]
    split
    · next le => rw [Int32.le_iff_toInt_le] at le; omega
    · next gt => rw [Int32.le_iff_toInt_le] at gt; omega
  | vonNeumann =>
    obtain ⟨sum, added, sum_eq⟩ := signed_eq_ok (n := width.toInt + height.toInt) (by omega)
    simp only [added, ok_bind]
    refine congrArg Except.ok (decide_eq_decide.mpr ?_)
    rw [Int32.le_iff_toInt_le, reach, Shape.distance]
    omega

/-- A radius is small enough for the number of neighbours in it. -/
theorem neighbourCount_eq_ok (shape : Shape) (radius : UInt8) :
    ∃ count, neighbourCount shape radius = .ok count ∧
      count.toNat = shape.neighbourCount radius.toNat := by
  have small : radius.toNat < 256 := radius.toNat_lt
  have value : full.toNat radius.toUInt64 = radius.toNat := UInt8.toNat_toUInt64 radius
  have two : full.toNat 2 = 2 := rfl
  have size : full.size = 18446744073709551616 := rfl
  obtain ⟨double, doubled, double_eq⟩ := Word.mul_eq_ok two value (by omega)
  rw [neighbourCount, doubled, ok_bind]
  cases shape with
  | moore =>
    obtain ⟨side, next, side_eq⟩ := Word.next_eq_ok double_eq (by omega)
    have bound : (2 * radius.toNat + 1) * (2 * radius.toNat + 1) ≤ 511 * 511 :=
      Nat.mul_le_mul (by omega) (by omega)
    have positive : 0 < (2 * radius.toNat + 1) * (2 * radius.toNat + 1) :=
      Nat.mul_pos (by omega) (by omega)
    obtain ⟨square, squared, square_eq⟩ := Word.mul_eq_ok side_eq side_eq (by omega)
    obtain ⟨count, counted, count_eq⟩ := Word.previous_eq_ok (w := full) (a := square)
      (n := (2 * radius.toNat + 1) * (2 * radius.toNat + 1) - 1) (by omega) (by omega)
    exact ⟨count, by simp [next, squared, counted], count_eq⟩
  | vonNeumann =>
    obtain ⟨next, found, next_eq⟩ := Word.next_eq_ok value (by omega)
    have bound : 2 * radius.toNat * (radius.toNat + 1) ≤ 510 * 256 :=
      Nat.mul_le_mul (by omega) (by omega)
    obtain ⟨count, counted, count_eq⟩ := Word.mul_eq_ok double_eq next_eq (by omega)
    exact ⟨count, by simp [found, counted], count_eq⟩

/-- The coordinates from the negative radius to the radius. -/
theorem exists_row (radius : UInt8) : ∃ low, signed (-(reachOf radius).toInt) = .ok low ∧
    (between low (reachOf radius)).map Int32.toInt = span radius.toNat := by
  have small : radius.toNat < 256 := radius.toNat_lt
  have reach := toInt_reachOf radius
  obtain ⟨low, negated, low_eq⟩ := signed_eq_ok (n := -(reachOf radius).toInt) (by omega)
  refine ⟨low, negated, ?_⟩
  have count : ((reachOf radius).toInt - low.toInt + 1).toNat = 2 * radius.toNat + 1 := by omega
  rw [map_toInt_between, count, span]
  refine List.map_congr_left fun i _ => ?_
  omega

/-- An offset other than the origin that is within the radius. -/
def listed (shape : Shape) (radius : ℕ) (o : Offset) : Bool :=
  (o.dx ≠ 0 || o.dy ≠ 0) && shape.contains o.dx o.dy radius

theorem isNeighbour_eq_ok {o : Int32 × Int32} (near : o.1.toInt.natAbs + o.2.toInt.natAbs ≤ 2147483647) :
    isNeighbour shape radius o = .ok (listed shape radius.toNat (offsetValue o)) := by
  obtain ⟨dx, dy⟩ := o
  rw [isNeighbour, contains_eq_ok near]
  split
  · next origin =>
    cases origin
    rfl
  · next other =>
    have apart : (dx.toInt ≠ 0 || dy.toInt ≠ 0) = true := by
      rw [Bool.or_eq_true, decide_eq_true_eq, decide_eq_true_eq, ← not_and_or]
      exact fun both => other (Prod.ext (Int32.toInt_inj.mp both.1) (Int32.toInt_inj.mp both.2))
    rw [listed, offsetValue, apart, Bool.true_and]

theorem map_filter_listed (shape : Shape) (radius : ℕ) {row : List Int32}
    (values : row.map Int32.toInt = span radius) :
    ((row.flatMap fun dy => row.map fun dx => (dx, dy)).filter
        fun o => listed shape radius (offsetValue o)).map offsetValue = shape.offsets radius := by
  rw [List.filter_flatMap, List.map_flatMap, Shape.offsets, ← values, List.flatMap_map]
  refine List.flatMap_congr fun dy _ => ?_
  rw [Shape.columns, ← values, List.filter_map, List.filter_map, List.map_map, List.map_map]
  rfl

/-- The machine lists the neighbours without overflow. -/
theorem offsets_eq_ok (shape : Shape) (radius : UInt8) :
    ∃ os, offsets shape radius = .ok os ∧ os.map offsetValue = shape.offsets radius.toNat := by
  have small : radius.toNat < 256 := radius.toNat_lt
  obtain ⟨low, negated, values⟩ := exists_row radius
  obtain ⟨count, counted, -⟩ := neighbourCount_eq_ok shape radius
  refine ⟨_, ?_, map_filter_listed shape radius.toNat values⟩
  rw [offsets, negated, ok_bind, counted, ok_bind]
  refine keep_eq_ok fun o mem => isNeighbour_eq_ok ?_
  simp only [List.mem_flatMap, List.mem_map] at mem
  obtain ⟨dy, row, dx, column, rfl⟩ := mem
  have inside {d : Int32} (mem : d ∈ between low (reachOf radius)) : d.toInt.natAbs ≤ 255 := by
    have spanned := List.mem_map_of_mem (f := Int32.toInt) mem
    rw [values, mem_span] at spanned
    omega
  exact Nat.le_trans (Nat.add_le_add (inside column) (inside row)) (by decide)

/-- The offsets of a machine board are those that the machine lists for its ruleset. -/
theorem offsets_configuration (c : Configuration) :
    offsets c.shape (UInt8.ofNat c.radius) = .ok (Board.offsetsOf c) := by
  have radius : (UInt8.ofNat c.radius).toNat = c.radius :=
    UInt8.toNat_ofNat_of_lt' (Nat.lt_of_le_of_lt c.radius_le (by decide))
  obtain ⟨os, found, values⟩ := offsets_eq_ok c.shape (UInt8.ofNat c.radius)
  rw [radius] at values
  rw [found, Board.offsetsOf, Configuration.offsets, ← values, List.map_map]
  refine congrArg Except.ok ((List.map_id os).symm.trans (List.map_congr_left fun o _ => ?_))
  simp [offsetValue]

/-- For every shape and every radius of 8 bits, the list of offsets holds the points other than the
origin that are within the radius, in reading order and each once; it is as long as the closed form
says; and read backwards it is the list of opposites. In machine words nothing of this overflows: the
list and its length come out the same, and so does what is within the radius, for all points whose
coordinates do not add up to more than the greatest integer of 32 bits. -/
theorem offsets_exact (shape : Shape) (radius : UInt8) :
    (∀ dx dy : ℤ, dx.natAbs + dy.natAbs ≤ 2147483647 →
        (⟨dx, dy⟩ ∈ shape.offsets radius.toNat ↔
          ¬(dx = 0 ∧ dy = 0) ∧ shape.contains dx dy radius.toNat) ∧
        contains shape (Int32.ofInt dx) (Int32.ofInt dy) radius =
          .ok (shape.contains dx dy radius.toNat)) ∧
      (shape.offsets radius.toNat).Pairwise Offset.Before ∧
      (shape.offsets radius.toNat).Nodup ∧
      (shape.offsets radius.toNat).length = shape.neighbourCount radius.toNat ∧
      (shape.offsets radius.toNat).reverse = (shape.offsets radius.toNat).map Offset.opposite ∧
      (∃ os, offsets shape radius = .ok os ∧ os.map offsetValue = shape.offsets radius.toNat) ∧
      ∃ count, neighbourCount shape radius = .ok count ∧
        count.toNat = shape.neighbourCount radius.toNat := by
  refine ⟨fun dx dy near => ⟨?_, ?_⟩, shape.pairwise_before_offsets _, shape.nodup_offsets _,
    shape.length_offsets _, shape.reverse_offsets _, offsets_eq_ok shape radius,
    neighbourCount_eq_ok shape radius⟩
  · rw [Shape.mem_offsets, not_and_or]
  · have column : (Int32.ofInt dx).toInt = dx := toInt_ofInt_of_fits ⟨by omega, by omega⟩
    have row : (Int32.ofInt dy).toInt = dy := toInt_ofInt_of_fits ⟨by omega, by omega⟩
    have decided : contains shape (Int32.ofInt dx) (Int32.ofInt dy) radius =
        .ok (shape.contains (Int32.ofInt dx).toInt (Int32.ofInt dy).toInt radius.toNat) :=
      contains_eq_ok (by rwa [column, row])
    rwa [column, row] at decided

/-- A point as far away as can be, and a neighbour at the tip of the greatest diamond. -/
theorem offsets_exact_far :
    (2147483646 : ℤ).natAbs + (-1 : ℤ).natAbs ≤ 2147483647 ∧
      (⟨2147483646, -1⟩ : Offset) ∉ Shape.vonNeumann.offsets 255 ∧
      contains .vonNeumann 2147483646 (-1) 255 = .ok false ∧
      (⟨-255, 0⟩ : Offset) ∈ Shape.vonNeumann.offsets 255 := by
  obtain ⟨mem, -⟩ := offsets_exact .vonNeumann 255
  obtain ⟨far, decided⟩ := mem 2147483646 (-1) (by decide)
  refine ⟨by decide, fun mem => absurd (far.mp mem).2 (by decide), decided, ?_⟩
  exact (mem (-255) 0 (by decide)).1.mpr ⟨by decide, by decide⟩

end LargerThanLife.Machine
