import LargerThanLife.Neighbourhood.Offsets

/-! The order of the neighbours. The list of offsets is strictly increasing in reading order, first
by row and then by column, so it names no neighbour twice. Every neighbour has one opposite to it, and
opposites stand in the opposite order, so the list read backwards is the list of opposites. -/

namespace LargerThanLife

/-- The offset `o` comes before `p` when a page is read: in an earlier row, or to the left of it. -/
def Offset.Before (o p : Offset) : Prop := o.dy < p.dy ∨ o.dy = p.dy ∧ o.dx < p.dx

/-- The offset of the same length in the opposite direction. -/
def Offset.opposite (o : Offset) : Offset := ⟨-o.dx, -o.dy⟩

namespace Offset

variable {o p : Offset}

theorem Before.asymm (before : o.Before p) : ¬p.Before o := by
  unfold Before at *
  omega

theorem Before.opposite (before : o.Before p) : p.opposite.Before o.opposite := by
  simp only [Before, Offset.opposite] at *
  omega

@[simp] theorem opposite_opposite (o : Offset) : o.opposite.opposite = o := by
  simp only [opposite, Int.neg_neg]

theorem nodup_of_pairwise_before {os : List Offset} (ordered : os.Pairwise Before) : os.Nodup := by
  refine ordered.imp ?_
  rintro o p before rfl
  exact before.asymm before

/-- In reading order there is one list of given offsets. -/
theorem eq_of_pairwise_before {os ps : List Offset} (ordered : os.Pairwise Before)
    (ordered' : ps.Pairwise Before) (same : ∀ o, o ∈ os ↔ o ∈ ps) : os = ps := by
  have perm : os.Perm ps := (List.perm_ext_iff_of_nodup (nodup_of_pairwise_before ordered)
    (nodup_of_pairwise_before ordered')).mpr same
  exact perm.eq_of_pairwise (fun o p _ _ before after => absurd after before.asymm) ordered ordered'

end Offset

theorem pairwise_span (radius : Nat) : (span radius).Pairwise (· < ·) := by
  refine List.pairwise_map.mpr (List.pairwise_lt_range.imp ?_)
  intro i j h
  omega

namespace Shape

/-- The neighbours are listed in reading order. -/
theorem pairwise_before_offsets (shape : Shape) (radius : Nat) :
    (shape.offsets radius).Pairwise Offset.Before := by
  refine List.pairwise_flatMap.mpr ⟨fun dy _ => ?_, (pairwise_span radius).imp ?_⟩
  · -- within a row the columns increase
    refine List.pairwise_map.mpr (((pairwise_span radius).filter _).imp ?_)
    intro dx dx' h
    exact .inr ⟨rfl, h⟩
  · intro dy dy' h o ho p hp
    obtain ⟨_, _, rfl⟩ := List.mem_map.mp ho
    obtain ⟨_, _, rfl⟩ := List.mem_map.mp hp
    exact .inl h

theorem nodup_offsets (shape : Shape) (radius : Nat) : (shape.offsets radius).Nodup :=
  Offset.nodup_of_pairwise_before (shape.pairwise_before_offsets radius)

@[simp] theorem opposite_mem_offsets {shape : Shape} {radius : Nat} {o : Offset} :
    o.opposite ∈ shape.offsets radius ↔ o ∈ shape.offsets radius := by
  simp only [mem_offsets, contains_iff, Offset.opposite, distance_neg, ne_eq, Int.neg_eq_zero]

/-- The neighbours in reversed order are their opposites. -/
theorem reverse_offsets (shape : Shape) (radius : Nat) :
    (shape.offsets radius).reverse = (shape.offsets radius).map Offset.opposite := by
  refine List.reverse_eq_iff.mpr ?_
  -- taking opposites turns the order round, and so does reading backwards
  refine Offset.eq_of_pairwise_before (shape.pairwise_before_offsets radius) ?_ fun o => ?_
  · rw [List.pairwise_reverse, List.pairwise_map]
    exact (shape.pairwise_before_offsets radius).imp Offset.Before.opposite
  · rw [List.mem_reverse, List.mem_map]
    constructor
    · exact fun mem => ⟨o.opposite, opposite_mem_offsets.mpr mem, o.opposite_opposite⟩
    · rintro ⟨p, mem, rfl⟩
      exact opposite_mem_offsets.mpr mem

end Shape

end LargerThanLife
