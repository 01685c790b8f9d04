/-! Cutting a text. `pieces sep s` cuts at every occurrence of a separating character, and
`cutAtDots s` cuts once, at the first pair of dots. The statements say that gluing the parts back
gives the text, and that no part before a cut holds what it was cut at. -/

namespace LargerThanLife.Text

/-- The parts of a text between the occurrences of `sep`; there is one part more than there are
separators, so a text without one is a single part. -/
def pieces (sep : Char) : List Char → List (List Char)
  | [] => [[]]
  | c :: r =>
    if c = sep then [] :: pieces sep r
    else match pieces sep r with
      | [] => [[c]]
      | p :: ps => (c :: p) :: ps

/-- The text before the first pair of dots and the text after it. -/
def cutAtDots : List Char → Option (List Char × List Char)
  | [] => none
  | '.' :: '.' :: rest => some ([], rest)
  | c :: rest => (cutAtDots rest).map fun (before, after) => (c :: before, after)

def join (sep : Char) : List (List Char) → List Char
  | [] => []
  | [p] => p
  | p :: q :: ps => p ++ sep :: join sep (q :: ps)

theorem pieces_ne_nil (sep : Char) (s : List Char) : pieces sep s ≠ [] := by
  cases s with
  | nil => simp [pieces]
  | cons c r =>
    unfold pieces
    split
    · simp
    · split <;> simp

theorem join_pieces (sep : Char) (s : List Char) : join sep (pieces sep s) = s := by
  induction s with
  | nil => rfl
  | cons c r ih =>
    unfold pieces
    split
    · next h =>
      subst h
      cases hp : pieces c r with
      | nil => exact absurd hp (pieces_ne_nil c r)
      | cons p ps => rw [hp] at ih; simp [join, ih]
    · next h =>
      cases hp : pieces sep r with
      | nil => exact absurd hp (pieces_ne_nil sep r)
      | cons p ps =>
        rw [hp] at ih
        cases ps with
        | nil => simp only [join] at ih ⊢; rw [ih]
        | cons q qs => simp only [join, List.cons_append] at ih ⊢; rw [ih]

theorem not_mem_of_mem_pieces {sep : Char} {s p : List Char} (hp : p ∈ pieces sep s) : sep ∉ p := by
  induction s generalizing p with
  | nil =>
    rw [List.mem_singleton.mp hp]
    exact List.not_mem_nil
  | cons c r ih =>
    unfold pieces at hp
    split at hp
    · rcases List.mem_cons.mp hp with rfl | later
      · exact List.not_mem_nil
      · exact ih later
    · next h =>
      cases hr : pieces sep r with
      | nil => exact absurd hr (pieces_ne_nil sep r)
      | cons q qs =>
        rw [hr] at hp ih
        rcases List.mem_cons.mp hp with rfl | later
        · exact List.not_mem_cons_of_ne_of_not_mem (Ne.symm h) (ih List.mem_cons_self)
        · exact ih (List.mem_cons_of_mem q later)

/-- A text without the separator is one part. -/
theorem pieces_of_not_mem {sep : Char} {s : List Char} (h : sep ∉ s) : pieces sep s = [s] := by
  induction s with
  | nil => rfl
  | cons c r ih =>
    simp only [List.mem_cons, not_or] at h
    have hc : c ≠ sep := fun e => h.1 e.symm
    simp [pieces, hc, ih h.2]

/-- Cutting at the separator after a part that does not hold it. -/
theorem pieces_append_cons {sep : Char} {p : List Char} (h : sep ∉ p) (s : List Char) :
    pieces sep (p ++ sep :: s) = p :: pieces sep s := by
  induction p with
  | nil => simp [pieces]
  | cons c r ih =>
    simp only [List.mem_cons, not_or] at h
    have hc : c ≠ sep := fun e => h.1 e.symm
    simp [pieces, hc, ih h.2]

/-- Parts that were glued together are the pieces of the text, if none holds the separator. -/
theorem pieces_join {sep : Char} {ps : List (List Char)} (some_part : ps ≠ [])
    (h : ∀ p ∈ ps, sep ∉ p) : pieces sep (join sep ps) = ps := by
  induction ps with
  | nil => exact absurd rfl some_part
  | cons p qs ih =>
    cases qs with
    | nil => exact pieces_of_not_mem (h p (by simp))
    | cons q rest =>
      rw [join, pieces_append_cons (h p (by simp)), ih (by simp)]
      exact fun r hr => h r (by simp [hr])

theorem eq_of_cutAtDots {s before after : List Char} (h : cutAtDots s = some (before, after)) :
    s = before ++ '.' :: '.' :: after := by
  fun_induction cutAtDots s generalizing before after with
  | case1 => simp at h
  | case2 rest => simp at h; simp [h.1.symm, h.2]
  | case3 c r _ ih =>
    obtain ⟨⟨b, a⟩, hr, he⟩ := Option.map_eq_some_iff.1 h
    simp only [Prod.mk.injEq] at he
    rw [ih hr, ← he.1, ← he.2, List.cons_append]

/-- A text with no dot before a pair of dots is cut there. -/
theorem cutAtDots_append {before : List Char} (h : '.' ∉ before) (after : List Char) :
    cutAtDots (before ++ '.' :: '.' :: after) = some (before, after) := by
  induction before with
  | nil => simp [cutAtDots]
  | cons c r ih =>
    simp only [List.mem_cons, not_or] at h
    have hc : c ≠ '.' := fun e => h.1 e.symm
    rw [List.cons_append, cutAtDots]
    · rw [ih h.2]; rfl
    · intro rest e; exact absurd e hc

end LargerThanLife.Text
