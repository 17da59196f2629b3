import SwaggerPress.Text.Lines

/-!
    Texts taken apart at a character. A text without the separator is one part; any other is a first
    part without it, the separator, and the rest, whose parts come after the first one. Every law of
    the parts goes along that recursion:

        a/b/c    =   a  /  b/c          parts   a :: parts of b/c -/

namespace SwaggerPress.Text

variable {sep : Char} {xs : List Char}

/-- The parts are those of the library's own function. -/
theorem splitOn_eq (sep : Char) : ∀ cs : List Char, splitOn sep cs = cs.splitOn sep
  | [] => rfl
  | c :: rest => by
    rw [splitOn, splitOn_eq sep rest, List.splitOn_eq_splitOnP, List.splitOn_eq_splitOnP,
      List.splitOnP_cons_eq_if_modifyHead]
    by_cases hc : c = sep
    · rw [if_pos hc, if_pos (beq_iff_eq.2 hc)]
    · rw [if_neg hc, if_neg (by simpa using hc)]
      cases hparts : rest.splitOnP (· == sep) with
      | nil => exact absurd hparts (List.splitOnP_ne_nil _ rest)
      | cons part parts => rfl

theorem splitOn_of_not_mem (h : sep ∉ xs) : xs.splitOn sep = [xs] := by
  refine List.splitOn_eq_splitOnP.trans (List.splitOnP_eq_singleton fun x hx => ?_)
  exact beq_eq_false_iff_ne.2 fun heq => h (heq ▸ hx)

theorem splitOn_append_cons (sep : Char) (xs ys : List Char) :
    (xs ++ sep :: ys).splitOn sep = xs.splitOn sep ++ ys.splitOn sep := by
  rw [List.splitOn_eq_splitOnP, List.splitOn_eq_splitOnP, List.splitOn_eq_splitOnP]
  exact List.splitOnP_append_cons xs ys (beq_self_eq_true sep)

/-- The first part ends at the first separator. -/
theorem splitOn_first (h : sep ∉ xs) (ys : List Char) :
    (xs ++ sep :: ys).splitOn sep = xs :: ys.splitOn sep := by
  rw [splitOn_append_cons, splitOn_of_not_mem h, List.singleton_append]

/-- What holds of a text without the separator, and of a first part in front of a text that it holds
of, holds of every text. -/
@[elab_as_elim]
theorem parts_induction (sep : Char) {motive : List Char → Prop}
    (last : ∀ part, sep ∉ part → motive part)
    (more : ∀ part rest, sep ∉ part → motive rest → motive (part ++ sep :: rest))
    (cs : List Char) : motive cs := by
  by_cases h : sep ∈ cs
  · obtain ⟨part, rest, heq, hpart⟩ := List.eq_append_cons_of_mem h
    rw [heq]
    exact more part rest hpart (parts_induction sep last more rest)
  · exact last cs h
termination_by cs.length
decreasing_by
  rw [heq, List.length_append, List.length_cons]
  omega

end SwaggerPress.Text
