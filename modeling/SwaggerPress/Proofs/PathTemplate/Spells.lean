import Mathlib.Data.List.Forall2
import SwaggerPress.PathTemplate

/-!
    What pieces accept. The rows of `acceptsPieces` say for every end of a path whether it is
    accepted; read from their heads they are the recursion on pieces and path

        literal c, ps   on  x :: xs    x = c, and ps on xs
        hole, ps        on  x :: xs    x fits, and ps on xs or hole, ps on xs

    which every way of dividing the path passes through. So pieces accept exactly the paths that they
    spell, one text for each piece (`acceptsPieces_iff`). -/

namespace SwaggerPress.PathTemplate

/-! ### The recursion behind the rows -/

/-- The row of pieces. -/
def rows (ps : List Piece) (path : List Char) : List Bool :=
  ps.foldr (fun p next => p.row path next) (emptyRow path)

theorem acceptsPieces_eq (ps : List Piece) (path : List Char) :
    acceptsPieces ps path = (rows ps path).headD false := rfl

theorem rows_cons (p : Piece) (ps : List Piece) (path : List Char) :
    rows (p :: ps) path = p.row path (rows ps path) := rfl

/-- Without its first entry, a row is the row of the rest of the path. -/
theorem rows_tail (x : Char) (xs : List Char) : ∀ ps : List Piece,
    rows ps (x :: xs) = acceptsPieces ps (x :: xs) :: rows ps xs
  | [] => rfl
  | .literal c :: ps => by
    rw [acceptsPieces_eq, rows_cons, rows_tail x xs ps]; rfl
  | .hole name :: ps => by
    rw [acceptsPieces_eq, rows_cons, rows_tail x xs ps]; rfl

/-- At the end of the path only no pieces at all are accepted. -/
theorem rows_nil : ∀ ps : List Piece, rows ps [] = [ps.isEmpty]
  | [] => rfl
  | .literal _ :: _ => rfl
  | .hole _ :: _ => rfl

@[simp] theorem acceptsPieces_nil (ps : List Piece) : acceptsPieces ps [] = ps.isEmpty := by
  rw [acceptsPieces_eq, rows_nil]; rfl

@[simp] theorem acceptsPieces_nil_cons (x : Char) (xs : List Char) :
    acceptsPieces [] (x :: xs) = false := rfl

@[simp] theorem acceptsPieces_literal (c : Char) (ps : List Piece) (x : Char) (xs : List Char) :
    acceptsPieces (.literal c :: ps) (x :: xs) = (x = c && acceptsPieces ps xs) := by
  rw [acceptsPieces_eq, rows_cons, rows_tail x xs ps]; rfl

@[simp] theorem acceptsPieces_hole (name : List Char) (ps : List Piece) (x : Char)
    (xs : List Char) :
    acceptsPieces (.hole name :: ps) (x :: xs) =
      ((Shape.ofName name).allows x &&
        (acceptsPieces ps xs || acceptsPieces (.hole name :: ps) xs)) := by
  rw [acceptsPieces_eq, rows_cons, rows_tail x xs ps]; rfl

/-! ### Spelling -/

/-- The texts that may stand in a hole of a shape. -/
def Shape.Fits (shape : Shape) (s : List Char) : Prop := s ≠ [] ∧ ∀ c ∈ s, shape.allows c

/-- The texts that a piece may contribute to a path. -/
def Piece.Contributes : Piece → List Char → Prop
  | .literal c, s => s = [c]
  | .hole name, s => (Shape.ofName name).Fits s

/-- The path is one contribution of each piece after another. -/
def Spells : List Piece → List Char → Prop
  | [], path => path = []
  | p :: ps, path => ∃ s rest, path = s ++ rest ∧ p.Contributes s ∧ Spells ps rest

/-- A text in a hole is one character, or one and more of the hole. -/
theorem exists_fits_cons {shape : Shape} {P : List Char → Prop} (x : Char) (xs : List Char) :
    (∃ s rest, x :: xs = s ++ rest ∧ shape.Fits s ∧ P rest) ↔
      shape.allows x ∧ (P xs ∨ ∃ s rest, xs = s ++ rest ∧ shape.Fits s ∧ P rest) := by
  constructor
  · rintro ⟨s, rest, heq, ⟨hne, hall⟩, hP⟩
    obtain ⟨y, ys, rfl⟩ := List.exists_cons_of_ne_nil hne
    rw [List.cons_append, List.cons.injEq] at heq
    obtain ⟨rfl, rfl⟩ := heq
    refine ⟨hall x List.mem_cons_self, ?_⟩
    cases ys with
    | nil => exact .inl hP
    | cons z zs =>
      exact .inr ⟨z :: zs, rest, rfl, ⟨by simp, fun c hc => hall c (List.mem_cons_of_mem _ hc)⟩, hP⟩
  · rintro ⟨hx, hP | ⟨s, rest, rfl, ⟨-, hall⟩, hP⟩⟩
    · exact ⟨[x], xs, rfl, ⟨by simp, by simpa using hx⟩, hP⟩
    · refine ⟨x :: s, rest, rfl, ⟨by simp, ?_⟩, hP⟩
      rintro c hc
      rcases List.mem_cons.1 hc with rfl | hc
      · exact hx
      · exact hall c hc

/-- Pieces accept exactly what they spell. -/
theorem acceptsPieces_iff : ∀ (ps : List Piece) (path : List Char),
    acceptsPieces ps path = true ↔ Spells ps path
  | [], [] => by simp [Spells]
  | [], x :: xs => by simp [Spells]
  | .literal c :: ps, [] => by simp [Spells, Piece.Contributes]
  | .literal c :: ps, x :: xs => by
    rw [acceptsPieces_literal, Bool.and_eq_true, decide_eq_true_iff, acceptsPieces_iff ps xs, Spells]
    constructor
    · rintro ⟨rfl, h⟩; exact ⟨[x], xs, rfl, rfl, h⟩
    · rintro ⟨s, rest, heq, hs, h⟩
      rw [hs, List.singleton_append, List.cons.injEq] at heq
      exact ⟨heq.1, heq.2 ▸ h⟩
  | .hole name :: ps, [] => by
    simp only [acceptsPieces_nil, Spells, Piece.Contributes, Shape.Fits]
    constructor
    · intro h; exact nomatch h
    · rintro ⟨s, rest, heq, ⟨hne, -⟩, -⟩
      exact absurd (List.append_eq_nil_iff.1 heq.symm).1 hne
  | .hole name :: ps, x :: xs => by
    rw [acceptsPieces_hole, Bool.and_eq_true, Bool.or_eq_true, acceptsPieces_iff ps xs,
      acceptsPieces_iff (.hole name :: ps) xs]
    exact (exists_fits_cons x xs).symm

theorem spells_append {ps qs : List Piece} : ∀ {path : List Char},
    Spells (ps ++ qs) path ↔ ∃ s rest, path = s ++ rest ∧ Spells ps s ∧ Spells qs rest := by
  induction ps with
  | nil => intro path; simp [Spells]
  | cons p ps ih =>
    intro path
    simp only [List.cons_append, Spells, ih]
    constructor
    · rintro ⟨s, _, rfl, hp, u, v, rfl, hps, hqs⟩
      exact ⟨s ++ u, v, by simp, ⟨s, u, rfl, hp, hps⟩, hqs⟩
    · rintro ⟨_, v, rfl, ⟨s, u, rfl, hp, hps⟩, hqs⟩
      exact ⟨s, u ++ v, by simp, hp, u, v, rfl, hps, hqs⟩

/-- Literals spell themselves only. -/
theorem spells_literals : ∀ {s path : List Char}, Spells (s.map .literal) path ↔ path = s
  | [], path => Iff.rfl
  | c :: s, path => by
    simp only [List.map_cons, Spells, Piece.Contributes, spells_literals]
    constructor
    · rintro ⟨_, _, rfl, rfl, rfl⟩; rfl
    · rintro rfl; exact ⟨[c], s, rfl, rfl, rfl⟩

theorem spells_singleton {p : Piece} {path : List Char} :
    Spells [p] path ↔ p.Contributes path := by
  simp [Spells]

end SwaggerPress.PathTemplate
