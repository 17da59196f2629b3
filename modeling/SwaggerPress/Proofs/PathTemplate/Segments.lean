import SwaggerPress.Proofs.PathTemplate.Scan
import SwaggerPress.Proofs.Text.Split

/-!
    Segments. Templates are scanned and paths are accepted as a whole, without any notion of what
    stands between two slashes. But no name has a slash, so no hole begins in one segment and ends in
    another (`pieces_append_slash`), and no hole accepts a slash, so a slash of the path can only be
    one of the template (`Spells.not_mem_slash`). So each segment of a template is matched with the
    segment of the path that stands in its place (`accepts_iff_segments`):

        template    /api/{name}-{id}/     segments   ""   api   {name}-{id}   ""
        path        /api/a-b-7/           segments   ""   api   a-b-7         "" -/

namespace SwaggerPress.PathTemplate

/-- What stands before, between and behind the slashes. -/
def segments (s : String) : List String := (s.toList.splitOn '/').map String.ofList

/-! ### Holes and slashes -/

/-- No hole accepts a slash. -/
theorem Shape.allows_slash (shape : Shape) : shape.allows '/' = false := by
  cases shape <;> decide

theorem Piece.Contributes.not_mem_slash {p : Piece} {s : List Char} (h : p.Contributes s)
    (hp : p ≠ .literal '/') : '/' ∉ s := by
  cases p with
  | literal c =>
    obtain rfl : s = [c] := h
    exact fun hmem => hp (by rw [List.mem_singleton.1 hmem])
  | hole name =>
    obtain ⟨-, hall⟩ := h
    intro hmem
    have hslash := hall '/' hmem
    rw [Shape.allows_slash] at hslash
    exact nomatch hslash

/-- Pieces without a slash spell texts without one. -/
theorem Spells.not_mem_slash : ∀ {ps : List Piece} {path : List Char}, Spells ps path →
    .literal '/' ∉ ps → '/' ∉ path
  | [], _, rfl, _ => List.not_mem_nil
  | p :: ps, _, ⟨s, rest, rfl, hs, hrest⟩, h => by
    rw [List.mem_cons, not_or] at h
    rw [List.mem_append, not_or]
    exact ⟨hs.not_mem_slash (Ne.symm h.1), hrest.not_mem_slash h.2⟩

/-- Literals stand in the template. -/
theorem mem_of_literal_mem_pieces {c : Char} {t : List Char} (h : .literal c ∈ pieces t) :
    c ∈ t := by
  fun_induction pieces t with
  | case1 => cases h
  | case2 d rest name after hdrop hhole ih =>
    rcases List.mem_cons.1 h with heq | hmem
    · cases heq
    · have hafter : after <:+ rest :=
        (List.suffix_cons '\x7d' after).trans (hdrop ▸ List.dropWhile_suffix isNameChar)
      exact List.mem_cons_of_mem d (hafter.subset (ih hmem))
  | case3 d rest name after hdrop hhole ih =>
    rcases List.mem_cons.1 h with heq | hmem
    · cases heq
      exact List.mem_cons_self
    · exact List.mem_cons_of_mem d (ih hmem)
  | case4 d rest hdrop ih =>
    rcases List.mem_cons.1 h with heq | hmem
    · cases heq
      exact List.mem_cons_self
    · exact List.mem_cons_of_mem d (ih hmem)

/-! ### The scan, segment by segment -/

/-- A name does not go on behind a slash. -/
theorem takeWhile_append_slash (s rest : List Char) :
    (s ++ '/' :: rest).takeWhile isNameChar = s.takeWhile isNameChar ∧
      (s ++ '/' :: rest).dropWhile isNameChar = s.dropWhile isNameChar ++ '/' :: rest := by
  induction s with
  | nil => exact ⟨rfl, rfl⟩
  | cons c s ih =>
    rw [List.cons_append]
    by_cases hc : isNameChar c = true
    · rw [List.takeWhile_cons_of_pos hc, List.takeWhile_cons_of_pos hc,
        List.dropWhile_cons_of_pos hc, List.dropWhile_cons_of_pos hc, ih.1, ih.2]
      exact ⟨rfl, rfl⟩
    · rw [List.takeWhile_cons_of_neg hc, List.takeWhile_cons_of_neg hc,
        List.dropWhile_cons_of_neg hc, List.dropWhile_cons_of_neg hc]
      exact ⟨rfl, rfl⟩

/-- No hole reaches over a slash. -/
theorem pieces_append_slash (s rest : List Char) :
    pieces (s ++ '/' :: rest) = pieces s ++ .literal '/' :: pieces rest := by
  have hslash : pieces ('/' :: rest) = .literal '/' :: pieces rest := by
    rw [pieces]
    split
    · rw [if_neg fun hc => absurd hc.1 (by decide)]
    · rfl
  fun_induction pieces s with
  | case1 => exact hslash
  | case2 c s name after hdrop hhole ih =>
    obtain ⟨htake, hdrop'⟩ := takeWhile_append_slash s rest
    rw [hdrop] at hdrop'
    rw [List.cons_append, pieces]
    split
    next after' hafter =>
      rw [hafter, List.cons_append, List.cons.injEq] at hdrop'
      rw [htake, if_pos hhole, hdrop'.2, ih]
      rfl
    next hnone => exact absurd hdrop' (hnone _)
  | case3 c s name after hdrop hhole ih =>
    obtain ⟨htake, -⟩ := takeWhile_append_slash s rest
    rw [List.cons_append, pieces]
    split
    · rw [htake, if_neg hhole, ih]
      rfl
    · rw [ih]
      rfl
  | case4 c s hnone ih =>
    obtain ⟨-, hdrop'⟩ := takeWhile_append_slash s rest
    rw [List.cons_append, pieces]
    split
    next after' hafter =>
      -- the name would end at a brace of the segment, or at the slash
      rw [hafter] at hdrop'
      cases hend : s.dropWhile isNameChar with
      | nil => rw [hend] at hdrop'; cases hdrop'
      | cons d tail =>
        rw [hend, List.cons_append, List.cons.injEq] at hdrop'
        exact absurd (hdrop'.1 ▸ hend) (hnone tail)
    next => rw [ih]; rfl

/-- Segments and what is behind the slash spell their parts of the path. -/
theorem spells_append_slash {ps qs : List Piece} {path : List Char} :
    Spells (ps ++ .literal '/' :: qs) path ↔
      ∃ s rest, path = s ++ '/' :: rest ∧ Spells ps s ∧ Spells qs rest := by
  rw [spells_append]
  constructor
  · rintro ⟨s, _, rfl, hs, _, rest, rfl, rfl, hrest⟩
    exact ⟨s, rest, rfl, hs, hrest⟩
  · rintro ⟨s, rest, rfl, hs, hrest⟩
    exact ⟨s, '/' :: rest, rfl, hs, ['/'], rest, rfl, rfl, hrest⟩

/-! ### Acceptance, segment by segment -/

/-- A template spells a path exactly if its segments spell those of the path. -/
theorem spells_iff_segments (template path : List Char) : Spells (pieces template) path ↔
    List.Forall₂ (fun t s => Spells (pieces t) s) (template.splitOn '/') (path.splitOn '/') := by
  induction template using Text.parts_induction '/' generalizing path with
  | last t ht =>
    have hfree : .literal '/' ∉ pieces t := fun h => ht (mem_of_literal_mem_pieces h)
    rw [Text.splitOn_of_not_mem ht]
    constructor
    · intro h
      rw [Text.splitOn_of_not_mem (h.not_mem_slash hfree)]
      exact .cons h .nil
    · intro h
      induction path using Text.parts_induction '/' with
      | last s hs =>
        rw [Text.splitOn_of_not_mem hs, List.forall₂_cons] at h
        exact h.1
      | more s more hs _ =>
        rw [Text.splitOn_first hs, List.forall₂_cons, List.forall₂_nil_left_iff] at h
        exact absurd h.2 (List.splitOn_ne_nil _ _)
  | more t rest ht ih =>
    have hfree : .literal '/' ∉ pieces t := fun h => ht (mem_of_literal_mem_pieces h)
    rw [Text.splitOn_first ht, pieces_append_slash, spells_append_slash]
    constructor
    · rintro ⟨s, more, rfl, hs, hmore⟩
      rw [Text.splitOn_first (hs.not_mem_slash hfree)]
      exact .cons hs ((ih more).1 hmore)
    · intro h
      induction path using Text.parts_induction '/' with
      | last s hs =>
        rw [Text.splitOn_of_not_mem hs, List.forall₂_cons, List.forall₂_nil_right_iff] at h
        exact absurd h.2 (List.splitOn_ne_nil _ _)
      | more s more hs _ =>
        rw [Text.splitOn_first hs, List.forall₂_cons] at h
        exact ⟨s, more, rfl, h.1, (ih more).2 h.2⟩

/-- A template accepts a path exactly if both have equally many segments and each segment of the
template, taken for itself, accepts the segment of the path in its place; and no hole takes in a
slash. -/
theorem accepts_iff_segments (template path : String) :
    (accepts template path = true ↔
      (segments template).length = (segments path).length ∧
      ∀ i (ht : i < (segments template).length) (hp : i < (segments path).length),
        accepts (segments template)[i] (segments path)[i] = true) ∧
    ∀ name s, (Part.hole name).Contributes s → '/' ∉ s := by
  refine ⟨?_, fun name s h => ?_⟩
  · have hsegments : accepts template path = true ↔ List.Forall₂ (fun t s => accepts t s = true)
        (segments template) (segments path) := by
      rw [accepts, acceptsPieces_iff, spells_iff_segments, segments, segments,
        List.forall₂_map_left_iff, List.forall₂_map_right_iff]
      simp only [accepts, acceptsPieces_iff, String.toList_ofList]
    rw [hsegments]
    exact List.forall₂_iff_get
  · have hpiece : (Piece.hole name).Contributes s := (shape_fits_iff name s).2 h
    have hhole : Piece.hole name ≠ .literal '/' := by rintro ⟨⟩
    exact hpiece.not_mem_slash hhole

example : accepts "/api/\x7bname\x7d-\x7bid\x7d/" "/api/a-b-7/" = true ∧
    accepts "/api/\x7bname\x7d-\x7bid\x7d/" "/api/a/b-7/" = false := by
  decide +kernel

end SwaggerPress.PathTemplate
