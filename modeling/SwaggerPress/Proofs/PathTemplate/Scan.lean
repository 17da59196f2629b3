import Mathlib.Data.List.TakeWhile
import SwaggerPress.Proofs.PathTemplate.Spells

/-!
    The language of a template. A template is scanned from the left: up to the first hole it is text,
    then comes the hole, and behind it the scan goes on (`Scan`). A hole is a name in braces, the name
    not empty and without brace and slash; whatever is not in a hole is text, which stands for itself.

        /{a{id}-{}      scans as      /{a   {id}   -{}
                                      text  hole   text

    Every template has exactly one scan, and it accepts the paths that are one text for each part of
    the scan put together (`accepts_iff_scan`). -/

namespace SwaggerPress.PathTemplate

/-- A part of a template. -/
inductive Part where
  | text (s : List Char)
  | hole (name : List Char)

/-- A name may stand in a hole. -/
def IsName (name : List Char) : Prop :=
  name ≠ [] ∧ ∀ c ∈ name, c ≠ '\x7b' ∧ c ≠ '\x7d' ∧ c ≠ '/'

instance (name : List Char) : Decidable (IsName name) :=
  @instDecidableAnd _ _ inferInstance (List.decidableBAll _ name)

/-- The hole of a name as it is written. -/
def braced (name : List Char) : List Char := '\x7b' :: name ++ ['\x7d']

/-- A hole is written in a template right after `before`. -/
def HoleAfter (template before : List Char) : Prop :=
  ∃ name after, IsName name ∧ template = before ++ braced name ++ after

/-- The scan of a template from the left. -/
inductive Scan : List Char → List Part → Prop
  | last {s : List Char} : (∀ before, ¬ HoleAfter s before) → Scan s [.text s]
  | hole {s name rest : List Char} {parts : List Part} : IsName name →
      (∀ before, HoleAfter (s ++ braced name ++ rest) before → s.length ≤ before.length) →
      Scan rest parts → Scan (s ++ braced name ++ rest) (.text s :: .hole name :: parts)

/-- The texts that may stand in the hole of a name. -/
def HoleText (name s : List Char) : Prop :=
  s ≠ [] ∧
    if name = "id".toList ∨ name = "pk".toList ∨ "_id".toList <:+ name ∨ "_pk".toList <:+ name then
      ∀ c ∈ s, c.isDigit
    else if "slug".toList <:+ name then ∀ c ∈ s, c.isAlphanum ∨ c = '-'
    else ∀ c ∈ s, c ≠ '/'

/-- The texts that a part may contribute to a path. -/
def Part.Contributes : Part → List Char → Prop
  | .text s, t => t = s
  | .hole name, t => HoleText name t

/-! ### Holes -/

theorem shape_fits_iff (name s : List Char) : (Shape.ofName name).Fits s ↔ HoleText name s := by
  have hdigit : ∀ c : Char, Shape.digits.allows c = true ↔ c.isDigit := fun _ => Iff.rfl
  have hslug : ∀ c : Char, Shape.slug.allows c = true ↔ c.isAlphanum ∨ c = '-' := by
    intro c
    have hupper : c.isUpper = ('A' ≤ c && c ≤ 'Z') := Bool.decide_and ..
    have hallows : Shape.slug.allows c = (c.isLower || c.isUpper || c.isDigit || c = '-') := by
      rw [hupper]; rfl
    have halphanum : c.isAlphanum = (c.isUpper || c.isLower || c.isDigit) := rfl
    rw [hallows, halphanum, Bool.or_comm c.isUpper, Bool.or_eq_true, decide_eq_true_eq]
  have hsegment : ∀ c : Char, Shape.segment.allows c = true ↔ c ≠ '/' := by
    intro c; simp [Shape.allows]
  have hid : Shape.ofName name = if name = "id".toList ∨ name = "pk".toList ∨
      "_id".toList <:+ name ∨ "_pk".toList <:+ name then .digits
      else if "slug".toList <:+ name then .slug else .segment := by
    simp only [Shape.ofName, Bool.or_eq_true, decide_eq_true_eq, List.isSuffixOf_iff_suffix, or_assoc]
    rfl
  rw [hid, HoleText, Shape.Fits]
  by_cases hnumber : name = "id".toList ∨ name = "pk".toList ∨
      "_id".toList <:+ name ∨ "_pk".toList <:+ name
  · simp only [if_pos hnumber, hdigit]
  · by_cases hname : "slug".toList <:+ name
    · simp only [if_neg hnumber, if_pos hname, hslug]
    · simp only [if_neg hnumber, if_neg hname, hsegment]

/-- A name ends at the brace behind it. -/
theorem IsName.takeWhile {name : List Char} (h : IsName name) (rest : List Char) :
    (name ++ '\x7d' :: rest).takeWhile isNameChar = name ∧
      (name ++ '\x7d' :: rest).dropWhile isNameChar = '\x7d' :: rest := by
  have hall : ∀ c ∈ name, isNameChar c = true := by
    intro c hc
    simpa [isNameChar, and_assoc] using h.2 c hc
  have hbrace : isNameChar '\x7d' = false := by decide
  rw [List.takeWhile_append_of_pos hall, List.dropWhile_append_of_pos hall,
    List.takeWhile_cons_of_neg (by simp [hbrace]), List.dropWhile_cons_of_neg (by simp [hbrace])]
  exact ⟨List.append_nil _, rfl⟩

theorem isName_takeWhile {rest : List Char} (h : rest.takeWhile isNameChar ≠ []) :
    IsName (rest.takeWhile isNameChar) := by
  refine ⟨h, fun c hc => ?_⟩
  simpa [isNameChar, and_assoc] using List.mem_takeWhile_imp hc

/-- A hole is written at the start of a text exactly where `pieces` finds one. -/
theorem holeAfter_nil_iff {c : Char} {rest : List Char} :
    HoleAfter (c :: rest) [] ↔ c = '\x7b' ∧ rest.takeWhile isNameChar ≠ [] ∧
      ∃ after, rest.dropWhile isNameChar = '\x7d' :: after := by
  constructor
  · rintro ⟨name, after, hname, heq⟩
    simp only [braced, List.nil_append, List.cons_append, List.append_assoc, List.cons.injEq] at heq
    obtain ⟨rfl, rfl⟩ := heq
    obtain ⟨htake, hdrop⟩ := hname.takeWhile after
    exact ⟨rfl, by simpa [htake] using hname.1, after, by simpa using hdrop⟩
  · rintro ⟨rfl, hne, after, hafter⟩
    refine ⟨_, after, isName_takeWhile hne, ?_⟩
    have hsplit := List.takeWhile_append_dropWhile (p := isNameChar) (l := rest)
    rw [hafter] at hsplit
    simp only [braced, List.nil_append, List.cons_append, List.append_assoc, hsplit]

theorem holeAfter_cons_iff {c d : Char} {rest before : List Char} :
    HoleAfter (c :: rest) (d :: before) ↔ c = d ∧ HoleAfter rest before := by
  constructor
  · rintro ⟨name, after, hname, heq⟩
    rw [List.cons_append, List.cons_append, List.cons.injEq] at heq
    exact ⟨heq.1, name, after, hname, heq.2⟩
  · rintro ⟨rfl, name, after, hname, rfl⟩
    exact ⟨name, after, hname, rfl⟩

/-! ### The scan -/

/-- The pieces of a part. -/
def Part.pieces : Part → List Piece
  | .text s => s.map .literal
  | .hole name => [.hole name]

/-- A character before which no hole starts goes to the text in front. -/
theorem exists_scan_cons {c : Char} {rest : List Char} {parts : List Part} (h : Scan rest parts)
    (hc : ¬ HoleAfter (c :: rest) []) :
    ∃ parts', Scan (c :: rest) parts' ∧
      parts'.flatMap Part.pieces = .literal c :: parts.flatMap Part.pieces := by
  cases h with
  | @last s hlast =>
    refine ⟨[.text (c :: rest)], .last ?_, rfl⟩
    rintro (_ | ⟨d, before⟩) hhole
    · exact hc hhole
    · exact hlast before (holeAfter_cons_iff.1 hhole).2
  | @hole s name rest parts hname hfirst hrest =>
    refine ⟨.text (c :: s) :: .hole name :: parts, .hole (s := c :: s) hname ?_ hrest, rfl⟩
    rintro (_ | ⟨d, before⟩) hhole
    · exact absurd hhole hc
    · exact Nat.succ_le_succ (hfirst before (holeAfter_cons_iff.1 hhole).2)

/-- Every template has a scan, and its parts have the pieces of the template. -/
theorem exists_scan (t : List Char) :
    ∃ parts, Scan t parts ∧ parts.flatMap Part.pieces = pieces t := by
  fun_induction pieces t with
  | case1 =>
    refine ⟨[.text []], .last ?_, rfl⟩
    rintro before ⟨name, after, -, heq⟩
    simp [braced] at heq
  | case2 c rest name after hdrop hhole ih =>
    obtain ⟨parts, hscan, hpieces⟩ := ih
    obtain ⟨rfl, hne⟩ := hhole
    have hsplit : '\x7b' :: rest = [] ++ braced name ++ after := by
      have hrest := List.takeWhile_append_dropWhile (p := isNameChar) (l := rest)
      rw [hdrop] at hrest
      simp only [braced, List.nil_append, List.cons_append, List.append_assoc, name, hrest]
    refine ⟨.text [] :: .hole name :: parts, ?_, ?_⟩
    · rw [hsplit]
      exact .hole (isName_takeWhile hne) (fun _ _ => Nat.zero_le _) hscan
    · simp [Part.pieces, hpieces]
  | case3 c rest name after hdrop hhole ih =>
    obtain ⟨parts, hscan, hpieces⟩ := ih
    have hc : ¬ HoleAfter (c :: rest) [] := by
      rw [holeAfter_nil_iff]
      rintro ⟨hc, hne, -⟩
      exact hhole ⟨hc, hne⟩
    obtain ⟨parts', hscan', hpieces'⟩ := exists_scan_cons hscan hc
    exact ⟨parts', hscan', by rw [hpieces', hpieces]⟩
  | case4 c rest hdrop ih =>
    obtain ⟨parts, hscan, hpieces⟩ := ih
    have hc : ¬ HoleAfter (c :: rest) [] := by
      rw [holeAfter_nil_iff]
      rintro ⟨-, -, after, hafter⟩
      exact hdrop after hafter
    obtain ⟨parts', hscan', hpieces'⟩ := exists_scan_cons hscan hc
    exact ⟨parts', hscan', by rw [hpieces', hpieces]⟩

/-- Two holes written at one place are the same hole. -/
theorem braced_append_inj {name name' rest rest' : List Char} (hname : IsName name)
    (hname' : IsName name') (h : braced name ++ rest = braced name' ++ rest') :
    name = name' ∧ rest = rest' := by
  simp only [braced, List.cons_append, List.append_assoc, List.nil_append, List.cons.injEq,
    true_and] at h
  obtain ⟨htake, hdrop⟩ := hname.takeWhile rest
  obtain ⟨htake', hdrop'⟩ := hname'.takeWhile rest'
  rw [h] at htake hdrop
  refine ⟨htake.symm.trans htake', ?_⟩
  have hrest := hdrop.symm.trans hdrop'
  rw [List.cons.injEq] at hrest
  exact hrest.2

/-- A template has only one scan. -/
theorem Scan.unique {t : List Char} {parts : List Part} (h : Scan t parts) :
    ∀ {parts' : List Part}, Scan t parts' → parts' = parts := by
  induction h with
  | @last s hlast =>
    intro parts' h'
    cases h' with
    | last _ => rfl
    | @hole s' name rest _ hname _ _ => exact absurd ⟨name, rest, hname, rfl⟩ (hlast s')
  | @hole s name rest parts hname hfirst hrest ih =>
    intro parts' h'
    generalize ht : s ++ braced name ++ rest = t at h'
    cases h' with
    | last hlast => exact absurd ⟨name, rest, hname, ht.symm⟩ (hlast s)
    | @hole s' name' rest' parts' hname' hfirst' hrest' =>
      have hle : s.length ≤ s'.length := hfirst s' ⟨name', rest', hname', ht⟩
      have hge : s'.length ≤ s.length := hfirst' s ⟨name, rest, hname, ht.symm⟩
      rw [List.append_assoc, List.append_assoc] at ht
      obtain ⟨rfl, hbraced⟩ := List.append_inj ht (Nat.le_antisymm hle hge)
      obtain ⟨rfl, rfl⟩ := braced_append_inj hname hname' hbraced
      rw [ih hrest']

theorem spells_parts_iff : ∀ {parts : List Part} {path : List Char},
    Spells (parts.flatMap Part.pieces) path ↔
      ∃ texts, List.Forall₂ Part.Contributes parts texts ∧ path = texts.flatten
  | [], path => by
    constructor
    · rintro rfl; exact ⟨[], .nil, rfl⟩
    · rintro ⟨texts, htexts, rfl⟩
      cases htexts; rfl
  | part :: parts, path => by
    have hpart : ∀ s, Spells part.pieces s ↔ part.Contributes s := by
      intro s
      cases part with
      | text t => exact spells_literals
      | hole name => exact spells_singleton.trans (shape_fits_iff name s)
    rw [List.flatMap_cons, spells_append]
    constructor
    · rintro ⟨s, rest, rfl, hs, hrest⟩
      obtain ⟨texts, htexts, rfl⟩ := spells_parts_iff.1 hrest
      exact ⟨s :: texts, .cons ((hpart s).1 hs) htexts, rfl⟩
    · rintro ⟨texts, htexts, rfl⟩
      cases htexts with
      | cons hs hrest => exact ⟨_, _, rfl, (hpart _).2 hs, spells_parts_iff.2 ⟨_, hrest, rfl⟩⟩

/-- A template accepts exactly the paths that are one text for each part of its only scan; without a
hole it accepts itself only. -/
theorem accepts_iff_scan (template : String) :
    ∃ parts, Scan template.toList parts ∧ (∀ parts', Scan template.toList parts' → parts' = parts) ∧
      (∀ path : String, accepts template path = true ↔
        ∃ texts, List.Forall₂ Part.Contributes parts texts ∧ path.toList = texts.flatten) ∧
      ((∀ before, ¬ HoleAfter template.toList before) →
        ∀ path : String, accepts template path = true ↔ path = template) := by
  obtain ⟨parts, hscan, hpieces⟩ := exists_scan template.toList
  have haccepts : ∀ path : String, accepts template path = true ↔
      ∃ texts, List.Forall₂ Part.Contributes parts texts ∧ path.toList = texts.flatten := by
    intro path
    rw [accepts, acceptsPieces_iff, ← hpieces, spells_parts_iff]
  refine ⟨parts, hscan, fun _ => hscan.unique, haccepts, fun hnone path => ?_⟩
  rw [haccepts, ← hscan.unique (.last hnone)]
  constructor
  · rintro ⟨texts, htexts, heq⟩
    obtain ⟨s, _, hs, hnil, rfl⟩ := List.forall₂_cons_left_iff.1 htexts
    rw [List.forall₂_nil_left_iff.1 hnil, List.flatten_cons, List.flatten_nil, List.append_nil,
      hs] at heq
    exact String.toList_inj.1 heq
  · rintro rfl
    exact ⟨[path.toList], .cons rfl .nil, by simp⟩

end SwaggerPress.PathTemplate
