import SwaggerPress.Proofs.PathTemplate.Scan

/-!
    Putting the version into a template. The replacement knows nothing of holes, it looks for the
    nine characters `{version}`; the scan knows nothing of versions, it looks for braces. On a
    template whose text is without braces both see the same: what is replaced is exactly the holes
    named `version`, and what was a hole before is one afterwards (`accepts_withVersion_iff`).

        /api/{version}/w{id}      text  hole version  text  hole id
        /api/v2/w{id}             text     text       text  hole id

    On any template, a version without braces that does not occur in `version` itself leaves no
    `{version}` behind, not even one put together around it (`not_infix_replaceAll`):

        {ver{version}sion}   with v2   gives   {verv2sion}   and with the empty text   {version}    -/

namespace SwaggerPress.PathTemplate

/-- The text has no brace. -/
def BraceFree (s : List Char) : Prop := ∀ c ∈ s, c ≠ '\x7b' ∧ c ≠ '\x7d'

instance (s : List Char) : Decidable (BraceFree s) :=
  List.decidableBAll _ s

theorem BraceFree.not_mem {s : List Char} (h : BraceFree s) : '\x7b' ∉ s ∧ '\x7d' ∉ s :=
  ⟨fun hmem => (h _ hmem).1 rfl, fun hmem => (h _ hmem).2 rfl⟩

/-- The name of the hole that the version is put into. -/
def versionName : List Char := "version".toList

theorem isName_versionName : IsName versionName := by decide

theorem versionHole_toList : versionHole.toList = braced versionName := by decide

/-! ### What is left of the hole -/

section
variable {name v : List Char}

theorem replaceAll_cons_pos {c : Char} {rest : List Char} (pattern : List Char)
    (h : pattern <+: c :: rest) :
    replaceAll pattern v (c :: rest) = v ++ replaceAll pattern v (rest.drop (pattern.length - 1)) := by
  rw [replaceAll, if_pos (List.isPrefixOf_iff_prefix.2 h)]

theorem replaceAll_cons_neg {c : Char} {rest : List Char} (pattern : List Char)
    (h : ¬ pattern <+: c :: rest) :
    replaceAll pattern v (c :: rest) = c :: replaceAll pattern v rest := by
  rw [replaceAll, if_neg fun hp => h (List.isPrefixOf_iff_prefix.1 hp)]

/-- What ends a hole does not start where a text stands that neither has a brace nor occurs in the
name. -/
theorem not_prefix_append {front back after : List Char} (hname : name = front ++ back)
    (hv : '\x7d' ∉ v) (hocc : ¬ v <:+: name) : ¬ back ++ ['\x7d'] <+: v ++ after := by
  intro h
  rcases List.prefix_or_prefix_of_prefix h (List.prefix_append v after) with hp | hp
  · exact hv (hp.subset (by simp))
  · rcases List.prefix_concat_iff.1 hp with heq | hp
    · exact hv (by simp [heq])
    · exact hocc (hname ▸ hp.isInfix.trans (List.suffix_append front back).isInfix)

/-- What ends a hole stands in front of a text after the replacement only if it did before. -/
theorem prefix_of_prefix_replaceAll (hv : '\x7d' ∉ v) (hocc : ¬ v <:+: name) :
    ∀ {front back cs : List Char}, name = front ++ back →
      back ++ ['\x7d'] <+: replaceAll (braced name) v cs → back ++ ['\x7d'] <+: cs
  | front, back, [], _, h => by simp [replaceAll] at h
  | front, back, c :: rest, hname, h => by
    by_cases hp : braced name <+: c :: rest
    · rw [replaceAll_cons_pos _ hp] at h
      exact absurd h (not_prefix_append hname hv hocc)
    · rw [replaceAll_cons_neg _ hp] at h
      cases back with
      | nil => simpa using h
      | cons b back =>
        rw [List.cons_append, List.cons_prefix_cons] at h ⊢
        have hname' : name = (front ++ [b]) ++ back := by simpa using hname
        exact ⟨h.1, prefix_of_prefix_replaceAll hv hocc hname' h.2⟩

/-- A text without braces that does not occur in the name of a hole leaves no such hole behind. -/
theorem not_infix_replaceAll (hv : BraceFree v) (hocc : ¬ v <:+: name) (cs : List Char) :
    ¬ braced name <:+: replaceAll (braced name) v cs := by
  have hbraced : braced name = '\x7b' :: (name ++ ['\x7d']) := rfl
  fun_induction replaceAll (braced name) v cs with
  | case1 => simp [hbraced]
  | case2 c rest _ ih =>
    -- a hole that starts in `v` would start with a brace, so it starts behind it
    have hshift : ∀ w : List Char, '\x7b' ∉ w → ∀ after, ¬ braced name <:+: after →
        ¬ braced name <:+: w ++ after := by
      intro w hw after hafter h
      induction w with
      | nil => exact hafter h
      | cons x w ihw =>
        rw [List.cons_append, List.infix_cons_iff, hbraced, List.cons_prefix_cons] at h
        rw [List.mem_cons, not_or] at hw
        rcases h with ⟨hx, -⟩ | h
        · exact hw.1 hx
        · exact ihw hw.2 h
    exact hshift v hv.not_mem.1 _ ih
  | case3 c rest hp ih =>
    rw [List.infix_cons_iff, not_or]
    refine ⟨fun h => hp (List.isPrefixOf_iff_prefix.2 ?_), ih⟩
    rw [hbraced, List.cons_prefix_cons] at h ⊢
    exact ⟨h.1, prefix_of_prefix_replaceAll hv.not_mem.2 hocc (List.nil_append name).symm h.2⟩

/-- Without the pattern there is nothing to replace. -/
theorem replaceAll_of_not_infix {pattern : List Char} : ∀ {cs : List Char}, ¬ pattern <:+: cs →
    replaceAll pattern v cs = cs
  | [], _ => by rw [replaceAll]
  | c :: rest, h => by
    rw [List.infix_cons_iff, not_or] at h
    rw [replaceAll_cons_neg _ h.1, replaceAll_of_not_infix h.2]

end

/-- The version hole is written somewhere in the template. -/
def HasVersionHole (template : String) : Prop := versionHole.toList <:+: template.toList

theorem withVersion_of_not_hasVersionHole {template : String} (version : String)
    (h : ¬ HasVersionHole template) : withVersion version template = template := by
  rw [withVersion, replaceAll_of_not_infix h, String.ofList_toList]

/-- No version hole is left by a version that is not itself part of one. -/
theorem not_hasVersionHole_withVersion {version : String} (hbrace : BraceFree version.toList)
    (hocc : ¬ version.toList <:+: versionName) (template : String) :
    ¬ HasVersionHole (withVersion version template) := by
  rw [HasVersionHole, withVersion, String.toList_ofList, versionHole_toList]
  exact not_infix_replaceAll hbrace hocc template.toList

/-! ### The replacement part by part -/

/-- A part as it is written. -/
def Part.written : Part → List Char
  | .text s => s
  | .hole name => braced name

/-- A part that is read back where it is written: a text without opening brace, or a proper hole. -/
def Part.IsPlain : Part → Prop
  | .text s => '\x7b' ∉ s
  | .hole name => IsName name

/-- The part in a template for one version. -/
def Part.forVersion (version : List Char) : Part → Part
  | .text s => .text s
  | .hole name => if name = versionName then .text version else .hole name

/-- The texts that a part contributes to the paths of one version. -/
def Part.ContributesTo (version : List Char) : Part → List Char → Prop
  | .text s, t => t = s
  | .hole name, t => if name = versionName then t = version else HoleText name t

theorem Part.contributes_forVersion (version : List Char) (part : Part) :
    (part.forVersion version).Contributes = part.ContributesTo version := by
  funext t
  cases part with
  | text s => rfl
  | hole name =>
    by_cases h : name = versionName
    · simp [forVersion, ContributesTo, h, Contributes]
    · simp [forVersion, ContributesTo, h, Contributes]

theorem Scan.written {t : List Char} {parts : List Part} (h : Scan t parts) :
    t = parts.flatMap Part.written ∧ ∀ name, .hole name ∈ parts → IsName name := by
  induction h with
  | last _ => simp [Part.written]
  | @hole s name rest parts hname _ _ ih =>
    obtain ⟨hwritten, hnames⟩ := ih
    constructor
    · simp [Part.written, ← hwritten]
    · intro name' hmem
      simp only [List.mem_cons, reduceCtorEq, false_or, Part.hole.injEq] at hmem
      rcases hmem with rfl | hmem
      · exact hname
      · exact hnames name' hmem

/-- Nothing is replaced in a text without opening brace. -/
theorem replaceAll_text_append {name v rest : List Char} : ∀ {s : List Char}, '\x7b' ∉ s →
    replaceAll (braced name) v (s ++ rest) = s ++ replaceAll (braced name) v rest
  | [], _ => rfl
  | c :: s, h => by
    rw [List.mem_cons, not_or] at h
    have hp : ¬ braced name <+: c :: (s ++ rest) := fun hp => h.1 (List.cons_prefix_cons.1 hp).1
    rw [List.cons_append, replaceAll_cons_neg _ hp, replaceAll_text_append h.2,
      List.cons_append]

/-- A hole is replaced as a whole or not at all. -/
theorem replaceAll_braced_append {name name' v rest : List Char} (hname : IsName name)
    (hname' : IsName name') : replaceAll (braced name) v (braced name' ++ rest) =
      (if name' = name then v else braced name') ++ replaceAll (braced name) v rest := by
  have hcons : braced name' ++ rest = '\x7b' :: ((name' ++ ['\x7d']) ++ rest) := by simp [braced]
  by_cases heq : name' = name
  · subst heq
    have hp : braced name' <+: '\x7b' :: ((name' ++ ['\x7d']) ++ rest) := ⟨rest, hcons⟩
    have hdrop : ((name' ++ ['\x7d']) ++ rest).drop ((braced name').length - 1) = rest :=
      List.drop_left' (by simp [braced])
    rw [hcons, replaceAll_cons_pos _ hp, hdrop, if_pos rfl]
  · have hp : ¬ braced name <+: '\x7b' :: ((name' ++ ['\x7d']) ++ rest) := by
      rintro ⟨rest', hrest'⟩
      exact heq (braced_append_inj hname hname' (hrest'.trans hcons.symm)).1.symm
    have hbody : '\x7b' ∉ name' ++ ['\x7d'] := by
      simp only [List.mem_append, List.mem_singleton, not_or]
      exact ⟨fun hmem => (hname'.2 _ hmem).1 rfl, by decide⟩
    rw [hcons, replaceAll_cons_neg _ hp, replaceAll_text_append hbody, if_neg heq]
    simp [braced]

/-- On plain parts, putting in the version is done part by part. -/
theorem replaceAll_written (version : List Char) : ∀ {parts : List Part},
    (∀ part ∈ parts, part.IsPlain) → replaceAll (braced versionName) version
      (parts.flatMap Part.written) = (parts.map (Part.forVersion version)).flatMap Part.written
  | [], _ => by simp [replaceAll]
  | part :: parts, h => by
    have hpart : part.IsPlain := h part List.mem_cons_self
    have hrest := replaceAll_written version fun p hp => h p (List.mem_cons_of_mem _ hp)
    rw [List.flatMap_cons, List.map_cons, List.flatMap_cons, ← hrest]
    cases part with
    | text s => exact replaceAll_text_append hpart
    | hole name =>
      rw [Part.written, replaceAll_braced_append isName_versionName hpart, Part.forVersion]
      split <;> rfl

/-- The pieces of a text without opening brace are its characters. -/
theorem pieces_text_append {rest : List Char} : ∀ {s : List Char}, '\x7b' ∉ s →
    pieces (s ++ rest) = s.map .literal ++ pieces rest
  | [], _ => rfl
  | c :: s, h => by
    rw [List.mem_cons, not_or] at h
    rw [List.cons_append, List.map_cons, List.cons_append, ← pieces_text_append h.2, pieces]
    split
    · rw [if_neg fun hc => h.1 hc.1.symm]
    · rfl

theorem pieces_braced_append {name rest : List Char} (hname : IsName name) :
    pieces (braced name ++ rest) = .hole name :: pieces rest := by
  have hcons : braced name ++ rest = '\x7b' :: (name ++ '\x7d' :: rest) := by simp [braced]
  obtain ⟨htake, hdrop⟩ := hname.takeWhile rest
  rw [hcons, pieces]
  split
  next after hafter =>
    rw [hdrop, List.cons.injEq] at hafter
    rw [htake, if_pos ⟨rfl, hname.1⟩, hafter.2]
  next hnone => exact absurd hdrop (hnone rest)

/-- Plain parts are read back as they are written. -/
theorem pieces_written : ∀ {parts : List Part}, (∀ part ∈ parts, part.IsPlain) →
    pieces (parts.flatMap Part.written) = parts.flatMap Part.pieces
  | [], _ => by simp [pieces]
  | part :: parts, h => by
    have hpart : part.IsPlain := h part List.mem_cons_self
    have hrest := pieces_written fun p hp => h p (List.mem_cons_of_mem _ hp)
    rw [List.flatMap_cons, List.flatMap_cons, ← hrest]
    cases part with
    | text s => exact pieces_text_append hpart
    | hole name => exact pieces_braced_append hpart

theorem Part.IsPlain.forVersion {version : List Char} (hversion : '\x7b' ∉ version) {part : Part}
    (h : part.IsPlain) : (part.forVersion version).IsPlain := by
  cases part with
  | text s => exact h
  | hole name =>
    rw [Part.forVersion]
    split
    · exact hversion
    · exact h

/-- The template for one version accepts the paths in which every version hole is that version and
every other part is what it was; so it accepts less than the template itself, if the version is a
text that its hole accepts at all. -/
theorem accepts_withVersion_iff {version template : String} {parts : List Part}
    (hscan : Scan template.toList parts) (htext : ∀ s, .text s ∈ parts → BraceFree s)
    (hversion : BraceFree version.toList) :
    (∀ path : String, accepts (withVersion version template) path = true ↔
      ∃ texts, List.Forall₂ (Part.ContributesTo version.toList) parts texts ∧
        path.toList = texts.flatten) ∧
    (HoleText versionName version.toList → ∀ path : String,
      accepts (withVersion version template) path = true → accepts template path = true) := by
  obtain ⟨hwritten, hnames⟩ := hscan.written
  have hplain : ∀ part ∈ parts, part.IsPlain := by
    intro part hmem
    cases part with
    | text s => exact (htext s hmem).not_mem.1
    | hole name => exact hnames name hmem
  have hplain' : ∀ part ∈ parts.map (Part.forVersion version.toList), part.IsPlain := by
    intro part hmem
    obtain ⟨part', hmem', rfl⟩ := List.mem_map.1 hmem
    exact (hplain part' hmem').forVersion hversion.not_mem.1
  have hpieces : pieces (withVersion version template).toList =
      (parts.map (Part.forVersion version.toList)).flatMap Part.pieces := by
    rw [withVersion, String.toList_ofList, versionHole_toList, hwritten,
      replaceAll_written _ hplain, pieces_written hplain']
  have haccepts : ∀ path : String, accepts (withVersion version template) path = true ↔
      ∃ texts, List.Forall₂ (Part.ContributesTo version.toList) parts texts ∧
        path.toList = texts.flatten := by
    intro path
    rw [accepts, acceptsPieces_iff, hpieces, spells_parts_iff]
    simp only [List.forall₂_map_left_iff, Part.contributes_forVersion]
  refine ⟨haccepts, fun hfits path hpath => ?_⟩
  obtain ⟨texts, htexts, heq⟩ := (haccepts path).1 hpath
  rw [accepts, acceptsPieces_iff, hwritten, pieces_written hplain, spells_parts_iff]
  refine ⟨texts, htexts.imp fun part t hpart => ?_, heq⟩
  cases part with
  | text s => exact hpart
  | hole name =>
    rw [Part.ContributesTo] at hpart
    by_cases hname : name = versionName
    · rw [if_pos hname] at hpart
      rw [Part.Contributes, hpart, hname]; exact hfits
    · rw [if_neg hname] at hpart
      exact hpart

/-! ### Scans of plain parts -/

theorem HoleAfter.length_le {s rest before : List Char} (h : HoleAfter (s ++ rest) before)
    (hs : '\x7b' ∉ s) : s.length ≤ before.length := by
  obtain ⟨name, after, -, heq⟩ := h
  by_contra hlt
  have hbrace : (s ++ rest)[before.length]? = some '\x7b' := by rw [heq]; simp [braced]
  rw [List.getElem?_append_left (by omega)] at hbrace
  exact hs (List.mem_of_getElem? hbrace)

theorem scan_text {s : List Char} (hs : '\x7b' ∉ s) : Scan s [.text s] := by
  refine .last fun before h => ?_
  obtain ⟨name, after, -, heq⟩ := h
  exact hs (heq ▸ by simp [braced])

theorem scan_text_hole {s name rest : List Char} {parts : List Part} (hs : '\x7b' ∉ s)
    (hname : IsName name) (h : Scan rest parts) :
    Scan (s ++ braced name ++ rest) (.text s :: .hole name :: parts) := by
  refine .hole hname (fun before hbefore => ?_) h
  rw [List.append_assoc] at hbefore
  exact hbefore.length_le hs

/-- A template with two version holes, one of them next to another hole. -/
def versionedTwice : String := "/\x7bversion\x7d\x7bid\x7d/\x7bversion\x7d"

def versionedTwiceParts : List Part :=
  [.text ['/'], .hole versionName, .text [], .hole ['i', 'd'], .text ['/'], .hole versionName, .text []]

theorem scan_versionedTwice : Scan versionedTwice.toList versionedTwiceParts := by
  have hlast : Scan [] [.text []] := scan_text (by simp)
  have hversion := scan_text_hole (s := ['/']) (by decide) isName_versionName hlast
  have hname : IsName ['i', 'd'] := by decide
  have hid := scan_text_hole (s := []) (by simp) hname hversion
  exact scan_text_hole (s := ['/']) (by decide) isName_versionName hid

/-- The version looks like a pattern and is put in as it is. -/
theorem accepts_withVersion_iff_twice :
    Scan versionedTwice.toList versionedTwiceParts ∧
    (∀ s, .text s ∈ versionedTwiceParts → BraceFree s) ∧
    BraceFree "v[2].".toList ∧ HoleText versionName "v[2].".toList ∧
    (∀ path : String, accepts (withVersion "v[2]." versionedTwice) path = true ↔
      ∃ texts, List.Forall₂ (Part.ContributesTo "v[2].".toList) versionedTwiceParts texts ∧
        path.toList = texts.flatten) ∧
    ∀ path : String, accepts (withVersion "v[2]." versionedTwice) path = true →
      accepts versionedTwice path = true := by
  have htext : ∀ s, .text s ∈ versionedTwiceParts → BraceFree s := by
    intro s hs
    simp only [versionedTwiceParts, List.mem_cons, List.not_mem_nil, Part.text.injEq, reduceCtorEq,
      or_false, false_or] at hs
    rcases hs with rfl | rfl | rfl | rfl <;> decide
  have hversion : BraceFree "v[2].".toList := by decide
  have hfits : HoleText versionName "v[2].".toList := by
    rw [← shape_fits_iff]
    exact ⟨by decide, List.all_eq_true.1 (by decide)⟩
  obtain ⟨haccepts, hnarrows⟩ := accepts_withVersion_iff scan_versionedTwice htext hversion
  exact ⟨scan_versionedTwice, htext, hversion, hfits, haccepts, hnarrows hfits⟩

end SwaggerPress.PathTemplate
