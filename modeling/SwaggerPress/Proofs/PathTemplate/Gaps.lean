import SwaggerPress.Proofs.PathTemplate.Version

/-!
    What putting in the version means, said without the replacement. A template is its *gaps*
    with the version hole written between them, and the path is the same gaps with the version
    between them (`withVersion_eq_iff`). No gap has the hole in it, and two holes never overlap, so
    there is one way to see a template like this, the one of a search from the left
    (`replaceAll_intercalate`).

        template    /a{   {version}   /   {version}   version}
        gaps        /a{               /               version}
        path        /a{   v2          /   v2          version}

    The gaps around a version that is part of the word `version` may be what is left of the hole; so
    among versions without braces those, and no others, can leave a hole behind
    (`leaves_no_hole_iff`). -/

namespace SwaggerPress.PathTemplate

section
variable {name v : List Char}

/-- A hole has an opening brace in front and no other. -/
theorem not_mem_tail_braced (hname : IsName name) : '\x7b' ∉ name ++ ['\x7d'] := by
  simp only [List.mem_append, List.mem_singleton, not_or]
  exact ⟨fun hmem => (hname.2 _ hmem).1 rfl, by decide⟩

/-- A hole in front of a gap and of another hole is in the gap already. -/
theorem prefix_gap {gap rest : List Char} {c : Char} (hname : IsName name)
    (h : braced name <+: c :: (gap ++ (braced name ++ rest))) : braced name <+: c :: gap := by
  have hbraced : braced name = '\x7b' :: (name ++ ['\x7d']) := rfl
  obtain ⟨more, hmore⟩ := h
  rw [hbraced, List.cons_append, List.cons.injEq] at hmore
  obtain ⟨rfl, hmore⟩ := hmore
  rw [hbraced, List.cons_prefix_cons]
  refine ⟨rfl, ?_⟩
  rcases List.append_eq_append_iff.1 hmore with ⟨after, hgap, -⟩ | ⟨tail, htail, hbrace⟩
  · exact ⟨after, hgap.symm⟩
  · -- the hole ends behind the gap, so it has the brace that opens the other one
    cases tail with
    | nil => exact ⟨[], by simpa using htail⟩
    | cons x tail =>
      rw [List.cons_append, List.cons_append, List.cons.injEq] at hbrace
      refine absurd ?_ (not_mem_tail_braced hname)
      rw [htail, hbrace.1]
      simp

/-- Behind a gap the first hole is the one that is written there. -/
theorem replaceAll_gap_append (hname : IsName name) (rest : List Char) :
    ∀ {gap : List Char}, ¬ braced name <:+: gap →
      replaceAll (braced name) v (gap ++ (braced name ++ rest)) =
        gap ++ (v ++ replaceAll (braced name) v rest)
  | [], _ => by
    rw [List.nil_append, List.nil_append, replaceAll_braced_append hname hname, if_pos rfl]
  | c :: gap, h => by
    rw [List.infix_cons_iff, not_or] at h
    rw [List.cons_append, replaceAll_cons_neg _ fun hp => h.1 (prefix_gap hname hp),
      replaceAll_gap_append hname rest h.2, List.cons_append]

/-- Between gaps every hole is replaced. -/
theorem replaceAll_intercalate (hname : IsName name) : ∀ {gaps : List (List Char)},
    (∀ gap ∈ gaps, ¬ braced name <:+: gap) →
      replaceAll (braced name) v ((braced name).intercalate gaps) = v.intercalate gaps
  | [], _ => by rw [List.intercalate_nil, List.intercalate_nil, replaceAll]
  | [gap], h => by
    rw [List.intercalate_singleton, List.intercalate_singleton,
      replaceAll_of_not_infix (h gap List.mem_cons_self)]
  | gap :: next :: gaps, h => by
    have hrest := replaceAll_intercalate hname fun g hg => h g (List.mem_cons_of_mem gap hg)
    rw [List.intercalate_cons_cons, List.intercalate_cons_cons, List.append_assoc,
      replaceAll_gap_append hname _ (h gap List.mem_cons_self), hrest, List.append_assoc]

theorem prefix_intercalate (sep gap : List Char) : ∀ gaps : List (List Char),
    gap <+: sep.intercalate (gap :: gaps)
  | [] => by simp
  | next :: gaps => by
    rw [List.intercalate_cons_cons, List.append_assoc]
    exact List.prefix_append _ _

theorem cons_intercalate (sep gap : List Char) (c : Char) : ∀ gaps : List (List Char),
    c :: sep.intercalate (gap :: gaps) = sep.intercalate ((c :: gap) :: gaps)
  | [] => by simp
  | next :: gaps => by simp

/-- Every text has gaps. -/
theorem exists_gaps (name cs : List Char) : ∃ gap gaps,
    (∀ g ∈ gap :: gaps, ¬ braced name <:+: g) ∧ cs = (braced name).intercalate (gap :: gaps) := by
  have hempty : ¬ braced name <:+: [] := by simp [braced]
  -- the gaps are found as the replacement finds the holes
  fun_induction replaceAll (braced name) [] cs with
  | case1 => exact ⟨[], [], by simpa using hempty, by simp⟩
  | case2 c rest hp ih =>
    obtain ⟨gap, gaps, hfree, hrest⟩ := ih
    obtain ⟨after, hafter⟩ := List.isPrefixOf_iff_prefix.1 hp
    have hdrop : rest.drop ((braced name).length - 1) = after := by
      have h := congrArg (List.drop (braced name).length) hafter
      rw [List.drop_left] at h
      rw [h]
      simp [braced]
    refine ⟨[], gap :: gaps, List.forall_mem_cons.2 ⟨hempty, hfree⟩, ?_⟩
    rw [List.intercalate_cons_cons, List.nil_append, ← hrest, hdrop, hafter]
  | case3 c rest hp ih =>
    obtain ⟨gap, gaps, hfree, rfl⟩ := ih
    rw [List.forall_mem_cons] at hfree
    refine ⟨c :: gap, gaps, List.forall_mem_cons.2 ⟨?_, hfree.2⟩, cons_intercalate _ gap c gaps⟩
    rw [List.infix_cons_iff, not_or]
    refine ⟨fun h => hp (List.isPrefixOf_iff_prefix.2 (h.trans ?_)), hfree.1⟩
    exact List.cons_prefix_cons.2 ⟨rfl, prefix_intercalate _ gap gaps⟩

end

/-- The template becomes the path: it has gaps without a hole, with the hole between them, and the
path has the version there. -/
def Becomes (version template path : String) : Prop :=
  ∃ gaps : List String, (∀ gap ∈ gaps, ¬ HasVersionHole gap) ∧
    template = versionHole.intercalate gaps ∧ path = version.intercalate gaps

theorem withVersion_intercalate (version : String) {gaps : List String}
    (h : ∀ gap ∈ gaps, ¬ HasVersionHole gap) :
    withVersion version (versionHole.intercalate gaps) = version.intercalate gaps := by
  rw [← String.toList_inj, withVersion, String.toList_ofList, String.toList_intercalate,
    String.toList_intercalate, versionHole_toList]
  refine replaceAll_intercalate isName_versionName (List.forall_mem_map.2 fun gap hgap => ?_)
  have hfree := h gap hgap
  rwa [HasVersionHole, versionHole_toList] at hfree

/-- Putting in the version is what every template becomes, and nothing else. -/
theorem withVersion_eq_iff {version template path : String} :
    withVersion version template = path ↔ Becomes version template path := by
  constructor
  · rintro rfl
    obtain ⟨gap, gaps, hfree, htemplate⟩ := exists_gaps versionName template.toList
    have htexts : template = versionHole.intercalate ((gap :: gaps).map String.ofList) := by
      rw [← String.toList_inj, String.toList_intercalate, versionHole_toList, htemplate]
      simp [Function.comp_def]
    have hfree' : ∀ g ∈ (gap :: gaps).map String.ofList, ¬ HasVersionHole g := by
      refine List.forall_mem_map.2 fun g hg => ?_
      rw [HasVersionHole, versionHole_toList, String.toList_ofList]
      exact hfree g hg
    refine ⟨_, hfree', htexts, ?_⟩
    rw [htexts, withVersion_intercalate version hfree']
  · rintro ⟨gaps, hfree, rfl, rfl⟩
    exact withVersion_intercalate version hfree

theorem HasVersionHole.mem {s : List Char} (h : HasVersionHole (String.ofList s)) :
    '\x7b' ∈ s ∧ '\x7d' ∈ s := by
  rw [HasVersionHole, String.toList_ofList, versionHole_toList] at h
  exact ⟨h.subset (by simp [braced]), h.subset (by simp [braced])⟩

/-- A version without braces leaves no hole in any template exactly if it is no part of the hole's
name. -/
theorem leaves_no_hole_iff {version : String} (hbrace : BraceFree version.toList) :
    (∀ template, ¬ HasVersionHole (withVersion version template)) ↔
      ¬ version.toList <:+: versionName := by
  refine ⟨?_, fun hocc => not_hasVersionHole_withVersion hbrace hocc⟩
  -- put between what stands around it in the name, it gives the name
  rintro h ⟨front, back, hname⟩
  have hfront : '\x7d' ∉ '\x7b' :: front := by
    intro hmem
    have hclose : '\x7d' ∈ front := by simpa using hmem
    exact (isName_versionName.2 _ (by simp [← hname, hclose])).2.1 rfl
  have hback : '\x7b' ∉ back ++ ['\x7d'] := by
    intro hmem
    have hopen : '\x7b' ∈ back := by simpa using hmem
    exact (isName_versionName.2 _ (by simp [← hname, hopen])).1 rfl
  have hgaps : ∀ gap ∈ [String.ofList ('\x7b' :: front), String.ofList (back ++ ['\x7d'])],
      ¬ HasVersionHole gap := by
    intro gap hgap hhole
    rcases List.mem_pair.1 hgap with rfl | rfl
    · exact hfront hhole.mem.2
    · exact hback hhole.mem.1
  refine h (versionHole.intercalate
    [String.ofList ('\x7b' :: front), String.ofList (back ++ ['\x7d'])]) ?_
  rw [withVersion_intercalate version hgaps, HasVersionHole,
    String.toList_intercalate, versionHole_toList, braced, ← hname]
  simp

end SwaggerPress.PathTemplate
