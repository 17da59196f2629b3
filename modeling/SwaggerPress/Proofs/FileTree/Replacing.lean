import SwaggerPress.Proofs.FileTree.Parts
import SwaggerPress.Proofs.FileTree.Writing

/-!
    Replacing a file. A path that leads to a file comes through directories only. One step up from
    such a place is a directory again, as what a path has come through stands above it (`Rooted`):

        part        out    a        ..     .      x.json
        leads to    out    out/a    out    out    out/x.json

    So the last part is a name, and the path puts a file where it leads (`destination_of_lookUp`);
    the directory of the file is there and has not to be made (`lookUp_directoryOf`); and the file
    can be replaced (`writeAtomically_of_lookUp`). -/

namespace SwaggerPress.FileTree

/-- What is above a location is directories, and steps up stand in front of all names. -/
structure Rooted (t : FileTree) (at_ : Location) : Prop where
  above : ∀ front, front <+: at_ → front ≠ at_ → t.entry? front = some .directory
  ups : ∀ front, front <+: at_ → front.getLast? = some ".." → ∀ name ∈ front, name = ".."

variable {t t' : FileTree} {at_ place : Location} {path : String} {old : Content}

theorem entry?_of_ups (t : FileTree) {dots : Location} (h : ∀ d ∈ dots, d = "..") :
    t.entry? dots = some .directory :=
  if_pos (by simpa using .inr h)

theorem rooted_of_ups (t : FileTree) {dots : Location} (h : ∀ d ∈ dots, d = "..") :
    t.Rooted dots where
  above _ hfront _ := t.entry?_of_ups fun d hd => h d (hfront.subset hd)
  ups _ hfront _ d hd := h d (hfront.subset hd)

theorem entry?_nil (t : FileTree) : t.entry? [] = some .directory :=
  t.entry?_of_ups (List.forall_mem_nil _)

theorem rooted_nil (t : FileTree) : t.Rooted [] := t.rooted_of_ups (List.forall_mem_nil _)

theorem Rooted.dropLast (h : t.Rooted at_) : t.Rooted at_.dropLast where
  above front hfront hne := by
    refine h.above front (hfront.trans (List.dropLast_prefix at_)) fun heq => ?_
    subst heq
    exact hne (hfront.eq_of_length_le (List.dropLast_prefix front).length_le)
  ups front hfront := h.ups front (hfront.trans (List.dropLast_prefix at_))

theorem Rooted.concat (h : t.Rooted at_) (hd : t.entry? at_ = some .directory) {name : String}
    (hname : name ≠ "..") : t.Rooted (at_ ++ [name]) where
  above front hfront hne := by
    by_cases heq : front = at_
    · rw [heq, hd]
    · exact h.above front ((List.prefix_concat_iff.1 hfront).resolve_left hne) heq
  ups front hfront hlast := by
    rcases List.prefix_concat_iff.1 hfront with rfl | hfront
    · rw [List.getLast?_concat] at hlast
      exact absurd (Option.some.inj hlast) hname
    · exact h.ups front hfront hlast

/-- One step up from a directory is a directory. -/
theorem Rooted.up (h : t.Rooted at_) (hd : t.entry? at_ = some .directory) :
    t.Rooted at_.up ∧ t.entry? at_.up = some .directory := by
  have hdots {dots : Location} (h : ∀ d ∈ dots, d = "..") :
      t.Rooted dots ∧ t.entry? dots = some .directory := ⟨t.rooted_of_ups h, t.entry?_of_ups h⟩
  rw [Location.up]
  split
  next => exact hdots (by simp)
  next hlast =>
    have hups := h.ups at_ List.prefix_rfl hlast
    exact hdots (by simpa [or_imp, forall_and] using hups)
  next => exact ⟨h, hd⟩
  next name _ _ hlast =>
    refine ⟨h.dropLast, h.above _ (List.dropLast_prefix at_) fun heq => ?_⟩
    have hne : at_ ≠ [] := by
      rintro rfl
      cases hlast
    have hlength := congrArg List.length heq
    rw [List.length_dropLast] at hlength
    have := List.length_pos_iff.2 hne
    omega

/-- A step from a directory stays below directories. -/
theorem Rooted.step (h : t.Rooted at_) (hd : t.entry? at_ = some .directory) (name : String) :
    t.Rooted (step at_ name) := by
  rw [FileTree.step]
  split
  next =>
    have hroot : t.Rooted ([] ++ ["/"]) :=
      t.rooted_nil.concat t.entry?_nil (by decide)
    exact hroot
  next =>
    split
    next => exact h
    next =>
      split
      next => exact (h.up hd).1
      next hup => exact h.concat hd hup

theorem Rooted.follow : ∀ {names : List String} {at_ : Location}, t.Rooted at_ →
    t.follow at_ names = .ok place → t.Rooted place
  | [], _, h, hfollow => by cases hfollow; exact h
  | name :: names, at_, h, hfollow => by
    rw [FileTree.follow] at hfollow
    cases he : t.entry? at_ with
    | none => rw [he] at hfollow; cases hfollow
    | some e =>
      cases e with
      | file content => rw [he] at hfollow; cases hfollow
      | directory =>
        rw [he] at hfollow
        simp only at hfollow
        split at hfollow
        · cases hfollow
        · exact Rooted.follow (h.step he name) hfollow

/-! ### The place of a file -/

/-- A part of a path that leads on from a directory is tried there. -/
theorem follow_concat {front : List String} {name : String} {start : Location}
    (h : t.follow start (front ++ [name]) = .ok at_) : ∃ parent, t.follow start front = .ok parent ∧
      t.entry? parent = some .directory ∧ ¬ maxNameBytes < name.utf8ByteSize ∧
      at_ = FileTree.step parent name := by
  rw [follow_append, bind_eq_ok_iff] at h
  obtain ⟨parent, hfront, hlast⟩ := h
  refine ⟨parent, hfront, ?_⟩
  rw [FileTree.follow] at hlast
  cases he : t.entry? parent with
  | none => rw [he] at hlast; cases hlast
  | some e =>
    cases e with
    | file content => rw [he] at hlast; cases hlast
    | directory =>
      rw [he] at hlast
      simp only at hlast
      split at hlast
      next => cases hlast
      next hsize =>
        cases hlast
        exact ⟨rfl, hsize, rfl⟩

/-- What a path leads to that is no directory is put there by its last name. -/
theorem destination_of_lookUp (h : t.lookUp path = .ok (at_, .file old)) :
    t.destination path = .ok at_ := by
  obtain ⟨hcheck, hfollow, hfile, hslash⟩ := lookUp_eq_ok_file_iff.1 h
  have hfree : t.entry? at_ ≠ some .directory := by rw [hfile]; nofun
  rcases List.eq_nil_or_concat (pathParts path) with hnil | ⟨front, name, hparts⟩
  · rw [hnil] at hfollow
    cases hfollow
    exact absurd t.entry?_nil hfree
  · rw [List.concat_eq_append] at hparts
    rw [hparts] at hfollow
    obtain ⟨parent, hfront, hparent, hsize, rfl⟩ := follow_concat hfollow
    have hrooted : t.Rooted parent := t.rooted_nil.follow hfront
    have hname : ["/", ".", ".."].contains name = false := by
      refine Bool.eq_false_iff.2 fun hcontains => hfree ?_
      simp only [List.contains_iff_mem, List.mem_cons, List.not_mem_nil, or_false] at hcontains
      rcases hcontains with rfl | rfl | rfl
      · exact if_pos rfl
      · exact hparent
      · exact (hrooted.up hparent).2
    refine destination_eq_ok_iff.2 ⟨hcheck, parent, name, ?_, hname, hsize, hslash,
      step_of_name hname parent, hfree⟩
    exact approach_eq_ok_iff.2 ⟨front, hparts, hfront, hparent⟩

/-! ### The directory of a file -/

/-- What stands at the front of a path that can be followed can be followed. -/
theorem checkPath_of_front {front : String} (h : checkPath path = .ok ()) (hne : front ≠ "")
    (hfront : front.toList <+: path.toList) : checkPath front = .ok () := by
  obtain ⟨rest, hrest⟩ := hfront
  obtain rfl : front ++ String.ofList rest = path := by
    rw [← String.toList_inj, String.toList_append, String.toList_ofList, hrest]
  rw [checkPath] at h ⊢
  split at h
  next => cases h
  next hnull =>
    split at h
    next => cases h
    next =>
      split at h
      next => cases h
      next hsize =>
        rw [String.utf8ByteSize_append] at hsize
        rw [if_neg ?_, if_neg (by simpa using hne), if_neg (by omega)]
        simp only [String.toList_append, List.contains_iff_mem, List.mem_append] at hnull
        simpa using fun hmem => hnull (.inl hmem)

theorem lookUp_directoryOf (h : t.lookUp path = .ok (at_, .file old)) :
    ∃ place, t.lookUp (directoryOf path) = .ok (place, .directory) := by
  obtain ⟨hcheck, hfollow, -, -⟩ := lookUp_eq_ok_file_iff.1 h
  have hdot : t.lookUp "." = .ok ([], .directory) := by
    have hparts : pathParts "." = ["."] := by decide
    refine lookUp_eq_ok_directory_iff.2 ⟨by decide, ?_, t.entry?_nil⟩
    rw [hparts, FileTree.follow, t.entry?_nil]
    rfl
  rw [directoryOf]
  split
  next => exact ⟨[], hdot⟩
  next => exact ⟨[], hdot⟩
  next parent hne hparent =>
    obtain ⟨last, more, hparts⟩ := parts_of_parentPath? hparent
    rw [hparts, List.append_cons, follow_append, bind_eq_ok_iff] at hfollow
    obtain ⟨_, hfollow, _⟩ := hfollow
    obtain ⟨place, hplace, hd, -⟩ := follow_concat hfollow
    have hcheck' := checkPath_of_front hcheck (by simpa using hne) (front_of_parentPath? hparent)
    exact ⟨place, lookUp_eq_ok_directory_iff.2 ⟨hcheck', hplace, hd⟩⟩

/-- A directory that is there is not missing. -/
theorem makeDirectory_of_lookUp {directory : String}
    (h : t.lookUp directory = .ok (place, .directory)) :
    (∃ t', t.makeDirectory directory = .ok t') ∨ t.makeDirectory directory = .error .exists := by
  obtain ⟨hcheck, hfollow, -⟩ := lookUp_eq_ok_directory_iff.1 h
  have hne : directory ≠ "" := by
    rintro rfl
    cases hcheck
  rcases List.eq_nil_or_concat (pathParts directory) with hnil | ⟨front, name, hparts⟩
  · exact absurd hnil (pathParts_ne_nil hne)
  · rw [List.concat_eq_append] at hparts
    rw [hparts] at hfollow
    obtain ⟨parent, hfront, hparent, hsize, -⟩ := follow_concat hfollow
    have happroach : t.approach directory = .ok (parent, name) :=
      approach_eq_ok_iff.2 ⟨front, hparts, hfront, hparent⟩
    simp only [makeDirectory, hcheck, happroach, ok_bind, if_neg hsize]
    split
    next => exact .inr rfl
    next =>
      split
      next => exact .inr rfl
      next => exact .inl ⟨_, rfl⟩

/-- Nothing in the tree keeps a file that is there from being replaced. -/
theorem writeAtomically_of_lookUp (h : t.lookUp path = .ok (at_, .file old)) (text : String) :
    (t.writeAtomically path text).1 = none := by
  have hmade : (t.makeDirectories (directoryOf path)).1 = none := by
    obtain ⟨place, hdirectory⟩ := lookUp_directoryOf h
    have hthere : t.isDirectory (directoryOf path) = true := isDirectory_iff.2 ⟨place, hdirectory⟩
    rw [makeDirectories, chain]
    split
    next => rfl
    next =>
      rw [makeChain]
      rcases makeDirectory_of_lookUp hdirectory with ⟨t', hmake⟩ | hmake
      · rw [hmake]
      · rw [hmake]
        simp only [hthere, if_true]
  have hgrows := t.grows_makeDirectories (directoryOf path)
  rw [writeAtomically, put]
  split
  next fault t₁ hmakes => rw [hmakes] at hmade; cases hmade
  next t₁ hmakes =>
    rw [hmakes] at hgrows
    rw [FileTree.place, destination_of_lookUp (hgrows.lookUp h)]
    rfl

end SwaggerPress.FileTree
