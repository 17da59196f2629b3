import SwaggerPress.FileTree.Write
import SwaggerPress.Proofs.Lookup
import SwaggerPress.Proofs.Outcome

/-!
    What writing does to a tree. Making directories lets a tree *grow*: whatever it lists stays, and
    all that is new is directories (`grows_makeDirectories`). Placing a file then changes what is listed
    under one key (`Replaces`), which was no directory, so every other path to a file leads where it
    led before. A write does both, or if it fails, the first at most (`written_of_writeAtomically`,
    `grows_of_writeAtomically`):

        tree                 growing                   replacing
        raw.json             raw.json                  raw.json
                             out/                      out/
                                                       out/swagger.json     the new text -/

namespace SwaggerPress.FileTree

/-! ### What is kept -/

/-- What is listed under a key is what it was, or a new directory. -/
def Keeps (t t' : FileTree) (key : String) : Prop :=
  t'.entries.get? key = t.entries.get? key ∨
    (t.entries.get? key = none ∧ t'.entries.get? key = some .directory)

/-- Nothing has changed but for new directories. -/
def Grows (t t' : FileTree) : Prop := ∀ key, t.Keeps t' key

/-- A location has a new file, and nothing else has changed but for new directories. -/
structure Replaces (t : FileTree) (at_ : Location) (content : Content) (t' : FileTree) :
    Prop where
  file : t'.entry? at_ = some (.file content)
  free : t.entry? at_ ≠ some .directory
  others : ∀ key, key ≠ at_.key → t.Keeps t' key

/-- A text stands where a path leads, and every other file, being listed under another key, is where
it was and as it was. -/
structure Written (t : FileTree) (path text : String) (at_ : Location) (t' : FileTree) :
    Prop where
  output : t'.lookUp path = .ok (at_, .file (.text text))
  replaces : t.Replaces at_ (.text text) t'
  files : ∀ other place content, t.lookUp other = .ok (place, .file content) →
    place.key ≠ at_.key → t'.lookUp other = .ok (place, .file content)

variable {t t' t'' : FileTree} {at_ place : Location} {key path : String} {e : Entry}
  {content : Content}

theorem Keeps.refl (t : FileTree) (key : String) : t.Keeps t key := .inl rfl

theorem Keeps.trans (h : t.Keeps t' key) (h' : t'.Keeps t'' key) : t.Keeps t'' key := by
  rcases h with heq | ⟨hnone, hnew⟩
  · rwa [Keeps, heq] at h'
  · refine .inr ⟨hnone, ?_⟩
    rcases h' with heq' | ⟨hnone', -⟩
    · rw [heq', hnew]
    · exact nomatch hnew.symm.trans hnone'

theorem Grows.refl (t : FileTree) : t.Grows t := fun key => .refl t key

theorem Grows.trans (h : t.Grows t') (h' : t'.Grows t'') : t.Grows t'' :=
  fun key => (h key).trans (h' key)

/-- A location is a directory in every tree, or it is where it is listed. -/
theorem directory_or_listed (at_ : Location) : (∀ t : FileTree, t.entry? at_ = some .directory) ∨
    ∀ t : FileTree, t.entry? at_ = t.entries.get? at_.key := by
  by_cases h : at_ = ["/"] || at_.all (· == "..")
  · exact .inl fun t => if_pos h
  · exact .inr fun t => if_neg h

theorem get?_of_entry?_ne (h : t.entry? at_ ≠ some .directory) :
    t.entry? at_ = t.entries.get? at_.key :=
  (directory_or_listed at_).elim (fun hdir => absurd (hdir t) h) fun hlisted => hlisted t

/-- What stands at a location stays there. -/
theorem Keeps.stays (h : t.Keeps t' at_.key) (he : t.entry? at_ = some e) :
    t'.entry? at_ = some e := by
  rcases directory_or_listed at_ with hdir | hlisted
  · rw [hdir, ← he, hdir]
  · rw [hlisted] at he ⊢
    rcases h with heq | ⟨hnone, -⟩
    · rw [heq, he]
    · exact nomatch he.symm.trans hnone

theorem Replaces.directory (h : t.Replaces at_ content t') (hd : t.entry? place = some .directory) :
    t'.entry? place = some .directory := by
  by_cases hkey : place.key = at_.key
  · rcases directory_or_listed place with hdir | hlisted
    · exact hdir t'
    · -- the directory would be the one that the file has taken the place of
      rw [hlisted, hkey, ← get?_of_entry?_ne h.free] at hd
      exact absurd hd h.free
  · exact (h.others _ hkey).stays hd

theorem Grows.replaces (h : t.Grows t') (h' : t'.Replaces at_ content t'') :
    t.Replaces at_ content t'' where
  file := h'.file
  free hd := h'.free ((h _).stays hd)
  others key hkey := (h key).trans (h'.others key hkey)

theorem keeps_set_of_ne (hkey : key ≠ at_.key) (t : FileTree) (e : Entry) :
    t.Keeps (t.set at_ e) key :=
  .inl (t.entries.get?_insert_of_ne e hkey)

theorem entry?_set_self (h : t.entry? at_ ≠ some .directory) (e : Entry) :
    entry? (t.set at_ e) at_ = some e := by
  rcases directory_or_listed at_ with hdir | hlisted
  · exact absurd (hdir t) h
  · rw [hlisted]
    exact t.entries.get?_insert_self at_.key e

theorem grows_set_directory (h : t.entry? at_ = none) : t.Grows (t.set at_ .directory) := by
  intro key
  by_cases hkey : key = at_.key
  · subst hkey
    have hlisted : t.entry? at_ = t.entries.get? at_.key :=
      get?_of_entry?_ne (by rw [h]; nofun)
    exact .inr ⟨hlisted ▸ h, t.entries.get?_insert_self _ _⟩
  · exact keeps_set_of_ne hkey t _

theorem replaces_set_file (h : t.entry? at_ ≠ some .directory) (content : Content) :
    t.Replaces at_ content (t.set at_ (.file content)) where
  file := entry?_set_self h _
  free := h
  others _ hkey := keeps_set_of_ne hkey t _

/-! ### Following a path -/

theorem follow_append (xs ys : List String) : ∀ at_ : Location,
    t.follow at_ (xs ++ ys) = t.follow at_ xs >>= fun place => t.follow place ys := by
  induction xs with
  | nil => intro at_; rfl
  | cons name xs ih =>
    intro at_
    rw [List.cons_append, follow, follow]
    cases t.entry? at_ with
    | none => rfl
    | some e =>
      cases e with
      | file content => rfl
      | directory =>
        simp only
        split
        · rfl
        · exact ih _

/-- Where directories stay, names lead where they led. -/
theorem follow_of_directories
    (hdir : ∀ place, t.entry? place = some .directory → t'.entry? place = some .directory) :
    ∀ {names : List String} {at_ : Location}, t.follow at_ names = .ok place →
      t'.follow at_ names = .ok place
  | [], _, h => h
  | name :: names, at_, h => by
    rw [follow] at h ⊢
    cases he : t.entry? at_ with
    | none => rw [he] at h; cases h
    | some e =>
      cases e with
      | file content => rw [he] at h; cases h
      | directory =>
        rw [he] at h
        rw [hdir at_ he]
        simp only at h ⊢
        split at h
        · cases h
        · rw [if_neg ‹_›]
          exact follow_of_directories hdir h

theorem lookUp_eq_ok_file_iff : t.lookUp path = .ok (place, .file content) ↔
    checkPath path = .ok () ∧ t.follow [] (pathParts path) = .ok place ∧
      t.entry? place = some (.file content) ∧ endsInSlash path = false := by
  simp only [lookUp, bind_eq_ok_iff]
  constructor
  · rintro ⟨⟨⟩, hcheck, at_, hfollow, h⟩
    cases he : t.entry? at_ with
    | none => rw [he] at h; cases h
    | some e =>
      cases e with
      | directory => rw [he] at h; cases h
      | file c =>
        rw [he] at h
        simp only at h
        split at h
        · cases h
        · cases h
          exact ⟨hcheck, hfollow, he, by simpa using ‹¬ endsInSlash path = true›⟩
  · rintro ⟨hcheck, hfollow, he, hslash⟩
    refine ⟨(), hcheck, place, hfollow, ?_⟩
    rw [he]
    simp only [hslash]
    rfl

theorem lookUp_eq_ok_directory_iff : t.lookUp path = .ok (place, .directory) ↔
    checkPath path = .ok () ∧ t.follow [] (pathParts path) = .ok place ∧
      t.entry? place = some .directory := by
  simp only [lookUp, bind_eq_ok_iff]
  constructor
  · rintro ⟨⟨⟩, hcheck, at_, hfollow, h⟩
    cases he : t.entry? at_ with
    | none => rw [he] at h; cases h
    | some e =>
      cases e with
      | file content =>
        rw [he] at h
        simp only at h
        split at h <;> cases h
      | directory =>
        rw [he] at h
        cases h
        exact ⟨hcheck, hfollow, he⟩
  · rintro ⟨hcheck, hfollow, he⟩
    refine ⟨(), hcheck, place, hfollow, ?_⟩
    rw [he]
    rfl

theorem isDirectory_iff :
    t.isDirectory path = true ↔ ∃ at_, t.lookUp path = .ok (at_, .directory) := by
  rw [isDirectory]
  constructor
  · intro h
    split at h
    next at_ hlook => exact ⟨at_, hlook⟩
    next => cases h
  · rintro ⟨at_, hlook⟩
    rw [hlook]

/-- Where directories stay, a path that leads to a file leads to the file that is there now. -/
theorem lookUp_of_directories {old : Content}
    (hdir : ∀ place, t.entry? place = some .directory → t'.entry? place = some .directory)
    (h : t.lookUp path = .ok (place, .file old))
    (hfile : t'.entry? place = some (.file content)) :
    t'.lookUp path = .ok (place, .file content) := by
  obtain ⟨hcheck, hfollow, -, hslash⟩ := lookUp_eq_ok_file_iff.1 h
  exact lookUp_eq_ok_file_iff.2 ⟨hcheck, follow_of_directories hdir hfollow, hfile, hslash⟩

theorem Grows.lookUp (h : t.Grows t') (hfile : t.lookUp path = .ok (place, .file content)) :
    t'.lookUp path = .ok (place, .file content) :=
  lookUp_of_directories (fun _ hd => (h _).stays hd) hfile
    ((h _).stays (lookUp_eq_ok_file_iff.1 hfile).2.2.1)

theorem Replaces.lookUp {old : Content} (h : t.Replaces at_ content t')
    (hfile : t.lookUp path = .ok (place, .file old)) (hkey : place.key ≠ at_.key) :
    t'.lookUp path = .ok (place, .file old) :=
  lookUp_of_directories (fun _ hd => h.directory hd) hfile
    ((h.others _ hkey).stays (lookUp_eq_ok_file_iff.1 hfile).2.2.1)

/-- Every path to the file that is replaced leads to the new one. -/
theorem Replaces.lookUp_of_key_eq {old : Content} (h : t.Replaces at_ content t')
    (hfile : t.lookUp path = .ok (place, .file old)) (hkey : place.key = at_.key) :
    t'.lookUp path = .ok (place, .file content) := by
  have hold : t.entry? place = some (.file old) := (lookUp_eq_ok_file_iff.1 hfile).2.2.1
  have hnew : t'.entry? place = some (.file content) := by
    have hlisted : t'.entries.get? at_.key = some (.file content) := by
      rw [← get?_of_entry?_ne (by rw [h.file]; nofun), h.file]
    rcases directory_or_listed place with hdir | hplace
    · exact nomatch (hdir t).symm.trans hold
    · rw [hplace, hkey, hlisted]
  exact lookUp_of_directories (fun _ hd => h.directory hd) hfile hnew

/-- All names of a path but the last lead to a directory. -/
theorem approach_eq_ok_iff {parent : Location} {name : String} :
    t.approach path = .ok (parent, name) ↔ ∃ front, pathParts path = front ++ [name] ∧
      t.follow [] front = .ok parent ∧ t.entry? parent = some .directory := by
  constructor
  · intro h
    simp only [approach] at h
    cases hlast : (pathParts path).getLast? with
    | none => rw [hlast] at h; cases h
    | some last =>
      simp only [hlast, bind_eq_ok_iff] at h
      obtain ⟨parent', hfollow, h⟩ := h
      cases he : t.entry? parent' with
      | none => rw [he] at h; cases h
      | some e =>
        cases e with
        | file content => rw [he] at h; cases h
        | directory =>
          rw [he] at h
          cases h
          exact ⟨_, (List.dropLast_append_getLast? name hlast).symm, hfollow, he⟩
  · rintro ⟨front, hparts, hfollow, hparent⟩
    simp only [approach, hparts, List.getLast?_concat, List.dropLast_concat, hfollow, ok_bind,
      hparent]
    rfl

theorem step_of_name {name : String} (h : ["/", ".", ".."].contains name = false)
    (at_ : Location) : step at_ name = at_ ++ [name] := by
  simp only [List.contains_cons, List.contains_nil, Bool.or_false, Bool.or_eq_false_iff,
    beq_eq_false_iff_ne] at h
  rw [step, if_neg h.1, if_neg h.2.1, if_neg h.2.2]

/-- A path leads to its last name in the directory before it, whether anything is there or not. -/
theorem follow_of_approach {parent : Location} {name : String}
    (h : t.approach path = .ok (parent, name)) (hname : ["/", ".", ".."].contains name = false)
    (hsize : ¬ maxNameBytes < name.utf8ByteSize) :
    t.follow [] (pathParts path) = .ok (parent ++ [name]) := by
  obtain ⟨front, hparts, hfollow, hparent⟩ := approach_eq_ok_iff.1 h
  rw [hparts, follow_append, hfollow, ok_bind]
  simp only [follow, hparent, if_neg hsize, step_of_name hname]

/-! ### Making directories -/

/-- A directory is made at the last name of a path, where nothing was. -/
theorem makeDirectory_eq_ok (h : t.makeDirectory path = .ok t') : checkPath path = .ok () ∧
    ∃ parent name, t.approach path = .ok (parent, name) ∧ ["/", ".", ".."].contains name = false ∧
      ¬ maxNameBytes < name.utf8ByteSize ∧ t.entry? (parent ++ [name]) = none ∧
      t' = t.set (parent ++ [name]) .directory := by
  simp only [makeDirectory, bind_eq_ok_iff] at h
  obtain ⟨⟨⟩, hcheck, ⟨parent, name⟩, happroach, h⟩ := h
  simp only at h
  split at h
  next => cases h
  next hname =>
    split at h
    next => cases h
    next hsize =>
      cases he : t.entry? (parent ++ [name]) with
      | some e => rw [he] at h; cases h
      | none =>
        rw [he] at h
        cases h
        exact ⟨hcheck, parent, name, happroach, by simpa using hname, hsize, he, rfl⟩

theorem grows_makeDirectory (h : t.makeDirectory path = .ok t') : t.Grows t' := by
  obtain ⟨-, parent, name, -, -, -, hnone, rfl⟩ := makeDirectory_eq_ok h
  exact grows_set_directory hnone

/-- However far it gets, making directories is directories made one after another. -/
theorem makeChain_induction {motive : FileTree → FileTree → Prop}
    {make : FileTree → String → Except FileFault FileTree} {paths : List String}
    (refl : ∀ t, motive t t)
    (trans : ∀ t t' t'', motive t t' → motive t' t'' → motive t t'')
    (step : ∀ path ∈ paths, ∀ t t', make t path = .ok t' → motive t t') :
    ∀ t : FileTree, motive t (makeChain make t paths).2 := by
  induction paths with
  | nil => exact refl
  | cons path above ih =>
    intro t
    have hmake := step path List.mem_cons_self
    have habove := ih (fun p hp => step p (List.mem_cons_of_mem path hp)) t
    rw [makeChain]
    split
    · exact hmake _ _ ‹_›
    · -- what the directory lies in is missing, and is made before it is tried again
      split
      next he => rw [he] at habove; exact habove
      next t₁ he =>
        rw [he] at habove
        split
        · exact trans _ _ _ habove (hmake _ _ ‹_›)
        · exact habove
    · exact refl t

theorem isDirectory_of_makeDirectory (h : t.makeDirectory path = .ok t') :
    t'.isDirectory path = true := by
  have hgrows := grows_makeDirectory h
  obtain ⟨hcheck, parent, name, happroach, hname, hsize, hnone, rfl⟩ := makeDirectory_eq_ok h
  have hfollow := follow_of_approach happroach hname hsize
  have hmade : entry? (t.set (parent ++ [name]) .directory) (parent ++ [name]) = some .directory :=
    entry?_set_self (by rw [hnone]; nofun) _
  exact isDirectory_iff.2 ⟨_, lookUp_eq_ok_directory_iff.2 ⟨hcheck,
    follow_of_directories (fun _ hd => (hgrows _).stays hd) hfollow, hmade⟩⟩

/-- A directory that could be made is there. -/
theorem isDirectory_of_makeChain {above : List String}
    (h : makeChain makeDirectory t (path :: above) = (none, t')) : t'.isDirectory path = true := by
  have hthere : ∀ {t₁ : FileTree} {fault : FileFault},
      ((if t₁.isDirectory path then none else some fault, t₁) : Outcome) = (none, t') →
        t'.isDirectory path = true := by
    intro t₁ fault h
    split at h
    · cases h; assumption
    · cases h
  rw [makeChain] at h
  split at h
  · cases h; exact isDirectory_of_makeDirectory ‹_›
  · split at h
    · cases h
    · split at h
      · cases h; exact isDirectory_of_makeDirectory ‹_›
      · exact hthere h
  · exact hthere h

theorem isDirectory_of_makeDirectories
    (h : t.makeDirectories (directoryOf path) = (none, t')) :
    ∃ at_, t'.lookUp (directoryOf path) = .ok (at_, .directory) := by
  have hne : (directoryOf path).isEmpty = false := by
    rw [directoryOf]
    split
    next => rfl
    next => rfl
    next parent hparent _ => simpa using hparent
  rw [makeDirectories, chain, if_neg (by rw [hne]; nofun)] at h
  exact isDirectory_iff.1 (isDirectory_of_makeChain h)

/-! ### Placing a file -/

/-- A path that puts a file somewhere names it in a directory, and no directory stands there. -/
theorem destination_eq_ok_iff : t.destination path = .ok at_ ↔ checkPath path = .ok () ∧
    ∃ parent name, t.approach path = .ok (parent, name) ∧ ["/", ".", ".."].contains name = false ∧
      ¬ maxNameBytes < name.utf8ByteSize ∧ endsInSlash path = false ∧ at_ = parent ++ [name] ∧
      t.entry? at_ ≠ some .directory := by
  constructor
  · intro h
    have hcheck : checkPath path = .ok () := by
      cases hcheck : checkPath path with
      | ok _ => rfl
      | error fault =>
        rw [destination, hcheck] at h
        cases fault <;> cases h
    simp only [destination, hcheck, bind_eq_ok_iff] at h
    obtain ⟨⟨parent, name⟩, happroach, h⟩ := h
    simp only at h
    split at h
    next => cases h
    next hname =>
      split at h
      next => cases h
      next hsize =>
        split at h
        next => cases h
        next hslash =>
          split at h
          next => cases h
          next hfree =>
            cases h
            exact ⟨hcheck, parent, name, happroach, by simpa using hname, hsize,
              by simpa using hslash, rfl, hfree⟩
  · rintro ⟨hcheck, parent, name, happroach, hname, hsize, hslash, rfl, hfree⟩
    simp only [destination, hcheck, happroach, ok_bind, hname, hslash, if_neg hsize,
      Bool.false_eq_true, if_false]
    rfl

theorem replaces_of_destination (h : t.destination path = .ok at_) (content : Content) :
    t.Replaces at_ content (t.set at_ (.file content)) := by
  obtain ⟨-, -, -, -, -, -, -, -, hfree⟩ := destination_eq_ok_iff.1 h
  exact replaces_set_file hfree content

/-- A file that is put where a path puts it is where the path leads. -/
theorem lookUp_of_destination (h : t.destination path = .ok at_) (content : Content) :
    lookUp (t.set at_ (.file content)) path = .ok (at_, .file content) := by
  have hreplaces := replaces_of_destination h content
  obtain ⟨hcheck, parent, name, happroach, hname, hsize, hslash, rfl, -⟩ :=
    destination_eq_ok_iff.1 h
  have hfollow : t.follow [] (pathParts path) = .ok (parent ++ [name]) :=
    follow_of_approach happroach hname hsize
  exact lookUp_eq_ok_file_iff.2 ⟨hcheck, follow_of_directories (fun _ hd => hreplaces.directory hd)
    hfollow, hreplaces.file, hslash⟩

theorem replaces_of_place (h : t.place path content = .ok t') :
    ∃ at_, t'.lookUp path = .ok (at_, .file content) ∧ t.Replaces at_ content t' := by
  obtain ⟨at_, hdestination, h⟩ := bind_eq_ok_iff.1 h
  cases h
  exact ⟨at_, lookUp_of_destination hdestination content,
    replaces_of_destination hdestination content⟩

/-! ### Writing -/

/-- Making directories leaves everything else. -/
theorem grows_makeDirectories (t : FileTree) (directory : String) :
    t.Grows (t.makeDirectories directory).2 :=
  makeChain_induction Grows.refl (fun _ _ _ => Grows.trans)
    (fun _ _ _ _ => grows_makeDirectory) t

/-- A write that succeeds puts the text where its path leads. -/
theorem written_of_writeAtomically {text : String}
    (h : t.writeAtomically path text = (none, t')) : ∃ at_, t.Written path text at_ t' := by
  have hgrows := t.grows_makeDirectories (directoryOf path)
  rw [writeAtomically, put] at h
  split at h
  next => cases h
  next t₁ hmade =>
    rw [hmade] at hgrows
    split at h
    next t₂ hplace =>
      cases h
      obtain ⟨at_, houtput, hreplaces⟩ := replaces_of_place hplace
      refine ⟨at_, houtput, hgrows.replaces hreplaces, fun other place content hother hkey => ?_⟩
      exact hreplaces.lookUp (hgrows.lookUp hother) hkey
    next => cases h

/-- What has been written is read. -/
theorem readText_of_writeAtomically {text : String}
    (h : t.writeAtomically path text = (none, t')) : t'.readText path = .ok text := by
  obtain ⟨at_, hwritten⟩ := written_of_writeAtomically h
  rw [readText, hwritten.output]
  rfl

/-- A write that fails leaves at most new directories. -/
theorem grows_of_writeAtomically {text : String} {fault : FileFault}
    (h : t.writeAtomically path text = (some fault, t')) : t.Grows t' := by
  have hgrows := t.grows_makeDirectories (directoryOf path)
  rw [writeAtomically, put] at h
  split at h
  next t₁ hmade =>
    cases h
    rwa [hmade] at hgrows
  next t₁ hmade =>
    rw [hmade] at hgrows
    split at h
    next => cases h
    next =>
      cases h
      exact hgrows

end SwaggerPress.FileTree
