import Mathlib.Data.List.Infix
import SwaggerPress.FileTree.Temporary
import SwaggerPress.Proofs.FileTree.Writing

/-!
    Temporary files. While a text is written, the tree is the one that the directories were made in
    with one more file, so taking that file out again leaves what was there (`erase_set`), and moving
    it leaves what was there with the new file in it (`rename_set`). A write therefore ends in one of
    two ways, whatever its surroundings refuse (`Settles`):

        made   out/                       refused    out/
        fill   out/ , out/.tmpA1b2C3      done       out/ , out/swagger.json -/

namespace SwaggerPress.FileTree

/-- A write leaves the tree that its directories were made in, or puts the text where its path puts
it. -/
def Settles (t : FileTree) (path text : String) (outcome : Outcome) : Prop :=
  (∃ fault, outcome = (some fault, t)) ∨
    ∃ at_, t.destination path = .ok at_ ∧ outcome = (none, t.set at_ (.file (.text text)))

variable {t t' : FileTree} {at_ place temporary : Location} {path text : String} {e e' : Entry}
  {s : Surroundings}

/-- A tree is what it lists. -/
theorem ext_get? (h : ∀ key, t.entries.get? key = t'.entries.get? key) : t = t' :=
  congrArg FileTree.mk (SortedMap.ext_get? h)

theorem set_set (t : FileTree) (at_ : Location) (e e' : Entry) :
    set (t.set at_ e) at_ e' = t.set at_ e' := by
  refine ext_get? fun key => ?_
  simp only [set, SortedMap.get?_insert]
  split <;> rfl

/-- What is put where nothing was, and taken out, was never there. -/
theorem erase_set (h : t.entry? at_ = none) (e : Entry) : erase (t.set at_ e) at_ = t := by
  have hlisted : t.entry? at_ = t.entries.get? at_.key := get?_of_entry?_ne (by rw [h]; nofun)
  refine ext_get? fun key => ?_
  rw [erase, SortedMap.get?_filter]
  by_cases hkey : key = at_.key
  · rw [hkey, ← hlisted, h]
    simp
  · rw [if_pos (by simpa using hkey)]
    exact t.entries.get?_insert_of_ne e hkey

/-- A new file stands in no directory's place and is no directory. -/
theorem directory_set_file_iff (h : t.entry? at_ ≠ some .directory) (content : Content)
    (place : Location) :
    entry? (t.set at_ (.file content)) place = some .directory ↔
      t.entry? place = some .directory := by
  refine ⟨fun hd => ?_, (replaces_set_file h content).directory⟩
  rcases directory_or_listed place with hdir | hlisted
  · exact hdir t
  · rw [hlisted] at hd ⊢
    by_cases hkey : place.key = at_.key
    · rw [hkey] at hd
      exact nomatch hd.symm.trans (t.entries.get?_insert_self at_.key _)
    · rwa [set, t.entries.get?_insert_of_ne _ hkey] at hd

/-- Where a path puts a file depends on the directories. -/
theorem destination_of_directories
    (hdir : ∀ place, t.entry? place = some .directory ↔ t'.entry? place = some .directory)
    (h : t.destination path = .ok at_) : t'.destination path = .ok at_ := by
  obtain ⟨hcheck, parent, name, happroach, hname, hsize, hslash, rfl, hfree⟩ :=
    destination_eq_ok_iff.1 h
  obtain ⟨front, hparts, hfollow, hparent⟩ := approach_eq_ok_iff.1 happroach
  have hfollow' : t'.follow [] front = .ok parent :=
    follow_of_directories (fun place => (hdir place).1) hfollow
  have happroach' : t'.approach path = .ok (parent, name) :=
    approach_eq_ok_iff.2 ⟨front, hparts, hfollow', (hdir parent).1 hparent⟩
  exact destination_eq_ok_iff.2 ⟨hcheck, parent, name, happroach', hname, hsize, hslash, rfl,
    fun hd => hfree ((hdir _).2 hd)⟩

/-- Nothing stands where a new file is created. -/
theorem newIn_eq_ok {directory name : String} (h : t.newIn directory name = .ok at_) :
    t.entry? at_ = none := by
  simp only [newIn, bind_eq_ok_iff] at h
  obtain ⟨⟨parent, e⟩, -, h⟩ := h
  cases e with
  | file content => cases h
  | directory =>
    cases he : t.entry? (parent ++ [name]) with
    | some e => simp only [he] at h; cases h
    | none =>
      simp only [he] at h
      cases h
      exact he

/-- A temporary file that is moved is gone from where it was. -/
theorem rename_set (h : t.entry? temporary = none) (content : Content) :
    rename (t.set temporary (.file content)) temporary path = do
      return t.set (← destination (t.set temporary (.file content)) path) (.file content) := by
  have hfile : entry? (t.set temporary (.file content)) temporary = some (.file content) :=
    entry?_set_self (by rw [h]; nofun) _
  rw [rename, hfile]
  simp only [erase_set h]

theorem allow_eq_ok {α : Type} {stage : WriteStage} {a b : α} (h : s.allow stage a = .ok b) :
    a = b := by
  rw [Surroundings.allow] at h
  split at h
  · cases h
  · exact Except.ok.inj h

/-- A temporary file is filled, or it is left with a part of the text. -/
theorem fill_set (t : FileTree) (s : Surroundings) (text : String) (content : Content) :
    (∃ fault content', fill (t.set temporary (.file content)) s temporary text =
        (some fault, t.set temporary (.file content'))) ∨
      fill (t.set temporary (.file content)) s temporary text =
        (none, t.set temporary (.file (.text text))) := by
  rw [fill]
  split
  next fault _ => exact .inl ⟨fault, _, by rw [set_set]⟩
  next => exact .inr (by rw [set_set])

/-- A write that is not finished leaves no temporary file, and one that is finished leaves the text
where its path puts it. -/
theorem settles_writeThrough (t : FileTree) (s : Surroundings) (path text : String) :
    (s.makeDirectories t (directoryOf path)).2.Settles path text (t.writeThrough s path text) := by
  rw [writeThrough]
  split
  next fault t₁ hmade => exact .inl ⟨fault, by rw [hmade]⟩
  next t₁ hmade =>
    rw [hmade]
    split
    next fault _ => exact .inl ⟨fault, rfl⟩
    next temporary hcreated =>
      obtain ⟨place, hnew, hallow⟩ := bind_eq_ok_iff.1 hcreated
      obtain rfl := allow_eq_ok hallow
      have hnone : t₁.entry? place = none := newIn_eq_ok hnew
      rcases fill_set t₁ s text (.text "") with ⟨fault, content, hfill⟩ | hfill
      · rw [hfill]
        exact .inl ⟨fault, by simp only [erase_set hnone]⟩
      · rw [hfill]
        simp only
        split
        next fault _ => exact .inl ⟨fault, by rw [erase_set hnone]⟩
        next t₂ hrenamed =>
          obtain ⟨t₂', hrename, hallow⟩ := bind_eq_ok_iff.1 hrenamed
          obtain rfl := allow_eq_ok hallow
          rw [rename_set hnone] at hrename
          obtain ⟨at_, hdestination, hset⟩ := bind_eq_ok_iff.1 hrename
          cases hset
          -- the path puts the file where it would without the temporary one
          have hdir (other : Location) :
              entry? (t₁.set place (.file (.text text))) other = some .directory ↔
                t₁.entry? other = some .directory :=
            directory_set_file_iff (by rw [hnone]; nofun) _ other
          exact .inr ⟨at_, destination_of_directories hdir hdestination, rfl⟩

-- the disk is full when two characters are written
example : (writeThrough ⟨.ofList [("raw.json", .file (.text "\x7b\x7d"))]⟩
    { temporary := ".tmpA1b2C3", filled := 2,
      refusal? := fun | .fill => some (.other "No space left on device (os error 28)") | _ => none }
    "out/swagger.json" "new text").2 =
      ⟨.ofList [("out", .directory), ("raw.json", .file (.text "\x7b\x7d"))]⟩ := by
  decide +kernel

/-! ### A temporary file that nothing meets -/

/-- Nothing stands at a location, and no first parts of a path lead to it. -/
def Unmet (t : FileTree) (path : String) (at_ : Location) : Prop :=
  t.entry? at_ = none ∧ ∀ front place, front <+: pathParts path → t.follow [] front = .ok place →
    place.key ≠ at_.key

/-- Names lead where they led, if what stands on the way is what stood there. -/
theorem follow_congr : ∀ {names : List String} {at_ : Location},
    (∀ front place, front <+: names → t.follow at_ front = .ok place →
      t'.entry? place = t.entry? place) → t'.follow at_ names = t.follow at_ names
  | [], _, _ => rfl
  | name :: names, at_, h => by
    have hat : t'.entry? at_ = t.entry? at_ := h [] at_ List.nil_prefix rfl
    rw [follow, follow, hat]
    cases he : t.entry? at_ with
    | none => rfl
    | some e =>
      cases e with
      | file content => rfl
      | directory =>
        simp only
        split
        · rfl
        · next hsize =>
          refine follow_congr fun front place hfront hfollow => ?_
          refine h (name :: front) place (List.cons_prefix_cons.2 ⟨rfl, hfront⟩) ?_
          rw [follow, he]
          simp only [if_neg hsize]
          exact hfollow

theorem approach_congr (h : ∀ front place, front <+: pathParts path →
    t.follow [] front = .ok place → t'.entry? place = t.entry? place) :
    t'.approach path = t.approach path := by
  rw [approach, approach]
  cases hlast : (pathParts path).getLast? with
  | none => rfl
  | some name =>
    have hinit : (pathParts path).dropLast <+: pathParts path := List.dropLast_prefix _
    have hfollow : t'.follow [] (pathParts path).dropLast = t.follow [] (pathParts path).dropLast :=
      follow_congr fun front place hfront => h front place (hfront.trans hinit)
    simp only [hfollow]
    cases hparent : t.follow [] (pathParts path).dropLast with
    | error fault => rfl
    | ok parent => simp only [ok_bind, h _ parent hinit hparent]

/-- Where a path puts a file depends on what stands on the way. -/
theorem destination_congr (h : ∀ front place, front <+: pathParts path →
    t.follow [] front = .ok place → t'.entry? place = t.entry? place) :
    t'.destination path = t.destination path := by
  rw [destination, destination, approach_congr h]
  cases happroach : t.approach path with
  | error fault => rfl
  | ok found =>
    obtain ⟨parent, name⟩ := found
    simp only [ok_bind]
    by_cases hname : ["/", ".", ".."].contains name = true
    · simp only [if_pos hname]
    · by_cases hsize : maxNameBytes < name.utf8ByteSize
      · simp only [if_pos hsize]
      · have hfollow : t.follow [] (pathParts path) = .ok (parent ++ [name]) :=
          follow_of_approach happroach (by simpa using hname) hsize
        rw [h _ _ List.prefix_rfl hfollow]

theorem Unmet.destination_set (h : t.Unmet path at_) (e : Entry) :
    destination (t.set at_ e) path = t.destination path := by
  refine destination_congr fun front place hfront hfollow => ?_
  rcases directory_or_listed place with hdir | hlisted
  · rw [hdir, hdir]
  · rw [hlisted, hlisted]
    exact t.entries.get?_insert_of_ne e (h.2 front place hfront hfollow)

theorem exists_longer : ∀ keys : List String, ∃ name : String, ∀ key ∈ keys, key.length < name.length
  | [] => ⟨"", by simp⟩
  | key :: keys => by
    obtain ⟨name, hname⟩ := exists_longer keys
    refine ⟨name ++ key ++ "x", fun k hk => ?_⟩
    have hx : "x".length = 1 := rfl
    rw [String.length_append, String.length_append]
    rcases List.mem_cons.1 hk with rfl | hk
    · omega
    · have := hname k hk
      omega

theorem length_le_key (parent : Location) (name : String) :
    name.length ≤ (Location.key (parent ++ [name])).length := by
  rw [Location.key]
  by_cases hparent : parent = []
  · rw [hparent, List.nil_append, String.intercalate_singleton]
  · rw [String.intercalate_append_of_ne_nil hparent (List.cons_ne_nil _ _),
      String.intercalate_singleton, String.length_append]
    exact Nat.le_add_left _ _

/-- What has a name of its own is not always there. -/
theorem entry?_of_name {name : String} (hroot : name ≠ "/") (hup : name ≠ "..") (t : FileTree)
    (parent : Location) :
    t.entry? (parent ++ [name]) = t.entries.get? (Location.key (parent ++ [name])) := by
  refine if_neg ?_
  rw [Bool.or_eq_true, decide_eq_true_eq, List.all_append, Bool.and_eq_true]
  rintro (h | ⟨-, h⟩)
  · exact hroot (by simpa using congrArg List.getLast? h)
  · exact hup (by simpa using h)

/-- In every directory a file can be created that a path does not meet: its name is longer than all
that the tree lists and all that the path leads through. -/
theorem exists_unmet (t : FileTree) (path : String) (parent : Location) :
    ∃ name, t.Unmet path (parent ++ [name]) := by
  let met := (pathParts path).inits.filterMap fun front => (t.follow [] front).toOption
  obtain ⟨name, hname⟩ := exists_longer ("/" :: ".." :: (met.map Location.key ++ t.entries.keys))
  simp only [List.forall_mem_cons, List.forall_mem_append] at hname
  obtain ⟨hroot, hup, hmet, hkeys⟩ := hname
  have hshort {key : String} (h : key.length < name.length) :
      key ≠ Location.key (parent ++ [name]) := by
    rintro rfl
    exact absurd h (Nat.not_lt.2 (length_le_key parent name))
  refine ⟨name, ?_, fun front place hfront hfollow => hshort (hmet _ ?_)⟩
  · rw [entry?_of_name (by rintro rfl; omega) (by rintro rfl; omega)]
    cases he : t.entries.get? (Location.key (parent ++ [name])) with
    | none => rfl
    | some e => exact absurd rfl (hshort (hkeys _ (SortedMap.mem_keys_iff.2 ⟨e, he⟩)))
  · refine List.mem_map_of_mem (List.mem_filterMap.2 ⟨front, ?_, by rw [hfollow]; rfl⟩)
    exact (List.mem_inits _ _).2 hfront

/-- Where nothing is refused, and nothing meets the temporary file, a text is written as if in one
step. -/
theorem writeThrough_eq_writeAtomically (t : FileTree) (path : String) : ∃ name, ∀ text,
    t.writeThrough { temporary := name } path text = t.writeAtomically path text := by
  have hmake (name : String) :
      Surroundings.makeDirectory { temporary := name } = makeDirectory := by
    funext t path
    rw [Surroundings.makeDirectory]
    cases t.makeDirectory path <;> rfl
  cases hmade : t.makeDirectories (directoryOf path) with
  | mk fault? t₁ =>
    cases fault? with
    | some fault =>
      refine ⟨"", fun text => ?_⟩
      rw [writeThrough, Surroundings.makeDirectories, hmake, ← makeDirectories, writeAtomically, put,
        hmade]
    | none =>
      obtain ⟨parent, hdirectory⟩ := isDirectory_of_makeDirectories hmade
      obtain ⟨name, hunmet⟩ := t₁.exists_unmet path parent
      refine ⟨name, fun text => ?_⟩
      have hcreate : t₁.newIn (directoryOf path) name >>=
          Surroundings.allow { temporary := name } .create = .ok (parent ++ [name]) := by
        simp only [newIn, hdirectory, ok_bind, hunmet.1]
        rfl
      have hfill : fill (t₁.set (parent ++ [name]) (.file (.text ""))) { temporary := name }
          (parent ++ [name]) text = (none, t₁.set (parent ++ [name]) (.file (.text text))) := by
        simp only [fill, set_set]
      have hrename : rename (t₁.set (parent ++ [name]) (.file (.text text))) (parent ++ [name])
          path >>= Surroundings.allow { temporary := name } .rename = t₁.place path (.text text) := by
        rw [rename_set hunmet.1, hunmet.destination_set, FileTree.place]
        cases t₁.destination path <;> rfl
      rw [writeThrough, Surroundings.makeDirectories, hmake, ← makeDirectories, writeAtomically, put,
        hmade]
      simp only [hcreate, hfill, hrename]
      cases t₁.place path (.text text) with
      | error fault => simp only [erase_set hunmet.1]
      | ok t₂ => rfl

end SwaggerPress.FileTree
