import SwaggerPress.Proofs.FileTree.Replacing
import SwaggerPress.Proofs.FileTree.Temporary

/-!
    What a write leaves alone. Of the files only the one that the path leads to changes, and only if
    the write succeeds; a temporary file, being a file that was not there, is therefore none of those
    that are left. Directories stay, and a new one is led to by first parts of the path (`Framed`).
    From one write to a sequence of them, a file holds the text of the last write that landed there,
    or what it held at first:

        tree         write out/x.json 2     write raw.json/y 3    write out/x.json 4
        raw.json 1   raw.json 1             raw.json 1            raw.json 1
                     out/                   out/                  out/
                     out/x.json 2           out/x.json 2          out/x.json 4
                                            fails -/

namespace SwaggerPress.FileTree

/-- The content of the file that is listed under a key. -/
def fileAt? (t : FileTree) (key : String) : Option Content :=
  match t.entries.get? key with
  | some (.file content) => some content
  | _ => none

/-- First parts of a path, and not all of them, lead to a location. -/
def LeadsThrough (t : FileTree) (path : String) (at_ : Location) : Prop :=
  ∃ front last rest, pathParts path = front ++ last :: rest ∧ t.follow [] front = .ok at_

/-- The key of the file that a write has put its text in; none if it has failed. -/
def Outcome.landing? (outcome : Outcome) (path : String) : Option String :=
  match outcome.1 with
  | some _ => none
  | none => (outcome.2.lookUp path).toOption.map (·.1.key)

/-- A write that succeeds is read back and one that fails changes no file. Every other file, by its
path and by its location, is where it was and as it was. Directories stay, and those that are new are
on the way to the file. -/
structure Framed (t : FileTree) (path text : String) (outcome : Outcome) : Prop where
  read : outcome.1 = none → outcome.2.readText path = .ok text
  files : ∀ key, outcome.2.fileAt? key =
    if outcome.landing? path = some key then some (.text text) else t.fileAt? key
  found : ∀ other at_ old, t.lookUp other = .ok (at_, .file old) → outcome.2.lookUp other =
    .ok (at_, .file (if outcome.landing? path = some at_.key then .text text else old))
  stay : ∀ at_, t.entry? at_ = some .directory → entry? outcome.2 at_ = some .directory
  made : ∀ key, outcome.2.entries.get? key = some .directory →
    t.entries.get? key = some .directory ∨ ∃ at_, at_.key = key ∧ outcome.2.LeadsThrough path at_

/-- A text to be written, with what surrounds the tree meanwhile. -/
structure Write where
  path : String
  text : String
  surroundings : Surroundings

-- irreducible, since what matters of a write below is that it is framed
@[irreducible] def Write.perform (w : Write) (t : FileTree) : Outcome :=
  t.writeThrough w.surroundings w.path w.text

/-- Writes texts one after another, whether they succeed or not. -/
def performAll (t : FileTree) : List Write → FileTree
  | [] => t
  | w :: writes => performAll (w.perform t).2 writes

/-- Where the text of a write lands, if it does. -/
def Write.landing (w : Write) (t : FileTree) : List (String × String) :=
  (Outcome.landing? (w.perform t) w.path).toList.map (·, w.text)

/-- Where the texts of writes land, one after another. -/
def landings (t : FileTree) : List Write → List (String × String)
  | [] => []
  | w :: writes => w.landing t ++ landings (w.perform t).2 writes

variable {t t' t'' t₁ : FileTree} {at_ : Location} {path text above : String}

/-! ### Directories on the way -/

/-- Nothing has changed but for new directories on the way of a path. -/
structure Prepares (t : FileTree) (path : String) (t' : FileTree) : Prop where
  grows : t.Grows t'
  leading : ∀ key, t'.entries.get? key = t.entries.get? key ∨
    ∃ at_, at_.key = key ∧ t'.LeadsThrough path at_

theorem LeadsThrough.mono
    (hdir : ∀ at_, t.entry? at_ = some .directory → t'.entry? at_ = some .directory)
    (h : t.LeadsThrough path at_) : t'.LeadsThrough path at_ := by
  obtain ⟨front, last, rest, hparts, hfollow⟩ := h
  exact ⟨front, last, rest, hparts, follow_of_directories hdir hfollow⟩

theorem Prepares.refl (t : FileTree) (path : String) : t.Prepares path t :=
  ⟨.refl t, fun _ => .inl rfl⟩

theorem Prepares.trans (h : t.Prepares path t') (h' : t'.Prepares path t'') :
    t.Prepares path t'' where
  grows := h.grows.trans h'.grows
  leading key := by
    rcases h'.leading key with heq' | hnew'
    · rcases h.leading key with heq | ⟨at_, hkey, hleads⟩
      · exact .inl (heq'.trans heq)
      · exact .inr ⟨at_, hkey, hleads.mono fun _ hd => (h'.grows _).stays hd⟩
    · exact .inr hnew'

/-- The directories that a file needs are on the way of its path. -/
theorem prepares_makeDirectory {fuel : Nat} (habove : above ∈ chain fuel (directoryOf path))
    (h : t.makeDirectory above = .ok t') : t.Prepares path t' := by
  have hgrows := grows_makeDirectory h
  obtain ⟨-, parent, name, happroach, hname, hsize, -, rfl⟩ := makeDirectory_eq_ok h
  refine ⟨hgrows, fun key => ?_⟩
  by_cases hkey : key = Location.key (parent ++ [name])
  · have hfollow := follow_of_directories (fun _ hd => (hgrows _).stays hd)
      (follow_of_approach happroach hname hsize)
    rcases parts_of_mem_chain_directoryOf habove with hdot | ⟨last, more, hparts⟩
    · -- the working directory is always there
      obtain ⟨front, hparts, -, -⟩ := approach_eq_ok_iff.1 happroach
      rw [hdot] at hparts
      obtain rfl : name = "." := by simpa using (congrArg List.getLast? hparts).symm
      exact absurd hname (by decide)
    · exact .inr ⟨_, hkey.symm, _, last, more, hparts, hfollow⟩
  · exact .inl (t.entries.get?_insert_of_ne _ hkey)

/-- However far it gets, and whatever is refused, making directories goes no further. -/
theorem prepares_makeDirectories (t : FileTree) (s : Surroundings) (path : String) :
    t.Prepares path (s.makeDirectories t (directoryOf path)).2 := by
  refine makeChain_induction (motive := fun t t' => t.Prepares path t') (fun t => .refl t path)
    (fun _ _ _ => Prepares.trans) (fun above habove t t' h => ?_) t
  obtain ⟨made, hmade, hallow⟩ := bind_eq_ok_iff.1 h
  obtain rfl := allow_eq_ok hallow
  exact prepares_makeDirectory habove hmade

/-! ### One write -/

theorem fileAt?_of_entry? {content : Content} (h : t.entry? at_ = some (.file content)) :
    t.fileAt? at_.key = some content := by
  rw [get?_of_entry?_ne (by rw [h]; nofun)] at h
  rw [fileAt?, h]

theorem Grows.fileAt? (h : t.Grows t') (key : String) : t'.fileAt? key = t.fileAt? key := by
  rw [FileTree.fileAt?, FileTree.fileAt?]
  rcases h key with heq | ⟨hnone, hnew⟩
  · rw [heq]
  · rw [hnone, hnew]

/-- A write that has failed leaves no more than directories on its way. -/
theorem framed_of_failed {fault : FileFault} (h : t.Prepares path t') :
    t.Framed path text (some fault, t') where
  read := nofun
  files := h.grows.fileAt?
  found _ _ _ hold := h.grows.lookUp hold
  stay _ hd := (h.grows _).stays hd
  made key hd := by
    rcases h.leading key with heq | hnew
    · exact .inl (heq ▸ hd)
    · exact .inr hnew

/-- A write that has succeeded leaves one new file besides. -/
theorem framed_of_done (h : t.Prepares path t₁) (hdestination : t₁.destination path = .ok at_) :
    t.Framed path text (none, t₁.set at_ (.file (.text text))) := by
  have hreplaces := replaces_of_destination hdestination (.text text)
  have hgrown := h.grows.replaces hreplaces
  have hoff {key : String} (hkey : key ≠ at_.key) :
      (t₁.set at_ (.file (.text text))).entries.get? key = t₁.entries.get? key :=
    t₁.entries.get?_insert_of_ne _ hkey
  have hlook := lookUp_of_destination hdestination (.text text)
  have hlanding : Outcome.landing? (none, t₁.set at_ (.file (.text text))) path = some at_.key := by
    simp only [Outcome.landing?, hlook]
    rfl
  refine ⟨fun _ => ?_, fun key => ?_, fun other place old hold => ?_, fun _ hd => hgrown.directory hd,
    fun key hd => ?_⟩
  · rw [readText, hlook]
    rfl
  · rw [hlanding, ← h.grows.fileAt? key]
    by_cases hkey : key = at_.key
    · rw [hkey, if_pos rfl]
      exact fileAt?_of_entry? hreplaces.file
    · rw [if_neg (by simpa using Ne.symm hkey), fileAt?, fileAt?, hoff hkey]
  · have hold₁ := h.grows.lookUp hold
    rw [hlanding]
    by_cases hkey : at_.key = place.key
    · -- the path is another one to the file that is written
      rw [if_pos (by rw [hkey])]
      exact hreplaces.lookUp_of_key_eq hold₁ hkey.symm
    · rw [if_neg (by simpa using hkey)]
      exact hreplaces.lookUp hold₁ (Ne.symm hkey)
  · have hkey : key ≠ at_.key := by
      rintro rfl
      cases hd.symm.trans (t₁.entries.get?_insert_self at_.key _)
    rw [hoff hkey] at hd
    rcases h.leading key with heq | ⟨place, hplace, hleads⟩
    · exact .inl (heq ▸ hd)
    · exact .inr ⟨place, hplace, hleads.mono fun _ hd => hreplaces.directory hd⟩

/-- A text that is written stage by stage changes its file alone, whatever its surroundings. -/
theorem framed_writeThrough (t : FileTree) (s : Surroundings) (path text : String) :
    t.Framed path text (t.writeThrough s path text) := by
  have hprepares := t.prepares_makeDirectories s path
  rcases t.settles_writeThrough s path text with ⟨fault, houtcome⟩ | ⟨at_, hdestination, houtcome⟩
  · rw [houtcome]
    exact framed_of_failed hprepares
  · rw [houtcome]
    exact framed_of_done hprepares hdestination

theorem framed_writeAtomically (t : FileTree) (path text : String) :
    t.Framed path text (t.writeAtomically path text) := by
  obtain ⟨name, hwrite⟩ := t.writeThrough_eq_writeAtomically path
  rw [← hwrite]
  exact t.framed_writeThrough { temporary := name } path text

/-! ### A sequence of writes -/

theorem framed_perform (w : Write) (t : FileTree) : t.Framed w.path w.text (w.perform t) := by
  rw [Write.perform]
  exact t.framed_writeThrough w.surroundings w.path w.text

/-- A file holds the text that has landed there, or what it held. -/
theorem firstUnder?_landing (key : String) (w : Write) (t : FileTree) :
    ((firstUnder? key (w.landing t).reverse).map .text).or (t.fileAt? key) =
      (w.perform t).2.fileAt? key := by
  rw [(framed_perform w t).files key, Write.landing]
  cases Outcome.landing? (w.perform t) w.path with
  | none => rfl
  | some place =>
    rw [Option.toList_some, List.map_singleton, List.reverse_singleton, firstUnder?]
    by_cases hkey : place = key
    · rw [if_pos hkey, if_pos (congrArg some hkey)]
      rfl
    · rw [if_neg hkey, if_neg fun h => hkey (Option.some.inj h)]
      rfl

/-- Of all texts that have landed there a file holds the last. -/
theorem fileAt?_performAll (key : String) : ∀ (writes : List Write) (t : FileTree),
    (t.performAll writes).fileAt? key =
      ((firstUnder? key (t.landings writes).reverse).map .text).or (t.fileAt? key)
  | [], _ => rfl
  | w :: writes, t => by
    have hrest := fileAt?_performAll key writes (w.perform t).2
    rw [performAll, hrest, ← firstUnder?_landing, landings, List.reverse_append,
      firstUnder?_append, Option.map_or, Option.or_assoc]

theorem directory_performAll (at_ : Location) : ∀ (writes : List Write) (t : FileTree),
    t.entry? at_ = some .directory → entry? (t.performAll writes) at_ = some .directory
  | [], _, h => h
  | w :: writes, t, h => by
    rw [performAll]
    exact directory_performAll at_ writes (w.perform t).2 ((framed_perform w t).stay at_ h)

/-- A directory was there, or is on the way of one of the paths. -/
theorem made_performAll (key : String) : ∀ (writes : List Write) (t : FileTree),
    (t.performAll writes).entries.get? key = some .directory →
      t.entries.get? key = some .directory ∨ ∃ w ∈ writes, ∃ at_ : Location, at_.key = key ∧
        (t.performAll writes).LeadsThrough w.path at_
  | [], _, h => .inl h
  | w :: writes, t, h => by
    rw [performAll] at h ⊢
    rcases made_performAll key writes (w.perform t).2 h with hd | ⟨v, hv, hleads⟩
    · rcases (framed_perform w t).made key hd with hd | ⟨at_, hkey, hleads⟩
      · exact .inl hd
      · refine .inr ⟨w, List.mem_cons_self, at_, hkey, hleads.mono fun place hd => ?_⟩
        exact directory_performAll place writes (w.perform t).2 hd
    · exact .inr ⟨v, List.mem_cons_of_mem w hv, hleads⟩

/-- Each of a sequence of writes changes its file alone and makes directories on its way alone,
whatever its surroundings, and so does a write in one step in its place. The latter succeeds where it
replaces a file, since nothing is refused to it; a write through a temporary file may still fail
there, as when the whole path of that file is too long. In the end a file holds the last text that has
landed there, or what it held at first, and a directory was there at first or is on the way of one of
the paths. -/
theorem writes_framed (t : FileTree) (writes : List Write) :
    (∀ i (h : i < writes.length),
      let now := t.performAll (writes.take i)
      now.Framed writes[i].path writes[i].text (writes[i].perform now) ∧
      now.Framed writes[i].path writes[i].text
        (now.writeAtomically writes[i].path writes[i].text) ∧
      ∀ at_ old, now.lookUp writes[i].path = .ok (at_, .file old) →
        (now.writeAtomically writes[i].path writes[i].text).1 = none) ∧
    (∀ key, (t.performAll writes).fileAt? key =
      ((firstUnder? key (t.landings writes).reverse).map .text).or (t.fileAt? key)) ∧
    ∀ key, (t.performAll writes).entries.get? key = some .directory →
      t.entries.get? key = some .directory ∨
        ∃ w ∈ writes, ∃ at_ : Location, at_.key = key ∧
          (t.performAll writes).LeadsThrough w.path at_ := by
  refine ⟨fun i h => ⟨?_, ?_, fun at_ old hold => ?_⟩, fun key => fileAt?_performAll key writes t,
    fun key => made_performAll key writes t⟩
  · exact framed_perform writes[i] _
  · exact framed_writeAtomically _ writes[i].path writes[i].text
  · exact writeAtomically_of_lookUp hold writes[i].text

/-- The second of three writes fails, as a file stands where it needs a directory. -/
example : performAll ⟨.ofList [("raw.json", .file (.text "1"))]⟩
    [⟨"out/x.json", "2", { temporary := ".tmpA1b2C3" }⟩,
      ⟨"raw.json/y", "3", { temporary := ".tmpD4e5F6" }⟩,
      ⟨"out/x.json", "4", { temporary := ".tmpA1b2C3" }⟩] =
    ⟨.ofList [("out", .directory), ("out/x.json", .file (.text "4")),
      ("raw.json", .file (.text "1"))]⟩ := by
  decide +kernel

end SwaggerPress.FileTree
