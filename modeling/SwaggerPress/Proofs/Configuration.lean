import SwaggerPress.Proofs.Assembly

/-!
    All that is configured for an assembly: the files of the raw schema, and the settings. Four of
    the files are *resources* that an assembly does without if they are not configured or not there.
    They are read in one way (`outcome`), which asks of a path only what is present at it, so a path
    to nothing is as good as none (`Lacks.assemble_without`). A resource fails an assembly exactly if
    it is there and cannot be read or is malformed (`outcome_eq_error_iff`), and what an assembly
    reports is the first of its steps that fails (`assemble_eq_error_iff`).

        step             there    by itself        assembling
        schema             ✓      read             goes on
        deprecated         ✗      none             goes on
        customizations     ✓      not an object    fails: not an object
        decoding                                   not come to
        tagConfig          ✓      malformed        not come to -/

namespace SwaggerPress

/-- A file that a document is assembled from beside the raw schema; each may be left out. -/
inductive Resource where
  | deprecated
  | customizations
  | description
  | tagConfig
  deriving DecidableEq

namespace Resource

/-- The failure of a file that cannot be read. -/
def unreadable (path : String) (fault : FileFault) : Resource → Failure
  | .deprecated | .customizations => .file fault
  | .description | .tagConfig => .configuration path (.file fault)

/-- A text is not what the resource has to be, and how that is reported. Any text is a
description. -/
inductive Malformed (path text : String) : Resource → Failure → Prop
  | deprecated {fault : Json.Fault} (h : Deprecations.parse text = .error fault) :
    Malformed path text .deprecated (.schema (.deprecations fault))
  | customizations {fault : Json.Fault} (h : Json.parse text = .error fault) :
    Malformed path text .customizations (.schema (.customizations fault))
  | notObject {v : Json} (h : Json.parse text = .ok v) (hv : ∀ members, v ≠ .obj members) :
    Malformed path text .customizations (.schema .customizationsNotObject)
  | tagConfig {fault : Yaml.Fault} (h : TagConfig.parse text = .error fault) :
    Malformed path text .tagConfig (.configuration path (.yaml fault))

/-- A file is no use as the resource: it cannot be read, or it is malformed. -/
inductive Rejects (r : Resource) (t : FileTree) (path : String) : Failure → Prop
  | unreadable {fault : FileFault} (h : t.readText path = .error fault) :
    Rejects r t path (r.unreadable path fault)
  | malformed {text : String} {f : Failure} (h : t.readText path = .ok text)
    (hf : r.Malformed path text f) : Rejects r t path f

end Resource

/-- All that is configured for an assembly. -/
structure Configuration where
  files : SourceFiles
  settings : Settings

/-- What an assembly can fail at. -/
inductive AssemblyStep where
  | schema
  | resource (r : Resource)
  | decoding

/-- What an assembly goes through, in this order. -/
def AssemblyStep.inOrder : List AssemblyStep :=
  [.schema, .resource .deprecated, .resource .customizations, .decoding,
    .resource .description, .resource .tagConfig]

namespace Configuration

/-- The path of a resource, if it is configured. -/
def path? (c : Configuration) : Resource → Option String
  | .deprecated => c.files.deprecated
  | .customizations => c.files.customizations
  | .description => c.settings.descriptionFile
  | .tagConfig => c.settings.tagConfigFile

/-- The configuration with these resources not configured. -/
def without (c : Configuration) (absent : List Resource) : Configuration where
  files := { c.files with
    deprecated := if .deprecated ∈ absent then none else c.files.deprecated
    customizations := if .customizations ∈ absent then none else c.files.customizations }
  settings := { c.settings with
    descriptionFile := if .description ∈ absent then none else c.settings.descriptionFile
    tagConfigFile := if .tagConfig ∈ absent then none else c.settings.tagConfigFile }

/-- Wherever these resources are configured to be, nothing is there. -/
def Lacks (c : Configuration) (absent : List Resource) (t : FileTree) : Prop :=
  ∀ r ∈ absent, ∀ path, c.path? r = some path → t.pathExists path = false

/-- A resource is configured and there, and cannot be used. -/
def Faulty (c : Configuration) (t : FileTree) (r : Resource) (f : Failure) : Prop :=
  ∃ path, c.path? r = some path ∧ t.pathExists path ∧ r.Rejects t path f

/-- A step of an assembly fails, if it is come to. -/
def FailsAt (c : Configuration) (t : FileTree) : AssemblyStep → Failure → Prop
  | .schema, f => c.files.readSchema t = .error f
  | .resource r, f => c.Faulty t r f
  | .decoding, f => ∃ raw defect, (c.files.source t).Provides raw ∧
      Document.ofRaw raw = .error defect ∧ f = .schema (.defect defect)

/-- The first of these steps that fails fails so. -/
def FailsFirst (c : Configuration) (t : FileTree) : List AssemblyStep → Failure → Prop
  | [], _ => False
  | step :: later, f => c.FailsAt t step f ∨ (∀ f', ¬ c.FailsAt t step f') ∧ c.FailsFirst t later f

/-- The document that is assembled from what the files are. -/
def assemble (c : Configuration) (t : FileTree) : Except Failure Document :=
  Document.assemble (c.files.source t) c.settings t

end Configuration

/-! ### One way to read a resource -/

namespace FileTree

variable {t : FileTree} {path : Option String} {p : String}

theorem present?_eq_some_iff : t.present? path = some p ↔ path = some p ∧ t.pathExists p :=
  Option.filter_eq_some_iff

/-- The text of an optional file is that of the file that is present. -/
theorem readOptional_eq (t : FileTree) (path : Option String) :
    t.readOptional path = match t.present? path with
      | some path => some <$> t.read path
      | none => .ok none := by
  cases path with
  | none => rfl
  | some path =>
    rw [readOptional, present?, Option.filter_some]
    cases t.pathExists path <;> rfl

end FileTree

namespace Configuration

variable {α : Type} {c : Configuration} {absent : List Resource} {t : FileTree} {r : Resource}
  {f : Failure} {missing : α} {use : String → String → Except Failure α}

/-- What a resource comes to: a value of its own if it is not present, and else what use is made of
its path and its text. -/
def outcome (c : Configuration) (t : FileTree) (r : Resource) (missing : α)
    (use : String → String → Except Failure α) : Except Failure α :=
  match t.present? (c.path? r) with
  | none => .ok missing
  | some path => (t.readText path).mapError (r.unreadable path) >>= use path

theorem readDeprecated_eq (c : Configuration) (t : FileTree) :
    c.files.readDeprecated t = c.outcome t .deprecated {} fun _ text =>
      (Deprecations.parse text).mapError fun fault => .schema (.deprecations fault) := by
  rw [SourceFiles.readDeprecated, FileTree.readOptional_eq, outcome, path?]
  cases t.present? c.files.deprecated with
  | none => rfl
  | some path => cases h : t.readText path <;> simp only [FileTree.read, h] <;> rfl

theorem readCustomizations_eq (c : Configuration) (t : FileTree) :
    c.files.readCustomizations t = c.outcome t .customizations none fun _ text =>
      match Json.parse text with
      | .ok (.obj members) => .ok (some (.ofList members))
      | .ok _ => .error (.schema .customizationsNotObject)
      | .error fault => .error (.schema (.customizations fault)) := by
  rw [SourceFiles.readCustomizations, FileTree.readOptional_eq, outcome, path?]
  cases t.present? c.files.customizations with
  | none => rfl
  | some path => cases h : t.readText path <;> simp only [FileTree.read, h] <;> rfl

theorem description?_eq (c : Configuration) (t : FileTree) :
    c.settings.description? t = c.outcome t .description none fun _ text => .ok (some text) := by
  rw [Settings.description?, outcome, path?]
  cases t.present? c.settings.descriptionFile with
  | none => rfl
  | some path => cases h : t.readText path <;> simp only [FileTree.readConfiguration, h] <;> rfl

theorem tagConfig?_eq (c : Configuration) (t : FileTree) :
    c.settings.tagConfig? t = c.outcome t .tagConfig none fun path text =>
      some <$> (TagConfig.parse text).mapError fun fault => .configuration path (.yaml fault) := by
  rw [Settings.tagConfig?, outcome, path?]
  cases t.present? c.settings.tagConfigFile <;> rfl

/-! ### Paths to nothing -/

theorem path?_without (c : Configuration) (absent : List Resource) (r : Resource) :
    (c.without absent).path? r = if r ∈ absent then none else c.path? r := by
  cases r <;> rfl

/-- A path to nothing is as good as no path. -/
theorem Lacks.present?_without (h : c.Lacks absent t) (r : Resource) :
    t.present? ((c.without absent).path? r) = t.present? (c.path? r) := by
  rw [path?_without]
  by_cases hr : r ∈ absent
  · rw [if_pos hr]
    cases hpath : c.path? r with
    | none => rfl
    | some path =>
      have hnothing : t.pathExists path = false := h r hr path hpath
      rw [FileTree.present?, FileTree.present?, Option.filter_some, hnothing]
      rfl
  · rw [if_neg hr]

theorem Lacks.outcome_without (h : c.Lacks absent t) (r : Resource) (missing : α)
    (use : String → String → Except Failure α) :
    (c.without absent).outcome t r missing use = c.outcome t r missing use := by
  rw [outcome, outcome, h.present?_without]

theorem Lacks.source_without (h : c.Lacks absent t) :
    (c.without absent).files.source t = c.files.source t := by
  have hschema : (c.without absent).files.readSchema t = c.files.readSchema t := rfl
  rw [SourceFiles.source, SourceFiles.source, hschema]
  simp only [readDeprecated_eq, readCustomizations_eq, h.outcome_without]

/-- Nothing of what is assembled hangs on a path to nothing. -/
theorem Lacks.assemble_without (h : c.Lacks absent t) :
    (c.without absent).assemble t = c.assemble t := by
  have hdescription : (c.without absent).settings.description? t = c.settings.description? t := by
    rw [description?_eq, description?_eq, h.outcome_without]
  have hconfig : (c.without absent).settings.tagConfig? t = c.settings.tagConfig? t := by
    rw [tagConfig?_eq, tagConfig?_eq, h.outcome_without]
  rw [assemble, assemble, h.source_without, Document.assemble, Document.assemble, hdescription,
    hconfig]
  rfl

/-- What is not there is at fault for nothing, and what is there is at fault for the same. -/
theorem Lacks.faulty_without (h : c.Lacks absent t) :
    (c.without absent).Faulty t r f ↔ c.Faulty t r f := by
  simp only [Faulty, ← and_assoc, ← FileTree.present?_eq_some_iff, h.present?_without]

/-! ### Which failure is reported -/

/-- A file fails its use exactly if it is no use as the resource. -/
theorem rejects_iff {use : String → Except Failure α} {path : String}
    (huse : ∀ text, use text = .error f ↔ r.Malformed path text f) :
    ((t.readText path).mapError (r.unreadable path) >>= use) = .error f ↔ r.Rejects t path f := by
  cases htext : t.readText path with
  | error fault =>
    constructor
    · rintro ⟨⟩
      exact .unreadable htext
    · intro h
      cases h with
      | unreadable hfault =>
        rw [htext] at hfault
        cases hfault
        rfl
      | malformed htext' => rw [htext] at htext'; cases htext'
  | ok text =>
    constructor
    · intro h
      exact .malformed htext ((huse text).1 h)
    · intro h
      cases h with
      | unreadable hfault => rw [htext] at hfault; cases hfault
      | malformed htext' hf =>
        rw [htext] at htext'
        cases htext'
        exact (huse text).2 hf

/-- A resource fails an assembly exactly if it is there and cannot be used. -/
theorem outcome_eq_error_iff
    (huse : ∀ path text, use path text = .error f ↔ r.Malformed path text f) :
    c.outcome t r missing use = .error f ↔ c.Faulty t r f := by
  rw [outcome]
  cases hpath : t.present? (c.path? r) with
  | none =>
    refine ⟨nofun, ?_⟩
    rintro ⟨path, hconfigured, hthere, -⟩
    rw [FileTree.present?_eq_some_iff.2 ⟨hconfigured, hthere⟩] at hpath
    cases hpath
  | some path =>
    obtain ⟨hconfigured, hthere⟩ := FileTree.present?_eq_some_iff.1 hpath
    simp only [rejects_iff (huse path)]
    constructor
    · intro h
      exact ⟨path, hconfigured, hthere, h⟩
    · rintro ⟨path', hconfigured', -, h⟩
      rw [hconfigured, Option.some.injEq] at hconfigured'
      exact hconfigured' ▸ h

theorem readDeprecated_eq_error_iff :
    c.files.readDeprecated t = .error f ↔ c.Faulty t .deprecated f := by
  rw [readDeprecated_eq]
  refine outcome_eq_error_iff fun path text => ?_
  rw [mapError_eq_error_iff]
  constructor
  · rintro ⟨fault, h, rfl⟩
    exact .deprecated h
  · intro h
    cases h with
    | deprecated h => exact ⟨_, h, rfl⟩

theorem readCustomizations_eq_error_iff :
    c.files.readCustomizations t = .error f ↔ c.Faulty t .customizations f := by
  rw [readCustomizations_eq]
  refine outcome_eq_error_iff fun path text => ?_
  constructor
  · intro h
    cases hv : Json.parse text with
    | error fault =>
      rw [hv] at h
      cases h
      exact .customizations hv
    | ok v =>
      rw [hv] at h
      cases v with
      | obj members => cases h
      | _ =>
        cases h
        exact .notObject hv nofun
  · intro h
    cases h with
    | customizations hv => rw [hv]
    | @notObject v hv hobj =>
      rw [hv]
      cases v with
      | obj members => exact absurd rfl (hobj members)
      | _ => rfl

theorem description?_eq_error_iff :
    c.settings.description? t = .error f ↔ c.Faulty t .description f := by
  rw [description?_eq]
  exact outcome_eq_error_iff fun path text => ⟨nofun, nofun⟩

theorem tagConfig?_eq_error_iff :
    c.settings.tagConfig? t = .error f ↔ c.Faulty t .tagConfig f := by
  rw [tagConfig?_eq]
  refine outcome_eq_error_iff fun path text => map_eq_error_iff.trans ?_
  rw [mapError_eq_error_iff]
  constructor
  · rintro ⟨fault, h, rfl⟩
    exact .tagConfig h
  · intro h
    cases h with
    | tagConfig h => exact ⟨_, h, rfl⟩

/-- A computation that is one step of an assembly, and then what is left of it. -/
theorem bind_eq_error_iff {β : Type} {x : Except Failure α} {next : α → Except Failure β}
    {step : AssemblyStep} {later : List AssemblyStep}
    (hstep : ∀ f, x = .error f ↔ c.FailsAt t step f)
    (hlater : ∀ a, x = .ok a → (next a = .error f ↔ c.FailsFirst t later f)) :
    (x >>= next) = .error f ↔ c.FailsFirst t (step :: later) f := by
  rw [FailsFirst]
  cases hx : x with
  | error f' =>
    have hfails : c.FailsAt t step f' := (hstep f').1 hx
    rw [error_bind]
    constructor
    · rintro ⟨⟩
      exact .inl hfails
    · rintro (h | ⟨hpasses, -⟩)
      · rw [← hstep, hx] at h
        cases h
        rfl
      · exact absurd hfails (hpasses f')
  | ok a =>
    have hpasses : ∀ f', ¬ c.FailsAt t step f' := by
      intro f' h
      rw [← hstep, hx] at h
      cases h
    rw [ok_bind, hlater a hx]
    constructor
    · intro h
      exact .inr ⟨hpasses, h⟩
    · rintro (h | ⟨-, h⟩)
      · exact absurd h (hpasses f)
      · exact h

/-- Assembling fails with the failure of the first step that fails. -/
theorem assemble_eq_error_iff :
    c.assemble t = .error f ↔ c.FailsFirst t AssemblyStep.inOrder f := by
  refine bind_eq_error_iff (fun f => .rfl) fun schema hschema => ?_
  refine bind_eq_error_iff (fun f => readDeprecated_eq_error_iff) fun _ _ => ?_
  refine bind_eq_error_iff (fun f => readCustomizations_eq_error_iff)
    fun customizations hcustomizations => ?_
  refine bind_eq_error_iff (fun f => ?_) fun _ _ => ?_
  -- what is decoded is what the source provides, since both have been read by now
  · rw [mapError_eq_error_iff]
    constructor
    · rintro ⟨defect, h, rfl⟩
      exact ⟨_, defect, ⟨schema, customizations, hschema, hcustomizations, rfl⟩, h, rfl⟩
    · rintro ⟨_, defect, ⟨schema', customizations', hschema', hcustomizations', rfl⟩, h, rfl⟩
      rw [hschema] at hschema'
      rw [hcustomizations] at hcustomizations'
      cases hschema'
      cases hcustomizations'
      exact ⟨defect, h, rfl⟩
  refine bind_eq_error_iff (fun f => description?_eq_error_iff) fun _ _ => ?_
  refine bind_eq_error_iff (fun f => tagConfig?_eq_error_iff) fun _ _ => ?_
  exact ⟨nofun, nofun⟩

end Configuration

end SwaggerPress
