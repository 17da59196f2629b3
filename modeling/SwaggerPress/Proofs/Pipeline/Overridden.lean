import SwaggerPress.Proofs.Assembly
import SwaggerPress.Proofs.Json.Canonical
import SwaggerPress.Proofs.Merge.Order
import SwaggerPress.Proofs.Pipeline.Twin

/-!
    What never gets through. Customizations are put over the members of the raw schema before anything
    is read of it, so a schema with customizations is a schema that had them all along
    (`assemble_overlay`). Assembling then overwrites the host, the schemes, the content types and,
    with a description file, the description; finalizing overwrites the version. Schemas that differ
    in these alone are assembled to documents that differ in their version alone
    (`stamped_assemble`), which no batch looks at (`respects_stamped`), and which are the same once
    they are finalized (`run_hides_overridden`).

        raw schema    host a.test   version 0.1        host b.test   version 7
        assembled     -             version 0.1        -             version 7
        + batches     -             version 0.1        -             version 7
        finalized     -             version 4.2        -             version 4.2 -/

namespace SwaggerPress

/-! ### Customizations -/

/-- A value with customizations put over its members: each name has the value of the customizations
where they have one, and else its own. A value that is no object has no members to put them over. -/
inductive Json.Overlaid (customizations : SortedMap Json) : Json → Json → Prop
  | members {own all : SortedMap Json}
    (h : ∀ name, all.get? name = (customizations.get? name).or (own.get? name)) :
    Overlaid customizations (.ofMap own) (.ofMap all)
  | other {v : Json} (h : ∀ members, v ≠ .obj members) : Overlaid customizations v v

namespace Json

theorem overlay_none (v : Json) : v.overlay none = v := by
  cases v <;> rfl

/-- Laying customizations over a raw value puts each of them over its members. -/
theorem overlaid_overlay {v : Json} (hv : v.IsCanonical) (customizations : SortedMap Json) :
    Overlaid customizations v (v.overlay (some customizations)) := by
  cases v with
  | obj members =>
    let own : SortedMap Json := ⟨members, (isCanonical_obj.1 hv).1⟩
    have hall : (obj members).overlay (some customizations) =
        .ofMap (own.insertAll customizations.entries) :=
      congrArg obj (own.entries_insertAll customizations.entries).symm
    have hget : ∀ name, (own.insertAll customizations.entries).get? name =
        (customizations.get? name).or (own.get? name) := by
      intro name
      rw [SortedMap.get?_insertAll, ← SortedMap.get?_ofList, SortedMap.ofList_entries]
    rw [hall]
    exact .members hget
  | _ => exact .other nofun

end Json

namespace Document

/-- Customizations beside the raw schema are customizations in it. -/
theorem assemble_overlay (raw : Json) (customizations : SortedMap Json)
    (deprecated : Except Failure Deprecations) (settings : Settings) (t : FileTree) :
    assemble ⟨.ok raw, deprecated, .ok (some customizations)⟩ settings t =
      assemble ⟨.ok (raw.overlay (some customizations)), deprecated, .ok none⟩ settings t := by
  simp only [assemble, ok_bind, Json.overlay_none]

/-! ### What is overwritten -/

/-- The document with a release for its version. -/
def stamped (release : String) (d : Document) : Document :=
  { d with info := { d.info with version := release } }

/-- Documents that differ at most in what is overwritten before they are published: host, schemes,
content types, version and, if there is another one, the description. -/
structure SameBesideOverridden (described : Bool) (d d' : Document) : Prop where
  title : d.info.title = d'.info.title
  infoExtra : d.info.extra = d'.info.extra
  tags : d.tags = d'.tags
  paths : d.paths = d'.paths
  extra : d.extra = d'.extra
  description : described = false → d.info.description = d'.info.description

end Document

/-- Sources with the same deprecated templates, whose raw schemas are decoded to documents that differ
at most in what is overwritten. -/
def Source.SameBesideOverridden (settings : Settings) (t : FileTree) (source source' : Source) :
    Prop :=
  source.deprecated.map Deprecations.contains = source'.deprecated.map Deprecations.contains ∧
    ∃ raw raw' d d', source.Provides raw ∧ source'.Provides raw' ∧
      Document.ofRaw raw = .ok d ∧ Document.ofRaw raw' = .ok d' ∧
      d.SameBesideOverridden (t.present? settings.descriptionFile).isSome d'

namespace Document

variable {d d' : Document}

/-- Batches do not look at the version, and leave it. -/
theorem respects_stamped (release : String) : Respects (stamped release) := by
  intro d b
  have hvisits : (d.stamped release).visits b = d.visits b := rfl
  have hrefusal : (d.stamped release).refusal? = d.refusal? := rfl
  rw [merge_eq, merge_eq, hvisits, hrefusal]
  cases (d.visits b).findSome? d.refusal? <;> rfl

/-- Finalizing overwrites the version. -/
theorem finalize_stamped (earlier release : String) (d : Document) :
    (d.stamped earlier).finalize release = d.finalize release := rfl

/-- Normalizing leaves no difference but in the version. -/
theorem SameBesideOverridden.normalize {description : Option String} {config : Option TagConfig}
    {settings : Settings} {deprecated deprecated' : Deprecations}
    (h : d.SameBesideOverridden description.isSome d')
    (hdeprecated : deprecated.contains = deprecated'.contains) :
    (d.normalize description config settings deprecated).stamped "" =
      (d'.normalize description config settings deprecated').stamped "" := by
  have hdescription : (description.elim d.info.description fun text => some (.plain text)) =
      description.elim d'.info.description fun text => some (.plain text) := by
    cases description with
    | none => exact h.description rfl
    | some text => rfl
  have hpaths : d.paths.resolve settings.version deprecated =
      d'.paths.resolve settings.version deprecated' := by
    rw [Paths.resolve, Paths.resolve, h.paths, hdeprecated]
  simp only [normalize_eq, stamped, hdescription, hpaths, h.title, h.infoExtra, h.tags, h.extra]

end Document

/-- There is a description to put over the one of the raw schema exactly if its file is there. -/
theorem Settings.isSome_of_description? {s : Settings} {t : FileTree} {description : Option String}
    (h : s.description? t = .ok description) :
    (t.present? s.descriptionFile).isSome = description.isSome := by
  unfold description? at h
  cases hpath : t.present? s.descriptionFile with
  | none =>
    rw [hpath] at h
    cases h
    rfl
  | some path =>
    simp only [hpath] at h
    obtain ⟨text, -, rfl⟩ := map_eq_ok_iff.1 h
    rfl

namespace Document

/-- What is left of assembling once the raw schema is decoded. -/
theorem assemble_of_ofRaw {source : Source} {raw : Json} {d : Document} (hraw : source.Provides raw)
    (hd : ofRaw raw = .ok d) (settings : Settings) (t : FileTree) :
    assemble source settings t = source.deprecated >>= fun deprecated =>
      settings.description? t >>= fun description =>
        settings.tagConfig? t >>= fun config =>
          .ok (d.normalize description config settings deprecated) := by
  obtain ⟨schema, customizations, hschema, hcustomizations, rfl⟩ := hraw
  simp only [assemble, hschema, hcustomizations, ok_bind, hd]
  rfl

/-- Sources that differ in what is overwritten are assembled to documents that differ in their
version alone. -/
theorem stamped_assemble {settings : Settings} {t : FileTree} {source source' : Source}
    (h : source.SameBesideOverridden settings t source') :
    (assemble source settings t).map (stamped "") = (assemble source' settings t).map (stamped "") := by
  obtain ⟨hdeprecated, raw, raw', d, d', hraw, hraw', hd, hd', hsame⟩ := h
  rw [assemble_of_ofRaw hraw hd, assemble_of_ofRaw hraw' hd']
  cases hl : source.deprecated with
  | error f =>
    cases hr : source'.deprecated with
    | error f' =>
      rw [hl, hr] at hdeprecated
      cases hdeprecated
      rfl
    | ok deprecated' => rw [hl, hr] at hdeprecated; cases hdeprecated
  | ok deprecated =>
    cases hr : source'.deprecated with
    | error f' => rw [hl, hr] at hdeprecated; cases hdeprecated
    | ok deprecated' =>
      rw [hl, hr] at hdeprecated
      simp only [ok_bind]
      cases hdescription : settings.description? t with
      | error f => rfl
      | ok description =>
        rw [Settings.isSome_of_description? hdescription] at hsame
        cases settings.tagConfig? t with
        | error f => rfl
        | ok config => exact congrArg Except.ok (hsame.normalize (Except.ok.inj hdeprecated))

end Document

namespace Pipeline

/-- Customizations count as members of the raw schema; and what is overwritten of the raw schema
leaves no trace in a run but the version, and none at all in what is finalized. -/
theorem run_hides_overridden :
    (∀ raw customizations deprecated settings files,
      Document.assemble ⟨.ok raw, deprecated, .ok (some customizations)⟩ settings files =
        Document.assemble ⟨.ok (raw.overlay (some customizations)), deprecated, .ok none⟩
          settings files ∧
      (raw.IsCanonical → raw.Overlaid customizations (raw.overlay (some customizations)))) ∧
    ∀ (settings : Settings) (calls calls' : List Call),
      List.Forall₂ (fun c c' => c.request = c'.request ∧ c.files = c'.files ∧
        c.source.SameBesideOverridden settings c.files c'.source) calls calls' →
      (({ settings } : Pipeline).run calls).1.map (·.2.seenBy (Document.stamped "")) =
        (({ settings } : Pipeline).run calls').1.map (·.2.seenBy (Document.stamped "")) ∧
      ∀ source source' files release, source.SameBesideOverridden settings files source' →
        ((({ settings } : Pipeline).run calls).2.finalize source files release).map
            (fun d => (d, d.render .json)) =
          ((({ settings } : Pipeline).run calls').2.finalize source' files release).map
            fun d => (d, d.render .json) := by
  refine ⟨fun raw customizations deprecated settings files =>
    ⟨Document.assemble_overlay raw customizations deprecated settings files,
      fun hraw => Json.overlaid_overlay hraw customizations⟩, fun settings calls calls' h => ?_⟩
  have hcalls : List.Forall₂ (Call.Twin (Document.stamped "") settings settings) calls calls' := by
    refine h.imp fun c c' hc => ?_
    obtain ⟨hrequest, hfiles, hsource⟩ := hc
    refine ⟨hrequest, ?_⟩
    rw [← hfiles]
    exact Document.stamped_assemble hsource
  obtain ⟨hanswers, htwin⟩ := twin_run (Document.respects_stamped "") hcalls
    (twin_start (Document.stamped "") settings settings)
  refine ⟨hanswers, fun source source' files release hsource => ?_⟩
  obtain ⟨f, hf, hf'⟩ | ⟨d, d', hd, hfinal, hfinal'⟩ :=
    htwin.finalize_cases (Document.stamped_assemble hsource) release
  · rw [hf, hf']
  · rw [hfinal, hfinal', ← Document.finalize_stamped "", hd, Document.finalize_stamped]

/-! ### Two schemas for one artifact -/

/-- The schema of a development server. -/
def localApi : Json := .obj [
  ("host", .str "a.test"),
  ("info", .obj [("description", .str "old"), ("title", .str "Jobs"), ("version", .str "0.1")]),
  ("paths", .obj [("/api/\x7bversion\x7d/jobs/", .obj [("get", .obj [])])]),
  ("tags", .arr [])]

def localSource : Source where
  schema := .ok localApi
  deprecated := .ok ⟨["/api/v1/jobs/", "/jobs/"]⟩

/-- The same schema with other values in what is overwritten, most of them from customizations. -/
def customizedSource : Source where
  schema := .ok localApi
  deprecated := .ok ⟨["/jobs/", "/api/v1/jobs/"]⟩
  customizations := .ok <| some <| .ofList [
    ("host", .str "b.test"), ("schemes", .arr [.str "http"]),
    ("info", .obj [("title", .str "Jobs"), ("version", .str "7")])]

/-- What both schemas are decoded to, but for what is overwritten. -/
def localDocument : Document where
  info := { title := .plain "Jobs" }
  paths := .ofList [("/api/\x7bversion\x7d/jobs/", .ofList [("get", {})])]

theorem sameBesideOverridden_localSource : localSource.SameBesideOverridden
    (.ofTemplates "templates") Document.jobsTemplates customizedSource := by
  have hthere : (Document.jobsTemplates.present?
      (Settings.ofTemplates "templates").descriptionFile).isSome := by decide +kernel
  refine ⟨?_, localApi, localApi.overlay (some (.ofList [
    ("host", .str "b.test"), ("schemes", .arr [.str "http"]),
    ("info", .obj [("title", .str "Jobs"), ("version", .str "7")])])),
    { localDocument with
      host := some "a.test"
      info := { localDocument.info with version := "0.1", description := some (.plain "old") } },
    { localDocument with
      host := some "b.test"
      schemes := ["http"]
      info := { localDocument.info with version := "7" } },
    ⟨_, none, rfl, rfl, rfl⟩, ⟨_, _, rfl, rfl, rfl⟩, rfl, rfl, ?_⟩
  · refine congrArg Except.ok (funext fun template => ?_)
    simp [Deprecations.contains, Bool.or_comm]
  · rw [hthere]
    exact ⟨rfl, rfl, rfl, rfl, rfl, nofun⟩

/-- The document is asked for, and one of the two captures of a batch hits. -/
def localCalls (source : Source) : List Call := [
  ⟨.document, source, Document.jobsTemplates⟩,
  ⟨.merge (.recordAll .empty [
    ("/api/v2/jobs/", { method := "get", status := 200, contentType := "text/plain",
                        response := "none" }),
    ("/jobs/", { method := "get", status := 404 })]), source, Document.jobsTemplates⟩]

theorem run_hides_overridden_local :
    let settings : Settings := .ofTemplates "templates"
    List.Forall₂ (fun c c' => c.request = c'.request ∧ c.files = c'.files ∧
        c.source.SameBesideOverridden settings c.files c'.source)
      (localCalls localSource) (localCalls customizedSource) ∧
    (({ settings } : Pipeline).run (localCalls localSource)).1.map
        (·.2.seenBy (Document.stamped "")) =
      (({ settings } : Pipeline).run (localCalls customizedSource)).1.map
        (·.2.seenBy (Document.stamped "")) ∧
    ((({ settings } : Pipeline).run (localCalls localSource)).2.finalize localSource
        Document.jobsTemplates "4.2").map (fun d => (d, d.render .json)) =
      ((({ settings } : Pipeline).run (localCalls customizedSource)).2.finalize customizedSource
        Document.jobsTemplates "4.2").map fun d => (d, d.render .json) := by
  intro settings
  have hsource : localSource.SameBesideOverridden settings Document.jobsTemplates
      customizedSource := sameBesideOverridden_localSource
  have hcalls : List.Forall₂ (fun c c' => c.request = c'.request ∧ c.files = c'.files ∧
      c.source.SameBesideOverridden settings c.files c'.source)
      (localCalls localSource) (localCalls customizedSource) :=
    .cons ⟨rfl, rfl, hsource⟩ (.cons ⟨rfl, rfl, hsource⟩ .nil)
  obtain ⟨hanswers, hfinal⟩ := run_hides_overridden.2 settings _ _ hcalls
  exact ⟨hcalls, hanswers, hfinal localSource customizedSource Document.jobsTemplates "4.2" hsource⟩

end Pipeline

end SwaggerPress
