import SwaggerPress.Proofs.Assembly
import SwaggerPress.Proofs.Document.Resolved

/-!
    Translating late is translating early. With a catalog the descriptions of the configured
    categories are looked up whenever they are needed; without one they may be looked up beforehand,
    in the tag configuration. The two documents have the same texts from their assembly on
    (`resolved_assemble`), and nothing that is done to a document tells them apart
    (`Document.edit_congr`, `Document.respects_resolved`), so two runs of a pipeline answer alike and
    publish the same (`run_translates`).

        config    jobs.about  ── assemble ──▶  lazy "jobs.about" ── merges ──▶  lazy ──▶  "Running"
        config'   "Running"   ── assemble ──▶  plain "Running"   ── merges ──▶  plain ─▶  "Running" -/

namespace SwaggerPress

/-- The category with its description translated. -/
def TagCategory.translated (catalog : Catalog) (c : TagCategory) : TagCategory :=
  { c with description := c.description.map catalog.translate }

/-- The configuration with every description translated. -/
def TagConfig.translated (catalog : Catalog) (config : TagConfig) : TagConfig :=
  ⟨config.categories.map (·.translated catalog)⟩

/-- Settings with a catalog, and settings without one whose tag configuration has been translated
beforehand; nothing else that they are read as differs. -/
structure Settings.Translates (catalog : Catalog) (s : Settings) (t : FileTree) (s' : Settings)
    (t' : FileTree) : Prop where
  late : s.catalog = some catalog
  early : s'.catalog = none
  version : s.version = s'.version
  description : s.description? t = s'.description? t'
  config : (s.tagConfig? t).map (Option.map (TagConfig.translated catalog)) = s'.tagConfig? t'

/-- A tag has the same text whether it is translated late or early. -/
theorem TagCategory.resolved_tag (catalog : Catalog) (c : TagCategory) :
    (c.tag (some catalog)).resolved = ((c.translated catalog).tag none).resolved := by
  simp only [tag, translated, Tag.resolved, Option.map_map]
  rfl

namespace Document

variable {catalog : Catalog} {settings settings' : Settings} {t t' : FileTree}

theorem resolved_normalize (h : settings.Translates catalog t settings' t') (d : Document)
    (description : Option String) (config : Option TagConfig) (deprecated : Deprecations) :
    (d.normalize description config settings deprecated).resolved =
      (d.normalize description (config.map (TagConfig.translated catalog)) settings'
        deprecated).resolved := by
  have htags : (((config.map (·.categories)).getD []).map (·.tag settings.catalog)).map Tag.resolved =
      ((((config.map (TagConfig.translated catalog)).map (·.categories)).getD []).map
        (·.tag settings'.catalog)).map Tag.resolved := by
    rw [h.late, h.early]
    cases config with
    | none => rfl
    | some config =>
      simp only [Option.map_some, Option.getD_some, TagConfig.translated, List.map_map,
        Function.comp_def, TagCategory.resolved_tag]
  simp only [normalize_eq, resolved, List.map_append, htags, h.version]

/-- Translated late or early, a source is assembled to the same texts, or fails alike. -/
theorem resolved_assemble (h : settings.Translates catalog t settings' t') (source : Source) :
    (assemble source settings t).map resolved = (assemble source settings' t').map resolved := by
  unfold assemble
  cases source.schema with
  | error f => rfl
  | ok schema =>
    cases source.deprecated with
    | error f => rfl
    | ok deprecated =>
      cases source.customizations with
      | error f => rfl
      | ok customizations =>
        simp only [ok_bind, ← h.description, ← h.config]
        cases ofRaw (schema.overlay customizations) with
        | error defect => rfl
        | ok d =>
          cases settings.description? t with
          | error f => rfl
          | ok description =>
            cases settings.tagConfig? t with
            | error f => rfl
            | ok config =>
              exact congrArg Except.ok (resolved_normalize h d description config deprecated)

end Document

namespace Pipeline

/-- Documents with the same texts are edited, merged into and published alike; so a run that
translates when a text is needed and one whose configuration has been translated beforehand have the
same answers, the same document after every call, and publish the same texts. -/
theorem run_translates :
    (∀ d d' : Document, d.resolved = d'.resolved →
      (∀ e : Edit, (d.edit e).map Document.resolved = (d'.edit e).map Document.resolved) ∧
      (∀ b, (d.merge b).1 = (d'.merge b).1) ∧ ∀ format, d.render format = d'.render format) ∧
    (∀ v w v' w' : Wording Id, v.resolved = v'.resolved → w.resolved = w'.resolved →
      v.same w = v'.same w') ∧
    ∀ (catalog : Catalog) (settings settings' : Settings) (calls calls' : List Call),
      List.Forall₂ (fun c c' => c.request = c'.request ∧ c.source = c'.source ∧
        settings.Translates catalog c.files settings' c'.files) calls calls' →
      (({ settings } : Pipeline).run calls).1.map (·.2.seenBy Document.resolved) =
        (({ settings := settings' } : Pipeline).run calls').1.map (·.2.seenBy Document.resolved) ∧
      (({ settings } : Pipeline).run calls).2.assembled.map Document.resolved =
        (({ settings := settings' } : Pipeline).run calls').2.assembled.map Document.resolved ∧
      ∀ source files files' release, settings.Translates catalog files settings' files' →
        ((({ settings } : Pipeline).run calls).2.finalize source files release).map
            (fun d => (d.resolved, d.render .json, d.render .yaml)) =
          ((({ settings := settings' } : Pipeline).run calls').2.finalize source files' release).map
            fun d => (d.resolved, d.render .json, d.render .yaml) := by
  refine ⟨fun d d' h => ⟨Document.edit_congr h, Document.respects_resolved.merge_fst h,
    Document.render_congr h⟩, fun v w v' w' hv hw => ?_, ?_⟩
  · rw [Wording.same_eq, Wording.same_eq, Wording.resolved_eq_iff.1 hv, Wording.resolved_eq_iff.1 hw]
  intro catalog settings settings' calls calls' h
  have hcalls : List.Forall₂ (Call.Twin Document.resolved settings settings') calls calls' := by
    refine h.imp fun c c' hc => ?_
    obtain ⟨hrequest, hsource, hfiles⟩ := hc
    exact ⟨hrequest, hsource ▸ Document.resolved_assemble hfiles c.source⟩
  obtain ⟨hanswers, htwin⟩ := twin_run Document.respects_resolved hcalls
    (twin_start Document.resolved settings settings')
  refine ⟨hanswers, htwin.assembled, fun source files files' release hfiles => ?_⟩
  obtain ⟨f, hf, hf'⟩ | ⟨d, d', hd, hfinal, hfinal'⟩ :=
    htwin.finalize_cases (Document.resolved_assemble hfiles source) release
  · rw [hf, hf']
  · rw [hfinal, hfinal']
    -- finalizing is an edit, so both fail alike or end in documents with the same texts
    have hedit := Document.edit_congr hd (.release release)
    obtain ⟨f, hf, hf'⟩ | ⟨e, e', he, he', heq⟩ := cases_of_map_eq hedit
    · rw [Document.edit] at hf hf'
      rw [hf, hf']
    · rw [Document.edit] at he he'
      rw [he, he']
      simp only [Except.map, heq, Document.render_congr heq]

/-! ### A description translated late and early -/

def aboutCatalog : Catalog := ⟨.ofList [("jobs.about", "Running \"things\"")]⟩

/-- Templates whose configured category has a description. -/
def aboutTemplates (description : String) : FileTree := ⟨.ofList [
  ("templates", .directory),
  ("templates/config.yml",
    .file (.text ("categories:\n  - name: Jobs\n    description: " ++ description ++ "\n")))]⟩

def aboutConfig (description : String) : TagConfig := ⟨[⟨"Jobs", some description⟩]⟩

def lateSettings : Settings := { Settings.ofTemplates "templates" with catalog := some aboutCatalog }

def lateTemplates : FileTree := aboutTemplates "jobs.about"

def earlyTemplates : FileTree := aboutTemplates "Running \"things\""

theorem translates_about :
    lateSettings.Translates aboutCatalog lateTemplates (.ofTemplates "templates") earlyTemplates where
  late := rfl
  early := rfl
  version := rfl
  description := by
    have hlate : lateTemplates.present? lateSettings.descriptionFile = none := by decide +kernel
    have hearly : earlyTemplates.present? (Settings.ofTemplates "templates").descriptionFile =
        none := by decide +kernel
    rw [Settings.description?, Settings.description?, hlate, hearly]
  config := by
    have hlate : (lateSettings.tagConfig? lateTemplates).toOption =
        some (some (aboutConfig "jobs.about")) := by decide +kernel
    have hearly : ((Settings.ofTemplates "templates").tagConfig? earlyTemplates).toOption =
        some (some ((aboutConfig "jobs.about").translated aboutCatalog)) := by decide +kernel
    rw [toOption_eq_some_iff] at hlate hearly
    rw [hlate, hearly]
    rfl

/-- The document is asked for, and a batch hits it. -/
def aboutCalls (files : FileTree) : List Call := [
  ⟨.document, Document.jobsSource, files⟩,
  ⟨.merge (.recordAll .empty [
    ("/api/v2/jobs/", { method := "post", status := 201, contentType := "text/plain",
                        response := "made", request := some (.int 7) })]),
    Document.jobsSource, files⟩]

theorem run_translates_about :
    let late : Pipeline := { settings := lateSettings }
    let early : Pipeline := { settings := .ofTemplates "templates" }
    List.Forall₂ (fun c c' => c.request = c'.request ∧ c.source = c'.source ∧
        lateSettings.Translates aboutCatalog c.files (.ofTemplates "templates") c'.files)
      (aboutCalls lateTemplates) (aboutCalls earlyTemplates) ∧
    (late.run (aboutCalls lateTemplates)).1.map (·.2.seenBy Document.resolved) =
      (early.run (aboutCalls earlyTemplates)).1.map (·.2.seenBy Document.resolved) ∧
    ((late.run (aboutCalls lateTemplates)).2.finalize Document.jobsSource lateTemplates "4.2").map
        (fun d => (d.resolved, d.render .json, d.render .yaml)) =
      ((early.run (aboutCalls earlyTemplates)).2.finalize Document.jobsSource earlyTemplates
        "4.2").map fun d => (d.resolved, d.render .json, d.render .yaml) := by
  intro late early
  have hcalls : List.Forall₂ (fun c c' => c.request = c'.request ∧ c.source = c'.source ∧
      lateSettings.Translates aboutCatalog c.files (.ofTemplates "templates") c'.files)
      (aboutCalls lateTemplates) (aboutCalls earlyTemplates) :=
    .cons ⟨rfl, rfl, translates_about⟩ (.cons ⟨rfl, rfl, translates_about⟩ .nil)
  obtain ⟨hanswers, -, hfinal⟩ := run_translates.2.2 aboutCatalog _ _ _ _ hcalls
  exact ⟨hcalls, hanswers, hfinal _ _ _ "4.2" translates_about⟩

end Pipeline

end SwaggerPress
