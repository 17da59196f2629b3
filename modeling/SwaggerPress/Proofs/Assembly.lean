import SwaggerPress.Proofs.Outcome
import SwaggerPress.Proofs.Resolution

/-!
    Where everything in an assembled document comes from. Assembling succeeds if each of its steps
    does, and then the document is the normalized raw schema (`assemble_eq_ok_iff`). Every path has
    the operations of the one template that is kept for it, method by method (`operation?_normalize`),
    and of an operation only the summary, the description and the deprecation are rewritten
    (`summarized_eq`, `get?_mark`). So nothing is lost and nothing made up (`assemble_stems`):

        raw schema + customizations          document
        /api/{version}/jobs/  get post  ─▶   /api/v2/jobs/  get post     the last that becomes it
        /api/v2/jobs/         get       ─    (no other)
        tags  t₁ t₂                     ─▶   tags  t₁ t₂ c₁ c₂           c: the configured categories
        info, extra                     ─▶   info, extra                 but for its description -/

namespace SwaggerPress

/-- An operation of a document stems from one of the raw schema: what is written about it and whether
it is deprecated may differ, and it has lost the parameter for the version. -/
structure Operation.StemsFrom (o raw : Operation) : Prop where
  responses : o.responses = raw.responses
  produces : o.produces = raw.produces
  extra : o.extra = raw.extra
  parameters : o.parameters = raw.parameters.filter fun p =>
    ¬ (p.location = .path ∧ p.name = "version")

/-- The raw schema of a source, with the customizations laid over it. -/
def Source.Provides (source : Source) (raw : Json) : Prop :=
  ∃ schema customizations, source.schema = .ok schema ∧
    source.customizations = .ok customizations ∧ raw = schema.overlay customizations

namespace Settings

/-- The configured categories: those of the tag configuration if the file is there, and else none. -/
def Configures (s : Settings) (t : FileTree) (categories : List TagCategory) : Prop :=
  match t.present? s.tagConfigFile with
  | some path => ∃ text config, t.readText path = .ok text ∧ TagConfig.parse text = .ok config ∧
      categories = config.categories
  | none => categories = []

/-- The description of the document: the text of the description file if it is there, and else the
one of the raw schema. -/
def Describes (s : Settings) (t : FileTree) (raw description : Option (Wording Id)) : Prop :=
  match t.present? s.descriptionFile with
  | some path => ∃ text, t.readText path = .ok text ∧ description = some (.plain text)
  | none => description = raw

end Settings

/-- A tag presents a configured category: it has its name and its description, which is the id of a
message if there is a catalog to translate it. -/
structure Tag.Presents (tag : Tag) (category : TagCategory) (catalog : Option Catalog) : Prop where
  name : tag.name = category.name
  description : tag.description = category.description.map fun text =>
    match catalog with
    | some catalog => .lazy text catalog.translate
    | none => .plain text
  extra : tag.extra = .empty

/-- A document has been assembled from a raw schema. -/
structure Document.StemsFrom (d raw : Document) (settings : Settings) (t : FileTree) : Prop where
  paths : ∀ path, path ∈ d.paths.keys ↔
    ∃! template, raw.paths.KeptFor settings.version path template
  /-- Under each method either both have an operation or neither. -/
  operations : ∀ path template, raw.paths.KeptFor settings.version path template → ∀ method,
    Option.Rel Operation.StemsFrom (d.operation? path method) (raw.operation? template method)
  extra : d.extra = raw.extra
  title : d.info.title = raw.info.title
  version : d.info.version = raw.info.version
  infoExtra : d.info.extra = raw.info.extra
  tags : ∃ categories configured, settings.Configures t categories ∧
    d.tags = raw.tags ++ configured ∧
    List.Forall₂ (fun tag category => tag.Presents category settings.catalog) configured categories
  description : settings.Describes t raw.info.description d.info.description

/-! ### The steps of an assembly -/

namespace FileTree

variable {t : FileTree} {path : String}

theorem readConfiguration_eq_ok_iff {text : String} :
    t.readConfiguration path = .ok text ↔ t.readText path = .ok text :=
  mapError_eq_ok_iff

end FileTree

namespace Settings

variable {s : Settings} {t : FileTree}

theorem configures_of_tagConfig? {config : Option TagConfig} (h : s.tagConfig? t = .ok config) :
    s.Configures t ((config.map (·.categories)).getD []) := by
  unfold tagConfig? at h
  unfold Configures
  cases hpath : t.present? s.tagConfigFile with
  | none =>
    rw [hpath] at h
    cases h
    rfl
  | some path =>
    simp only [hpath, bind_eq_ok_iff, FileTree.readConfiguration_eq_ok_iff] at h
    obtain ⟨text, htext, h⟩ := h
    obtain ⟨config, hparse, rfl⟩ := map_eq_ok_iff.1 h
    exact ⟨text, config, htext, mapError_eq_ok_iff.1 hparse, rfl⟩

theorem describes_of_description? {description : Option String} (raw : Option (Wording Id))
    (h : s.description? t = .ok description) :
    s.Describes t raw (description.elim raw fun text => some (.plain text)) := by
  unfold description? at h
  unfold Describes
  cases hpath : t.present? s.descriptionFile with
  | none =>
    rw [hpath] at h
    cases h
    rfl
  | some path =>
    simp only [hpath] at h
    obtain ⟨text, htext, rfl⟩ := map_eq_ok_iff.1 h
    exact ⟨text, FileTree.readConfiguration_eq_ok_iff.1 htext, rfl⟩

end Settings

namespace Operation

/-- Summarizing rewrites the summary and the description only. -/
theorem summarized_eq (o : Operation) :
    ∃ summary description, o.summarized = { o with summary, description } := by
  unfold summarized
  cases o.description with
  | none => exact ⟨_, _, rfl⟩
  | some w =>
    by_cases h : w.text = ""
    · exact ⟨_, _, if_pos h⟩
    · exact ⟨_, _, if_neg h⟩

theorem stemsFrom_normalized (o : Operation) (deprecated : Bool) :
    ({ o with deprecated } : Operation).summarized.withoutVersion.StemsFrom o := by
  obtain ⟨summary, description, heq⟩ := summarized_eq { o with deprecated }
  rw [heq]
  refine ⟨rfl, rfl, rfl, ?_⟩
  rw [withoutVersion]
  refine List.filter_congr fun p _ => ?_
  simp [Parameter.isVersion]

end Operation

theorem TagCategory.presents_tag (category : TagCategory) (catalog : Option Catalog) :
    (category.tag catalog).Presents category catalog where
  name := rfl
  description := by cases catalog <;> rfl
  extra := rfl

namespace Document

variable {d : Document} {description : Option String} {config : Option TagConfig}
  {settings : Settings} {deprecated : Deprecations}

/-- What normalizing makes of each field. -/
theorem normalize_eq : d.normalize description config settings deprecated =
    { d with
      info := { d.info with
        description := description.elim d.info.description fun text => some (.plain text) }
      host := none
      schemes := [secureScheme]
      consumes := [jsonMediaType]
      tags := d.tags ++ ((config.map (·.categories)).getD []).map (·.tag settings.catalog)
      paths := (d.paths.resolve settings.version deprecated).map fun item =>
        item.map fun o => o.summarized.withoutVersion } := by
  cases description <;> cases config <;>
    simp [normalize, withStaticFields, withDescription, withTags, resolvePaths, mapOperations]

/-- A path has the normalized operations of the template that is kept for it. -/
theorem operation?_normalize {path template : String}
    (h : d.paths.KeptFor settings.version path template) (method : String) :
    (d.normalize description config settings deprecated).operation? path method =
      (d.operation? template method).map fun o =>
        ({ o with deprecated := o.deprecated || deprecated.contains template } :
          Operation).summarized.withoutVersion := by
  obtain ⟨original, horiginal⟩ := SortedMap.mem_keys_iff.1 h.listed
  rw [operation?, operation?, normalize_eq, SortedMap.get?_map,
    Paths.get?_resolve_of_keptFor h horiginal, horiginal, Option.map_some, Option.bind_some,
    Option.bind_some, SortedMap.get?_map, PathItem.get?_mark, Option.map_map]
  rfl

theorem mem_keys_normalize {path : String} :
    path ∈ (d.normalize description config settings deprecated).paths.keys ↔
      ∃ template, d.paths.KeptFor settings.version path template := by
  rw [normalize_eq, SortedMap.map, SortedMap.keys_mapWithKey, Paths.mem_keys_resolve_iff_keptFor]

/-- Every operation stems from one of the raw schema, under a template for its path. -/
theorem exists_stemsFrom_of_normalize {path method : String} {o : Operation}
    (h : (d.normalize description config settings deprecated).operation? path method = some o) :
    ∃ template raw, PathTemplate.withVersion settings.version template = path ∧
      d.operation? template method = some raw ∧ o.StemsFrom raw := by
  obtain ⟨item, hitem, -⟩ := Option.bind_eq_some_iff.1 h
  obtain ⟨template, hkept⟩ := mem_keys_normalize.1 (SortedMap.mem_keys_iff.2 ⟨item, hitem⟩)
  rw [operation?_normalize hkept, Option.map_eq_some_iff] at h
  obtain ⟨raw, hraw, rfl⟩ := h
  exact ⟨template, raw, hkept.becomes, hraw, raw.stemsFrom_normalized _⟩

/-- A document is assembled if every step succeeds, and then it is the normalized raw schema. -/
theorem assemble_eq_ok_iff {source : Source} {t : FileTree} {d : Document} :
    assemble source settings t = .ok d ↔
      ∃ schema deprecated customizations raw description config,
        source.schema = .ok schema ∧ source.deprecated = .ok deprecated ∧
        source.customizations = .ok customizations ∧
        ofRaw (schema.overlay customizations) = .ok raw ∧
        settings.description? t = .ok description ∧ settings.tagConfig? t = .ok config ∧
        raw.normalize description config settings deprecated = d := by
  simp only [assemble, bind_eq_ok_iff, mapError_eq_ok_iff, pure, Except.pure, Except.ok.injEq]
  constructor
  · rintro ⟨schema, hs, deprecated, hd, customizations, hc, raw, hraw, description, hdesc, config,
      hconfig, rfl⟩
    exact ⟨schema, deprecated, customizations, raw, description, config, hs, hd, hc, hraw, hdesc,
      hconfig, rfl⟩
  · rintro ⟨schema, deprecated, customizations, raw, description, config, hs, hd, hc, hraw, hdesc,
      hconfig, rfl⟩
    exact ⟨schema, hs, deprecated, hd, customizations, hc, raw, hraw, description, hdesc, config,
      hconfig, rfl⟩

theorem stemsFrom_normalize {t : FileTree} (hdescription : settings.description? t = .ok description)
    (hconfig : settings.tagConfig? t = .ok config) :
    (d.normalize description config settings deprecated).StemsFrom d settings t where
  paths path := by
    rw [mem_keys_normalize]
    constructor
    · rintro ⟨template, hkept⟩
      exact ⟨template, hkept, fun other hother => hother.unique hkept⟩
    · rintro ⟨template, hkept, -⟩
      exact ⟨template, hkept⟩
  operations path template hkept method := by
    rw [operation?_normalize hkept]
    cases d.operation? template method with
    | none => exact .none
    | some o => exact .some (o.stemsFrom_normalized _)
  extra := by rw [normalize_eq]
  title := by rw [normalize_eq]
  version := by rw [normalize_eq]
  infoExtra := by rw [normalize_eq]
  tags := by
    refine ⟨_, _, Settings.configures_of_tagConfig? hconfig, by rw [normalize_eq], ?_⟩
    rw [List.forall₂_map_left_iff, List.forall₂_same]
    exact fun category _ => category.presents_tag settings.catalog
  description := by
    rw [normalize_eq]
    exact Settings.describes_of_description? _ hdescription

/-- An assembled document is made of what the customized raw schema holds and the settings add. -/
theorem assemble_stems {source : Source} {settings : Settings} {t : FileTree} {d : Document}
    (h : assemble source settings t = .ok d) :
    ∃ schema raw, source.Provides schema ∧ ofRaw schema = .ok raw ∧ d.StemsFrom raw settings t := by
  obtain ⟨schema, deprecated, customizations, raw, description, config, hs, -, hc, hraw, hdesc,
    hconfig, rfl⟩ := assemble_eq_ok_iff.1 h
  exact ⟨schema.overlay customizations, raw, ⟨schema, customizations, hs, hc, rfl⟩, hraw,
    stemsFrom_normalize hdesc hconfig⟩

/-! ### Two templates for one path -/

/-- The operation under `get` is there twice, for the version and for any version. -/
def jobsApi : Json := .obj [
  ("paths", .obj [
    ("/api/v2/jobs/", .obj [("get", .obj [])]),
    ("/api/\x7bversion\x7d/jobs/", .obj [
      ("get", .obj [
        ("description", .str "# Jobs\nAll of them."),
        ("parameters", .arr [
          .obj [("in", .str "path"), ("name", .str "version")],
          .obj [("in", .str "query"), ("name", .str "page")]])]),
      ("post", .obj [("produces", .arr [.str "text/csv"])])])])]

def jobsSource : Source where
  schema := .ok jobsApi
  deprecated := .ok ⟨["/api/v2/jobs/"]⟩
  customizations := .ok (some (.ofList [("tags", .arr [.obj [("name", .str "Jobs")]])]))

def jobsTemplates : FileTree := ⟨.ofList [
  ("templates", .directory),
  ("templates/config.yml", .file (.text "categories:\n  - name: Jobs\n")),
  ("templates/description.md", .file (.text "Running things"))]⟩

theorem assemble_stems_jobs :
    ∃ d, assemble jobsSource (.ofTemplates "templates") jobsTemplates = .ok d ∧
      ∃ schema raw, jobsSource.Provides schema ∧ ofRaw schema = .ok raw ∧
        d.StemsFrom raw (.ofTemplates "templates") jobsTemplates := by
  have hok : (assemble jobsSource (.ofTemplates "templates") jobsTemplates).isOk := by
    decide +kernel
  cases hd : assemble jobsSource (.ofTemplates "templates") jobsTemplates with
  | error f => rw [hd] at hok; cases hok
  | ok d => exact ⟨d, rfl, assemble_stems hd⟩

end Document

end SwaggerPress
