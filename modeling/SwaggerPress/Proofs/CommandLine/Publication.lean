import SwaggerPress.CommandLine.Run
import SwaggerPress.Proofs.FileTree.Writing
import SwaggerPress.Proofs.Pipeline.Run

/-!
    What a run of the command leaves behind. The text is prepared from the files as they are at the
    start: the catalog, the assembly, the batches one after another and the release all have to
    succeed, and none of them writes (`prepare_eq_ok_iff`). Only then the output is written, in one
    step that nothing but the tree can refuse (`writeAtomically`); so a run either publishes the
    document or leaves every file as it was (`run_publishes_or_keeps`).

        catalog ─▶ assemble ─▶ merge b₁ … merge bₙ ─▶ finalize ─▶ render ─▶ write
           ✗          ✗           ✗          ✗           ✗                    ✗
          tree       tree        tree       tree        tree          new directories -/

namespace SwaggerPress

/-- With a document, a batch is merged into it. -/
theorem Pipeline.merge_of_assembled {p : Pipeline} {d : Document} (hp : p.assembled = some d)
    (source : Source) (t : FileTree) (b : Batch) :
    p.merge source t b = ((d.merge b).1, { p with assembled := some (d.merge b).2 }) := by
  simp only [merge, document_of_assembled hp]

namespace CommandLine

theorem during_eq_ok_iff {α : Type} {stage : Stage} {x : Except Failure α} {a : α} :
    during stage x = .ok a ↔ x = .ok a :=
  mapError_eq_ok_iff

namespace Arguments

/-- The text is what the arguments publish from the files. The raw schema, the deprecated templates
and the customizations are those of the files they name; the document is assembled for their version,
with what their templates directory and their catalog add; their examples are merged in their order;
and it is their release that is published, in their format. -/
def Prepares (a : Arguments) (t : FileTree) (text : String) : Prop :=
  let files : SourceFiles :=
    { schema := a.schema, deprecated := a.deprecated, customizations := a.customizations }
  ∃ catalog assembled batches published,
    Option.Rel (fun path c => Catalog.load t path = .ok c) a.catalog catalog ∧
    Document.assemble (files.source t)
      { version := a.version
        descriptionFile := a.templates.map fun directory => FileTree.join directory "description.md"
        tagConfigFile := a.templates.map fun directory => FileTree.join directory "config.yml"
        catalog } t = .ok assembled ∧
    List.Forall₂ (fun path b => Batch.ofFile t path = .ok b) a.examples batches ∧
    (∀ r ∈ (assembled.mergeAll batches).1, r.isOk) ∧
    (assembled.mergeAll batches).2.finalize a.release = .ok published ∧
    text = match a.format with
      | .json => published.encode.pretty
      | .yaml => Yaml.print published.encode

variable {a : Arguments} {t : FileTree}

/-- Files of examples are merged if each can be read and each is accepted. -/
theorem mergeFiles_eq_ok_iff {source : Source} : ∀ {paths : List String} {p p' : Pipeline}
    {d : Document}, p.assembled = some d → (mergeFiles source t p paths = .ok p' ↔
      ∃ batches, List.Forall₂ (fun path b => Batch.ofFile t path = .ok b) paths batches ∧
        (∀ r ∈ (d.mergeAll batches).1, r.isOk) ∧
        p' = { p with assembled := some (d.mergeAll batches).2 })
  | [], ⟨settings, _⟩, p', d, hp => by
    cases hp
    constructor
    · rintro ⟨⟩
      exact ⟨[], .nil, fun r hr => absurd hr List.not_mem_nil, rfl⟩
    · rintro ⟨-, ⟨⟩, -, rfl⟩
      rfl
  | path :: rest, p, p', d, hp => by
    simp only [mergeFiles, bind_eq_ok_iff, during_eq_ok_iff, Pipeline.merge_of_assembled hp,
      List.forall₂_cons_left_iff]
    constructor
    · rintro ⟨b, hb, h⟩
      -- a refused batch ends the run, an accepted one is what the rest goes on from
      cases hmerge : (d.merge b).1 with
      | error f => rw [hmerge] at h; cases h
      | ok r =>
        rw [hmerge] at h
        obtain ⟨bs, hbs, hok, rfl⟩ := (mergeFiles_eq_ok_iff rfl).1 h
        refine ⟨b :: bs, ⟨b, bs, hb, hbs, rfl⟩, ?_, rfl⟩
        simp only [Document.mergeAll, List.forall_mem_cons, hmerge]
        exact ⟨rfl, hok⟩
    · rintro ⟨-, ⟨b, bs, hb, hbs, rfl⟩, hok, rfl⟩
      simp only [Document.mergeAll, List.forall_mem_cons] at hok
      refine ⟨b, hb, ?_⟩
      cases hmerge : (d.merge b).1 with
      | error f => rw [hmerge] at hok; cases hok.1
      | ok r => exact (mergeFiles_eq_ok_iff rfl).2 ⟨bs, hbs, hok.2, rfl⟩

/-- With the catalog at hand, the steps of the preparation come to a text. -/
theorem publish_eq_ok_iff {source : Source} {settings : Settings} {text : String} :
    (do
      let _ ← during .assembly (({ settings } : Pipeline).document source t)
      let p ← mergeFiles source t (({ settings } : Pipeline).access source t) a.examples
      let d ← during .release (p.finalize source t a.release)
      return d.render a.format) = .ok text ↔
    ∃ assembled batches published, Document.assemble source settings t = .ok assembled ∧
      List.Forall₂ (fun path b => Batch.ofFile t path = .ok b) a.examples batches ∧
      (∀ r ∈ (assembled.mergeAll batches).1, r.isOk) ∧
      (assembled.mergeAll batches).2.finalize a.release = .ok published ∧
      text = published.render a.format := by
  simp only [bind_eq_ok_iff, during_eq_ok_iff, pure, Except.pure, Except.ok.injEq]
  constructor
  · rintro ⟨assembled, hassembled, p, hmerge, published, hpublished, rfl⟩
    rw [Pipeline.access, hassembled] at hmerge
    obtain ⟨batches, hbatches, hok, rfl⟩ := (mergeFiles_eq_ok_iff rfl).1 hmerge
    exact ⟨assembled, batches, published, hassembled, hbatches, hok, hpublished, rfl⟩
  · rintro ⟨assembled, batches, published, hassembled, hbatches, hok, hpublished, rfl⟩
    have hmerge : mergeFiles source t { settings, assembled := some assembled } a.examples =
        .ok { settings, assembled := some (assembled.mergeAll batches).2 } :=
      (mergeFiles_eq_ok_iff rfl).2 ⟨batches, hbatches, hok, rfl⟩
    rw [Pipeline.access, Pipeline.document, hassembled]
    exact ⟨assembled, rfl, _, hmerge, published, hpublished, rfl⟩

/-- The templates directory, if one is given, has both files under their usual names. -/
theorem settings_eq (catalog : Option Catalog) : ({ a.settings with catalog } : Settings) =
    { version := a.version
      descriptionFile := a.templates.map fun directory => FileTree.join directory "description.md"
      tagConfigFile := a.templates.map fun directory => FileTree.join directory "config.yml"
      catalog } := by
  unfold settings
  cases a.templates <;> rfl

theorem prepare_eq_ok_iff {text : String} : a.prepare t = .ok text ↔ a.Prepares t text := by
  unfold prepare Prepares
  simp only [← settings_eq]
  cases a.catalog with
  | none =>
    refine publish_eq_ok_iff.trans ?_
    constructor
    · rintro ⟨assembled, batches, published, h⟩
      exact ⟨none, assembled, batches, published, .none, h⟩
    · rintro ⟨_, assembled, batches, published, ⟨⟩, h⟩
      exact ⟨assembled, batches, published, h⟩
  | some path =>
    refine bind_eq_ok_iff.trans ?_
    constructor
    · rintro ⟨_, hload, h⟩
      obtain ⟨c, hc, rfl⟩ := map_eq_ok_iff.1 hload
      obtain ⟨assembled, batches, published, h⟩ := publish_eq_ok_iff.1 h
      exact ⟨some c, assembled, batches, published, .some (during_eq_ok_iff.1 hc), h⟩
    · rintro ⟨_, assembled, batches, published, hcatalog, h⟩
      cases hcatalog with
      | some hc =>
        refine ⟨_, map_eq_ok_iff.2 ⟨_, during_eq_ok_iff.2 hc, rfl⟩, ?_⟩
        exact publish_eq_ok_iff.2 ⟨assembled, batches, published, h⟩

/-- A run that cannot prepare a text ends before anything is written. -/
theorem run_of_not_prepares (h : ¬ ∃ text, a.Prepares t text) : ∃ f, a.run t = (some f, t) := by
  cases hprepare : a.prepare t with
  | ok text => exact absurd ⟨text, prepare_eq_ok_iff.1 hprepare⟩ h
  | error f => exact ⟨f, by rw [run, hprepare]⟩

/-- A run with a text ends with writing it. -/
theorem run_of_prepares {text : String} (h : a.Prepares t text) :
    ((a.run t).1 = none ↔ (t.writeAtomically a.output text).1 = none) ∧
      (a.run t).2 = (t.writeAtomically a.output text).2 := by
  rcases hwrite : t.writeAtomically a.output text with ⟨_ | fault, t'⟩ <;>
    simp [run, prepare_eq_ok_iff.2 h, hwrite]

/-- A run succeeds exactly if every step does, and then the output is what the steps come to, and no
other file has changed. If a step before the write fails, nothing has changed at all. -/
theorem run_publishes_or_keeps (a : Arguments) (t : FileTree) :
    ((a.run t).1 = none ↔
      ∃ text, a.Prepares t text ∧ (t.writeAtomically a.output text).1 = none) ∧
    (∀ text, a.Prepares t text → (a.run t).1 = none →
      ∃ at_, t.Written a.output text at_ (a.run t).2) ∧
    ((¬ ∃ text, a.Prepares t text) → (a.run t).2 = t) ∧
    ((a.run t).1 ≠ none → t.Grows (a.run t).2) := by
  refine ⟨⟨fun h => ?_, ?_⟩, fun text htext h => ?_, fun hnone => ?_, fun h => ?_⟩
  · by_cases hprepares : ∃ text, a.Prepares t text
    · obtain ⟨text, htext⟩ := hprepares
      exact ⟨text, htext, (run_of_prepares htext).1.1 h⟩
    · obtain ⟨f, hrun⟩ := run_of_not_prepares hprepares
      rw [hrun] at h
      cases h
  · rintro ⟨text, htext, hwrite⟩
    exact (run_of_prepares htext).1.2 hwrite
  · obtain ⟨hsuccess, htree⟩ := run_of_prepares htext
    rw [htree]
    exact FileTree.written_of_writeAtomically (Prod.ext (hsuccess.1 h) rfl)
  · obtain ⟨f, hrun⟩ := run_of_not_prepares hnone
    rw [hrun]
  · by_cases hprepares : ∃ text, a.Prepares t text
    · obtain ⟨text, htext⟩ := hprepares
      obtain ⟨hsuccess, htree⟩ := run_of_prepares htext
      rw [ne_eq, hsuccess] at h
      obtain ⟨fault, hfault⟩ := Option.ne_none_iff_exists'.1 h
      rw [htree]
      exact FileTree.grows_of_writeAtomically (Prod.ext hfault rfl)
    · obtain ⟨f, hrun⟩ := run_of_not_prepares hprepares
      rw [hrun]
      exact .refl t

/-! ### A run with every option -/

def jobsArguments : Arguments where
  schema := "raw.json"
  release := "3.3.0"
  deprecated := some "deprecated.json"
  customizations := some "custom.json"
  templates := some "templates"
  version := "v3"
  examples := ["jobs.json", "more.json"]
  catalog := some "de.yml"
  output := "out/swagger.yaml"
  format := .yaml
  verbose := false

/-- There is a document at the output already, and `broken.json` holds no examples. -/
def jobsFiles : FileTree := ⟨.ofList [
  ("raw.json", .file (.text
    "\x7b\"paths\":\x7b\"/api/\x7bversion\x7d/jobs/\":\x7b\"get\":\x7b\x7d\x7d\x7d\x7d")),
  ("deprecated.json", .file (.text "[\"/api/\x7bversion\x7d/jobs/\"]")),
  ("custom.json", .file (.text "\x7b\"tags\":[],\"basePath\":\"/tower\"\x7d")),
  ("templates", .directory),
  ("templates/config.yml", .file (.text
    "categories:\n  - name: Jobs\n    description: Running\n")),
  ("templates/description.md", .file (.text "Runs jobs")),
  ("de.yml", .file (.text "Running: Laufend\n")),
  ("jobs.json", .file (.text
    "\x7b\"/api/v3/jobs/\":[[\"get\",200,\"text/plain\",\"two\"]]\x7d")),
  ("more.json", .file (.text
    "\x7b\"/api/v3/jobs/\":[[\"get\",200,\"text/plain\",\"three\"]]\x7d")),
  ("broken.json", .file (.text "[")),
  ("out", .directory),
  ("out/swagger.yaml", .file (.text "info: of an earlier run\n"))]⟩

/-- What the run publishes. Every option shows in it: the version in the path, the deprecation, the
base path, the tag with its translation, the description, the release, and the example of the second
file in place of the one of the first. -/
def jobsPublished : String := "\n".intercalate [
  "info:",
  "  title: ''",
  "  version: 3.3.0",
  "  description: Runs jobs",
  "host: null",
  "schemes:",
  "- https",
  "consumes:",
  "- application/json",
  "tags:",
  "- name: Jobs",
  "  description: Laufend",
  "paths:",
  "  /api/v3/jobs/:",
  "    get:",
  "      parameters: []",
  "      responses:",
  "        '200':",
  "          description: ''",
  "          examples:",
  "            text/plain: three",
  "      produces:",
  "      - text/plain",
  "      deprecated: true",
  "basePath: /tower",
  ""]

/-- The run with a third file of examples, which cannot be read as one. -/
def brokenArguments : Arguments :=
  { jobsArguments with examples := ["jobs.json", "more.json", "broken.json"] }

theorem run_publishes_or_keeps_jobs :
    (jobsArguments.Prepares jobsFiles jobsPublished ∧
      ∃ at_, jobsFiles.Written "out/swagger.yaml" jobsPublished at_
        (jobsArguments.run jobsFiles).2) ∧
    (brokenArguments.run jobsFiles).1 ≠ none ∧ (brokenArguments.run jobsFiles).2 = jobsFiles := by
  have hprepares : jobsArguments.Prepares jobsFiles jobsPublished := by
    have htext : (jobsArguments.prepare jobsFiles).toOption = some jobsPublished := by
      decide +kernel
    exact prepare_eq_ok_iff.1 (toOption_eq_some_iff.1 htext)
  have hwrite : (jobsFiles.writeAtomically "out/swagger.yaml" jobsPublished).1 = none := by
    decide +kernel
  have hbroken : ¬ ∃ text, brokenArguments.Prepares jobsFiles text := by
    rintro ⟨text, htext⟩
    have hfails : (brokenArguments.prepare jobsFiles).isOk = false := by decide +kernel
    rw [prepare_eq_ok_iff.2 htext] at hfails
    cases hfails
  obtain ⟨hsucceeds, hwritten, -⟩ := run_publishes_or_keeps jobsArguments jobsFiles
  obtain ⟨hsucceeds', -, hkeeps, -⟩ := run_publishes_or_keeps brokenArguments jobsFiles
  have hrun : (jobsArguments.run jobsFiles).1 = none :=
    hsucceeds.2 ⟨jobsPublished, hprepares, hwrite⟩
  refine ⟨⟨hprepares, hwritten _ hprepares hrun⟩, fun hnone => ?_, hkeeps hbroken⟩
  obtain ⟨text, htext, -⟩ := hsucceeds'.1 hnone
  exact hbroken ⟨text, htext⟩

end Arguments

end CommandLine

end SwaggerPress
