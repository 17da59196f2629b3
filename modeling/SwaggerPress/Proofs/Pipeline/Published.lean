import SwaggerPress.Proofs.Assembly
import SwaggerPress.Proofs.Document.Place
import SwaggerPress.Proofs.Merge.Frame
import SwaggerPress.Proofs.Pipeline.Run

/-!
    What every document of a pipeline is. Assembling makes the fields static, fills the version holes
    and drops the parameter for the version (`published_of_assemble`). A batch touches neither the
    fields nor the paths, it adds parameters in the body only, and of a page of HTML it keeps nothing
    (`Published.merge`); nor does finalizing undo anything of this. So it holds of every document
    that a run answers, has or finalizes (`run_published`):

        raw schema    host api.test    /api/{version}/jobs/    in path: version    text/html: old
        document      -                /api/v2/jobs/           -                   text/html: old
        + captures    -                /api/v2/jobs/           + in body: data     + text/plain: new

    An example of HTML is therefore one of the raw schema; and the raw schema is meant as it is
    decoded, with the customizations laid over it (`run_shows_page_of_customizations`). -/

namespace SwaggerPress

open PathTemplate (HasVersionHole BraceFree versionName withVersion)

/-- A document is fit to be published: on the host that serves it, over HTTPS, taking JSON, for one
version of the API, and with no page of HTML that is not one of the raw schema. -/
structure Document.Published (d : Document) (version : String) (raw : Json) : Prop where
  host : d.host = none
  schemes : d.schemes = ["https"]
  consumes : d.consumes = ["application/json"]
  paths : ∀ path ∈ d.paths.keys, ¬ HasVersionHole path
  parameters : ∀ path method o, d.operation? path method = some o →
    ∀ p ∈ o.parameters, ¬ (p.location = .path ∧ p.name = "version")
  pages : ∀ path method o, d.operation? path method = some o → ∀ status contentType v,
    "text/html".isPrefixOf contentType → o.exampleAt? status contentType = some v →
      ∃ template, withVersion version template = path ∧
        raw.Has ["paths", template, method, "responses", status, "examples", contentType] v

/-- A page of HTML is not kept. -/
theorem Capture.keptUnder?_of_html {contentType : String} (h : "text/html".isPrefixOf contentType)
    (status : String) (c : Capture) : c.keptUnder? status contentType = none := by
  rw [keptUnder?]
  by_cases hc : c.statusText = status ∧ c.contentType = contentType
  · rw [if_pos hc, kept?, if_pos (.inr (hc.2 ▸ h))]
  · rw [if_neg hc]

/-- Captures add no parameter but of the body. -/
theorem Operation.Shows.mem_parameters {o o' : Operation} {cs : List Capture} (h : o.Shows cs o')
    {p : Parameter} (hp : p ∈ o'.parameters) (hbody : p.location ≠ .body) : p ∈ o.parameters := by
  have hmem : p ∈ o'.bodyless := List.mem_filter.2 ⟨hp, by simpa using hbody⟩
  rw [h.bodyless] at hmem
  exact (List.mem_filter.1 hmem).1

namespace Document

variable {d d' : Document} {version : String} {raw : Json}

/-! ### Assembling -/

theorem published_normalize {description : Option String} {config : Option TagConfig}
    {settings : Settings} {deprecated : Deprecations}
    (hbrace : BraceFree settings.version.toList)
    (hocc : ¬ settings.version.toList <:+: versionName) (h : ofRaw raw = .ok d) :
    (d.normalize description config settings deprecated).Published settings.version raw where
  host := by rw [normalize_eq]
  schemes := by rw [normalize_eq]; rfl
  consumes := by rw [normalize_eq]; rfl
  paths path hpath := by
    obtain ⟨template, hkept⟩ := mem_keys_normalize.1 hpath
    rw [← hkept.becomes]
    exact PathTemplate.not_hasVersionHole_withVersion hbrace hocc template
  parameters path method o ho p hp := by
    obtain ⟨-, raw, -, -, hstems⟩ := exists_stemsFrom_of_normalize ho
    rw [hstems.parameters, List.mem_filter] at hp
    exact of_decide_eq_true hp.2
  pages path method o ho status contentType v _ hv := by
    obtain ⟨template, raw, hbecomes, hraw, hstems⟩ := exists_stemsFrom_of_normalize ho
    refine ⟨template, hbecomes, has_example h hraw ?_⟩
    rw [Operation.exampleAt?, ← hstems.responses]
    exact hv

theorem published_of_assemble {source : Source} {settings : Settings} {files : FileTree}
    (hbrace : BraceFree settings.version.toList)
    (hocc : ¬ settings.version.toList <:+: versionName)
    (h : assemble source settings files = .ok d) :
    ∃ raw, source.Provides raw ∧ d.Published settings.version raw := by
  obtain ⟨schema, deprecated, customizations, decoded, description, config, hschema, -,
    hcustomizations, hdecoded, -, -, rfl⟩ := assemble_eq_ok_iff.1 h
  exact ⟨_, ⟨schema, customizations, hschema, hcustomizations, rfl⟩,
    published_normalize hbrace hocc hdecoded⟩

/-! ### Merging and finalizing -/

theorem Published.merged (h : d.Published version raw) (b : Batch) :
    (d.merged b).Published version raw where
  host := h.host
  schemes := h.schemes
  consumes := h.consumes
  paths path hpath := by
    rw [Document.merged, pathsAfter, SortedMap.keys_mapWithKey] at hpath
    exact h.paths path hpath
  parameters path method o' ho' p hp := by
    rw [operation?_merged, Option.map_eq_some_iff] at ho'
    obtain ⟨o, ho, rfl⟩ := ho'
    rintro ⟨hlocation, hname⟩
    have hbody : p.location ≠ .body := by rw [hlocation]; decide
    exact h.parameters path method o ho p ((o.shows_withCaptures _).mem_parameters hp hbody)
      ⟨hlocation, hname⟩
  pages path method o' ho' status contentType v hhtml hv := by
    rw [operation?_merged, Option.map_eq_some_iff] at ho'
    obtain ⟨o, ho, rfl⟩ := ho'
    rw [(o.shows_withCaptures _).exampleAt? fun c _ => c.keptUnder?_of_html hhtml status] at hv
    exact h.pages path method o ho status contentType v hhtml hv

theorem Published.merge (h : d.Published version raw) (b : Batch) :
    (d.merge b).2.Published version raw := by
  rw [merge_snd]
  split
  · exact h.merged b
  · exact h

theorem Published.finalize {release : String} (h : d.Published version raw)
    (hd : d.finalize release = .ok d') : d'.Published version raw := by
  obtain ⟨-, -, rfl⟩ := finalize_eq_ok_iff.1 hd
  exact ⟨h.host, h.schemes, h.consumes, h.paths, h.parameters, h.pages⟩

end Document

/-! ### Runs -/

namespace Pipeline

variable {settings : Settings} {calls : List Call} {h : History} {p : Pipeline} {c : Call}
  {d d₀ : Document}

/-- The call that the document was assembled by: the first that needs it and can. -/
def assembler? (settings : Settings) (calls : List Call) : Option Call :=
  calls.find? fun c => (c.assembly? settings).isSome

/-- A document is fit to be published, with the raw schema that its assembly was given. -/
def PublishedBy (settings : Settings) (calls : List Call) (d : Document) : Prop :=
  ∃ c raw, assembler? settings calls = some c ∧ c.source.Provides raw ∧
    d.Published settings.version raw

theorem assembler?_of_firstAssembly? : ∀ {calls : List Call},
    firstAssembly? settings calls = some d₀ →
      ∃ c, assembler? settings calls = some c ∧ c.assembly? settings = some d₀
  | c :: calls, h => by
    rw [firstAssembly?, List.findSome?_cons] at h
    rw [assembler?, List.find?_cons]
    cases hc : c.assembly? settings with
    | some d =>
      rw [hc] at h
      exact ⟨c, rfl, hc.trans h⟩
    | none =>
      rw [hc] at h
      exact assembler?_of_firstAssembly? h

/-- The call that the document is assembled by assembles the first one. -/
theorem firstAssembly?_of_assembler? : ∀ {calls : List Call}, assembler? settings calls = some c →
    ∃ d₀, firstAssembly? settings calls = some d₀ ∧ c.assembly? settings = some d₀
  | c' :: calls, h => by
    rw [assembler?, List.find?_cons] at h
    rw [firstAssembly?, List.findSome?_cons]
    cases hc : c'.assembly? settings with
    | some d =>
      rw [hc] at h
      cases h
      exact ⟨d, rfl, hc⟩
    | none =>
      rw [hc] at h
      exact firstAssembly?_of_assembler? h

/-- What is called later does not matter to the document that is there. -/
theorem PublishedBy.append (h : PublishedBy settings calls d) (later : List Call) :
    PublishedBy settings (calls ++ later) d := by
  obtain ⟨c, raw, hc, hraw, hd⟩ := h
  exact ⟨c, raw, by rw [assembler?, List.find?_append, ← assembler?, hc, Option.some_or], hraw, hd⟩

theorem assemble_of_assembly? (h : c.assembly? settings = some d) :
    Document.assemble c.source settings c.files = .ok d := by
  rw [Call.assembly?] at h
  split at h
  · cases hd : Document.assemble c.source settings c.files with
    | error f => rw [hd] at h; cases h
    | ok d' => rw [hd] at h; cases h; rfl
  · cases h

/-- An answer of a run is the one to its call after the calls before. -/
theorem mem_run {a : Answer} : ∀ {calls : List Call} {p : Pipeline}, (c, a) ∈ (p.run calls).1 →
    ∃ before after, calls = before ++ c :: after ∧ a = ((p.run before).2.step c).1
  | [], _, h => absurd h List.not_mem_nil
  | c' :: calls, p, h => by
    have hrun : (p.run (c' :: calls)).1 = (c', (p.step c').1) :: ((p.step c').2.run calls).1 := rfl
    rw [hrun, List.mem_cons, Prod.mk.injEq] at h
    rcases h with ⟨rfl, rfl⟩ | h
    · exact ⟨[], calls, rfl, rfl⟩
    · obtain ⟨before, after, rfl, ha⟩ := mem_run h
      exact ⟨c' :: before, after, rfl, ha⟩

theorem answer_eq_document_iff {r : Request} {w : Bool} {x y : Except Failure Document} :
    r.answer w x = .document y ↔ r = .document ∧ x = y := by
  cases r <;> simp [Request.answer]

variable (hbrace : BraceFree settings.version.toList)
  (hocc : ¬ settings.version.toList <:+: versionName)
include hbrace hocc

/-- Whatever the accepted batches lead to from the first document. -/
theorem publishedBy_of_leads {accepted : List (Batch × MergeReport)}
    (hbase : h.base? settings = some d₀) (hleads : d₀.Leads accepted d) :
    PublishedBy settings (h.map (·.1)) d := by
  obtain ⟨c, hc, hassembly⟩ := assembler?_of_firstAssembly? hbase
  obtain ⟨raw, hraw, hd₀⟩ :=
    Document.published_of_assemble hbrace hocc (assemble_of_assembly? hassembly)
  refine ⟨c, raw, hc, hraw, ?_⟩
  exact hleads.invariant (P := (·.Published settings.version raw)) (fun _ b h => h.merge b) hd₀

theorem Reflects.publishedBy_assembled (hp : Reflects settings h p) (hd : p.assembled = some d) :
    PublishedBy settings (h.map (·.1)) d := by
  obtain ⟨d₀, hbase, hleads⟩ := hp.assembled_eq_some_iff.1 hd
  exact publishedBy_of_leads hbrace hocc hbase hleads

/-- The document that a call has before it. -/
theorem Reflects.publishedBy_document (hp : Reflects settings h p) (hneeds : c.request.needsDocument)
    (hd : p.document c.source c.files = .ok d) :
    PublishedBy settings (h.map (·.1) ++ [c]) d := by
  obtain ⟨d₀, hbase, hleads⟩ := hp.opened hneeds hd (.isAssembled p.isAssembled)
  have hpublished := publishedBy_of_leads hbrace hocc hbase hleads
  rwa [List.map_append, List.map_singleton] at hpublished

/-- Every document that a run answers, has at its end or finalizes is fit to be published, whatever
the raw schemas, the customizations and the batches are. -/
theorem run_published (calls : List Call) :
    (∀ c d, (c, .document (.ok d)) ∈ (({ settings } : Pipeline).run calls).1 →
      PublishedBy settings calls d) ∧
    (∀ d, (({ settings } : Pipeline).run calls).2.assembled = some d →
      PublishedBy settings calls d) ∧
    ∀ source files release d,
      (({ settings } : Pipeline).run calls).2.finalize source files release = .ok d →
        PublishedBy settings (calls ++ [⟨.document, source, files⟩]) d := by
  have hreflects (calls : List Call) := reflects_run calls (reflects_start settings)
  simp only [List.nil_append] at hreflects
  refine ⟨fun c d hmem => ?_, fun d hd => ?_, fun source files release d hd => ?_⟩
  · obtain ⟨before, after, rfl, hanswer⟩ := mem_run hmem
    obtain ⟨hrequest, hd⟩ := answer_eq_document_iff.1 (hanswer.trans (step_answer _ c)).symm
    have hneeds : c.request.needsDocument := by rw [hrequest]; rfl
    have hpublished :=
      (hreflects before).publishedBy_document hbrace hocc hneeds hd
    rw [map_fst_run] at hpublished
    rw [List.append_cons]
    exact hpublished.append after
  · have hpublished := (hreflects calls).publishedBy_assembled hbrace hocc hd
    rwa [map_fst_run] at hpublished
  · obtain ⟨d', hd', hfinal⟩ := bind_eq_ok_iff.1 hd
    obtain ⟨c, raw, hc, hraw, hpublished⟩ :=
      (hreflects calls).publishedBy_document hbrace hocc (c := ⟨.document, source, files⟩) rfl hd'
    rw [map_fst_run] at hc
    exact ⟨c, raw, hc, hraw, hpublished.finalize hfinal⟩

omit hbrace hocc

/-! ### A run with pages of HTML -/

def jobsCall (request : Request) : Call := ⟨request, Document.jobsSource, Document.jobsTemplates⟩

def jobsSettings : Settings := .ofTemplates "templates"

/-- Of the two batches the second is refused. -/
def jobsCalls : List Call := [
  jobsCall .document,
  jobsCall (.merge (.recordAll .empty [
    ("/api/v2/jobs/", { method := "get", status := 200, contentType := "text/html",
                        response := "<p>" }),
    ("/api/v2/jobs/", { method := "post", status := 201, contentType := "text/plain",
                        response := "made", request := some (.int 7) })])),
  jobsCall (.merge (.recordAll .empty [
    ("/api/v2/jobs/", { method := "get", status := 200, contentType := "application/json",
                        response := "?" })]))]

theorem run_published_jobs :
    BraceFree jobsSettings.version.toList ∧ ¬ jobsSettings.version.toList <:+: versionName ∧
      (({ settings := jobsSettings } : Pipeline).run jobsCalls).1.accepted.length = 1 ∧
      ∃ d, (({ settings := jobsSettings } : Pipeline).run jobsCalls).2.assembled = some d ∧
        PublishedBy jobsSettings jobsCalls d := by
  have hbrace : BraceFree jobsSettings.version.toList := by decide
  have hocc : ¬ jobsSettings.version.toList <:+: versionName := by decide +kernel
  have hpublished := run_published hbrace hocc jobsCalls
  have hrun : (({ settings := jobsSettings } : Pipeline).run jobsCalls).1.accepted.length = 1 ∧
      (({ settings := jobsSettings } : Pipeline).run jobsCalls).2.isAssembled := by decide +kernel
  generalize ({ settings := jobsSettings } : Pipeline).run jobsCalls = outcome
    at hpublished hrun ⊢
  obtain ⟨d, hd⟩ := isAssembled_iff.1 hrun.2
  exact ⟨hbrace, hocc, hrun.1, d, hd, hpublished.2.1 d hd⟩

/-- A schema without paths. -/
def bareApi : Json := .obj [("paths", .obj []), ("tags", .arr [])]

/-- The customizations have paths of their own, with an example of HTML. -/
def pagesSource : Source where
  schema := .ok bareApi
  customizations := .ok <| some <| .ofList [
    ("paths", .obj [("/pages/", .obj [("get", .obj [("responses", .obj [("200", .obj [
      ("examples", .obj [("text/html", .str "<p>")])])])])])])]

/-- The customizations bring a page of HTML that stands nowhere in the schema they are laid over. -/
theorem run_shows_page_of_customizations :
    let settings : Settings := {}
    let c : Call := ⟨.document, pagesSource, ⟨.empty⟩⟩
    BraceFree settings.version.toList ∧ ¬ settings.version.toList <:+: versionName ∧
      c.source.schema = .ok bareApi ∧
      ∃ d o, (({ settings } : Pipeline).run [c]).1 = [(c, .document (.ok d))] ∧
        d.operation? "/pages/" "get" = some o ∧
        o.exampleAt? "200" "text/html" = some (.str "<p>") ∧
        ∀ place, ¬ bareApi.Has place (.str "<p>") := by
  refine ⟨by decide, by decide +kernel, rfl, ?_⟩
  have hshown : ((Document.assemble pagesSource {} ⟨.empty⟩).toOption.bind fun d =>
      (d.operation? "/pages/" "get").bind (·.exampleAt? "200" "text/html")) =
      some (.str "<p>") := by decide +kernel
  cases hd : Document.assemble pagesSource {} ⟨.empty⟩ with
  | error f => rw [hd] at hshown; cases hshown
  | ok d =>
    rw [hd, Except.toOption, Option.bind_some] at hshown
    obtain ⟨o, ho, hv⟩ := Option.bind_eq_some_iff.1 hshown
    refine ⟨d, o, ?_, ho, hv, ?_⟩
    · rw [← hd]
      rfl
    · rintro place (_ | ⟨hmem, h⟩)
      simp only [List.mem_cons, Prod.mk.injEq, List.not_mem_nil, or_false] at hmem
      rcases hmem with ⟨-, rfl⟩ | ⟨-, rfl⟩
      · obtain _ | ⟨hmem, -⟩ := h
        exact List.not_mem_nil hmem
      · cases h

end Pipeline

end SwaggerPress
