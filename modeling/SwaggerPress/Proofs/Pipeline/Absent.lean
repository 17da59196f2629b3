import SwaggerPress.Proofs.Configuration
import SwaggerPress.Proofs.Pipeline.Twin

/-!
    Resources that are configured but not there. A pipeline for a configuration and one for the
    configuration without these resources are twins that have the very same document
    (`Configuration.Twins`): they assemble the same as long as nothing is at the paths
    (`Twins.document_eq`), and once they have a document they look at no file any more. A request
    keeps that (`Twins.step`), so a run does (`Twins.run`), and nothing tells the two apart
    (`run_without_absent`).

        files            custom.json broken   custom.json mended   old.json turns up
        request          document             document             merge b
        with old.json    not an object        d                    report
        without          not an object        d                    report -/

namespace SwaggerPress.Configuration

open Pipeline (Call History Request)

/-- A request of a pipeline, when the files are like this. -/
def call (c : Configuration) (q : Request × FileTree) : Call := ⟨q.1, c.files.source q.2, q.2⟩

/-- Requests one after another to a new pipeline, each with the files as they are by then. -/
def run (c : Configuration) (requests : List (Request × FileTree)) : History × Pipeline :=
  ({ settings := c.settings } : Pipeline).run (requests.map c.call)

/-- As long as a pipeline has no document, nothing is at the paths of these resources when something
is asked of it. -/
def Misses (c : Configuration) (absent : List Resource) :
    Pipeline → List (Request × FileTree) → Prop
  | _, [] => True
  | p, q :: later =>
    (p.isAssembled ∨ c.Lacks absent q.2) ∧ c.Misses absent (p.step (c.call q)).2 later

/-- Pipelines for a configuration with and without some resources, where they have come to the
same. -/
abbrev Twins (c : Configuration) (absent : List Resource) (p p' : Pipeline) : Prop :=
  p.Twin id c.settings (c.without absent).settings p'

variable {c : Configuration} {absent : List Resource} {t : FileTree} {p p' : Pipeline}

theorem Twins.assembled_eq (hp : c.Twins absent p p') : p.assembled = p'.assembled := by
  simpa only [Option.map_id_fun, id] using hp.assembled

/-- Twins have the same document, unless one has yet to be assembled when a resource is there. -/
theorem Twins.document_eq (hp : c.Twins absent p p') (h : p.isAssembled ∨ c.Lacks absent t) :
    p.document (c.files.source t) t = p'.document ((c.without absent).files.source t) t := by
  rw [Pipeline.document, Pipeline.document, ← hp.assembled_eq, hp.settings, hp.settings']
  cases hd : p.assembled with
  | some d => rfl
  | none =>
    have hlacks : c.Lacks absent t := h.resolve_left (by simp [Pipeline.isAssembled, hd])
    exact hlacks.assemble_without.symm

/-- A request is answered alike by twins, and leaves twins. -/
theorem Twins.step (hp : c.Twins absent p p') {q : Request × FileTree}
    (h : p.isAssembled ∨ c.Lacks absent q.2) :
    (p.step (c.call q)).1 = (p'.step ((c.without absent).call q)).1 ∧
      c.Twins absent (p.step (c.call q)).2 (p'.step ((c.without absent).call q)).2 := by
  have hrequest : (c.call q).request = ((c.without absent).call q).request := rfl
  have hdocument : (p.document (c.call q).source (c.call q).files).map id =
      (p'.document ((c.without absent).call q).source ((c.without absent).call q).files).map id :=
    congrArg _ (hp.document_eq h)
  have hstep := Pipeline.Twin.step Document.respects_id hp hrequest hdocument
  rwa [Pipeline.Answer.seenBy_id, Pipeline.Answer.seenBy_id] at hstep

/-- Requests one after another are answered alike by twins, and leave twins. -/
theorem Twins.run : ∀ (requests : List (Request × FileTree)) {p p' : Pipeline},
    c.Twins absent p p' → c.Misses absent p requests →
    (p.run (requests.map c.call)).1.map (·.2) =
        (p'.run (requests.map (c.without absent).call)).1.map (·.2) ∧
      c.Twins absent (p.run (requests.map c.call)).2
        (p'.run (requests.map (c.without absent).call)).2
  | [], _, _, hp, _ => ⟨rfl, hp⟩
  | q :: later, p, p', hp, hmisses => by
    obtain ⟨hanswer, hstep⟩ := hp.step hmisses.1
    obtain ⟨hanswers, hend⟩ := Twins.run later hstep hmisses.2
    refine ⟨?_, hend⟩
    simp only [List.map_cons, Pipeline.run, hanswer, hanswers]

/-- A resource that is configured but not there might as well not be configured. The same document
is assembled; an assembly that fails does so with the failure of the first step that fails without
the resource; and pipelines answer and publish the same, whatever comes to be there once they have a
document. -/
theorem run_without_absent (c : Configuration) (absent : List Resource) :
    (∀ t, c.Lacks absent t →
      c.assemble t = (c.without absent).assemble t ∧
      (∀ f, c.assemble t = .error f ↔ (c.without absent).FailsFirst t AssemblyStep.inOrder f) ∧
      ∀ r f, (c.without absent).Faulty t r f ↔ c.Faulty t r f) ∧
    ∀ requests, c.Misses absent { settings := c.settings } requests →
      (c.run requests).1.map (·.2) = ((c.without absent).run requests).1.map (·.2) ∧
      (c.run requests).2.assembled = ((c.without absent).run requests).2.assembled ∧
      ∀ t release, (c.run requests).2.isAssembled ∨ c.Lacks absent t →
        ((c.run requests).2.finalize (c.files.source t) t release).map
            (fun d => (d, d.render .json, d.render .yaml)) =
          (((c.without absent).run requests).2.finalize ((c.without absent).files.source t) t
            release).map fun d => (d, d.render .json, d.render .yaml) := by
  refine ⟨fun t h => ⟨h.assemble_without.symm, fun f => ?_, fun r f => h.faulty_without⟩,
    fun requests h => ?_⟩
  · rw [← h.assemble_without]
    exact assemble_eq_error_iff
  · have hstart : c.Twins absent { settings := c.settings }
        { settings := (c.without absent).settings } := Pipeline.twin_start id _ _
    obtain ⟨hanswers, htwins⟩ := Twins.run requests hstart h
    have hend : c.Twins absent (c.run requests).2 ((c.without absent).run requests).2 := htwins
    refine ⟨hanswers, hend.assembled_eq, fun t release ht => ?_⟩
    rw [Pipeline.finalize, Pipeline.finalize, hend.document_eq ht]

/-! ### Two resources that come late -/

/-- Everything is configured. -/
def jobsConfiguration : Configuration where
  files := {
    schema := "raw.json", deprecated := some "old.json", customizations := some "custom.json" }
  settings := .ofTemplates "templates"

/-- Its files, without the deprecated paths and the description. -/
def filesWith (customizations : String) (added : List (String × Entry)) : FileTree := ⟨.ofList <|
  [("raw.json", .file (.text
      "\x7b\"paths\":\x7b\"/api/\x7bversion\x7d/jobs/\":\x7b\"get\":\x7b\x7d\x7d\x7d,\"tags\":[]\x7d")),
    ("custom.json", .file (.text customizations)),
    ("templates", .directory),
    ("templates/config.yml", .file (.text "categories:\n  - name: Jobs\n"))] ++ added⟩

/-- Customizations that are no object. -/
def brokenFiles : FileTree := filesWith "[]" []

def mendedFiles : FileTree := filesWith "\x7b\"basePath\":\"/\"\x7d" []

/-- Now the missing resources are there. -/
def lateFiles : FileTree := filesWith "\x7b\"basePath\":\"/\"\x7d" [
  ("old.json", .file (.text "[\"/api/\x7bversion\x7d/jobs/\"]")),
  ("templates/description.md", .file (.text "Running things"))]

def lateRequests : List (Request × FileTree) := [
  (.document, brokenFiles), (.document, mendedFiles),
  (.merge (.recordAll .empty [("/api/v2/jobs/", { method := "get", status := 200 })]), lateFiles)]

theorem run_without_absent_late :
    let c := jobsConfiguration
    let absent : List Resource := [.deprecated, .description]
    (c.Lacks absent brokenFiles ∧
      c.Faulty brokenFiles .customizations (.schema .customizationsNotObject) ∧
      c.assemble brokenFiles = (c.without absent).assemble brokenFiles) ∧
    c.Misses absent { settings := c.settings } lateRequests ∧
    (c.run lateRequests).1.map (·.2) = ((c.without absent).run lateRequests).1.map (·.2) ∧
    (c.run lateRequests).2.isAssembled ∧
    ((c.run lateRequests).2.finalize (c.files.source lateFiles) lateFiles "4.2").map
        (fun d => (d, d.render .json, d.render .yaml)) =
      (((c.without absent).run lateRequests).2.finalize ((c.without absent).files.source lateFiles)
        lateFiles "4.2").map fun d => (d, d.render .json, d.render .yaml) := by
  intro c absent
  have hlacks : ∀ t, t.pathExists "old.json" = false →
      t.pathExists "templates/description.md" = false → c.Lacks absent t := by
    intro t hold hdescription r hr path hpath
    simp only [absent, List.mem_cons, List.not_mem_nil, or_false] at hr
    obtain rfl | rfl := hr <;> cases hpath <;> assumption
  have hbroken : c.Lacks absent brokenFiles := hlacks _ (by decide +kernel) (by decide +kernel)
  have hmended : c.Lacks absent mendedFiles := hlacks _ (by decide +kernel) (by decide +kernel)
  have hread : brokenFiles.readText "custom.json" = .ok "[]" := rfl
  have hparse : Json.parse "[]" = .ok (.arr []) := rfl
  have hfaulty : c.Faulty brokenFiles .customizations (.schema .customizationsNotObject) :=
    ⟨"custom.json", rfl, by decide +kernel, .malformed hread (.notObject hparse nofun)⟩
  have hassembled : (c.run (lateRequests.take 2)).2.isAssembled := by decide +kernel
  have hend : (c.run lateRequests).2.isAssembled := by decide +kernel
  have hmisses : c.Misses absent { settings := c.settings } lateRequests :=
    ⟨.inr hbroken, .inr hmended, .inl hassembled, trivial⟩
  obtain ⟨hassemble, hrun⟩ := run_without_absent c absent
  obtain ⟨hanswers, -, hfinal⟩ := hrun lateRequests hmisses
  exact ⟨⟨hbroken, hfaulty, (hassemble brokenFiles hbroken).1⟩, hmisses, hanswers, hend,
    hfinal lateFiles "4.2" (.inl hend)⟩

end SwaggerPress.Configuration
