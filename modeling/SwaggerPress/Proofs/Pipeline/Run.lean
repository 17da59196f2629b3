import SwaggerPress.Pipeline
import SwaggerPress.Proofs.Merge.Refusal
import SwaggerPress.Proofs.Merge.Sequence

/-!
    A pipeline over a whole run of calls, with other sources and other files at every call. The first
    call that needs the document and can assemble it makes the base; the batches that are accepted
    lead from the base to the document of the moment, one after another (`Reflects`). One call keeps
    that (`reflects_step`), so a run does (`reflects_run`), and with it everything that a pipeline
    answers is said by its history (`run_refines`).

        call        document     merge b₁     merge b₂     document     merge b₃
        assembles      ✗            d₀
        answer       failed       report       refused        d₁         report
        accepted       -            b₁            b₁          b₁         b₁, b₃
        document       -         d₁ = d₀ + b₁     d₁          d₁         d₁ + b₃   -/

namespace SwaggerPress

namespace Pipeline

/-- What a pipeline is asked for. -/
inductive Request where
  | isAssembled
  | document
  | merge (b : Batch)

/-- A request, with the source and the files as they are when it is made. -/
structure Call where
  request : Request
  source : Source
  files : FileTree

inductive Answer where
  | isAssembled (yes : Bool)
  | document (d : Except Failure Document)
  | merge (r : Except Failure MergeReport)

/-- The calls of a run with their answers, the first call first. -/
abbrev History := List (Call × Answer)

namespace Request

def needsDocument : Request → Bool
  | .isAssembled => false
  | .document | .merge _ => true

/-- What there is to answer: whether there was a document, and the document or why there is none. -/
def answer (wasAssembled : Bool) (d : Except Failure Document) : Request → Answer
  | .isAssembled => .isAssembled wasAssembled
  | .document => .document d
  | .merge b => .merge (d.bind fun d => (d.merge b).1)

/-- The document after a request of it. -/
def leave (d : Document) : Request → Document
  | .isAssembled | .document => d
  | .merge b => (d.merge b).2

end Request

/-- The document that a call assembles if there is none. -/
def Call.assembly? (settings : Settings) (c : Call) : Option Document :=
  if c.request.needsDocument then (Document.assemble c.source settings c.files).toOption else none

/-- What the first call assembles that can. -/
def firstAssembly? (settings : Settings) (calls : List Call) : Option Document :=
  calls.findSome? (·.assembly? settings)

/-- The document that a run starts from once it has one. -/
def History.base? (settings : Settings) (h : History) : Option Document :=
  firstAssembly? settings (h.map (·.1))

/-- The batch of a call that merged it, with the report. -/
def acceptance? : Call × Answer → Option (Batch × MergeReport)
  | (⟨.merge b, _, _⟩, .merge (.ok r)) => some (b, r)
  | _ => none

/-- The batches that were accepted, with their reports, in the order of the calls. -/
def History.accepted (h : History) : List (Batch × MergeReport) := h.filterMap acceptance?

/-- One call: the answer, and the pipeline afterwards. -/
def step (p : Pipeline) (c : Call) : Answer × Pipeline :=
  match c.request with
  | .isAssembled => (.isAssembled p.isAssembled, p)
  | .document => (.document (p.document c.source c.files), p.access c.source c.files)
  | .merge b =>
    let (r, p) := p.merge c.source c.files b
    (.merge r, p)

/-- Calls one after another: the history, and the pipeline afterwards. -/
def run (p : Pipeline) : List Call → History × Pipeline
  | [] => ([], p)
  | c :: cs =>
    let (a, p) := p.step c
    let (h, p) := p.run cs
    ((c, a) :: h, p)

end Pipeline

/-! ### Leading from the base to the document -/

/-- Batches are accepted one after another with these reports, and lead from one document to
another. -/
def Document.Leads (d₀ : Document) (accepted : List (Batch × MergeReport)) (d : Document) : Prop :=
  d₀.mergeAll (accepted.map (·.1)) = (accepted.map (.ok ·.2), d)

namespace Document

theorem leads_nil (d : Document) : d.Leads [] d := rfl

/-- A batch that is accepted leads one further. -/
theorem Leads.accept {d₀ d d' : Document} {accepted : List (Batch × MergeReport)} {b : Batch}
    {r : MergeReport} (h : d₀.Leads accepted d) (hb : d.merge b = (.ok r, d')) :
    d₀.Leads (accepted ++ [(b, r)]) d' := by
  unfold Leads at h ⊢
  rw [List.map_append, mergeAll_append, h, List.map_singleton, mergeAll_cons hb]
  simp [mergeAll]

/-- What every merge keeps holds wherever accepted batches lead to. -/
theorem Leads.invariant {P : Document → Prop} (hmerge : ∀ d b, P d → P (d.merge b).2)
    {d₀ d : Document} {accepted : List (Batch × MergeReport)} (hleads : d₀.Leads accepted d)
    (h : P d₀) : P d := by
  have hall : ∀ (bs : List Batch) (d : Document), P d → P (d.mergeAll bs).2 := by
    intro bs
    induction bs with
    | nil => exact fun _ h => h
    | cons b bs ih => exact fun d h => ih _ (hmerge d b h)
  have hend := hall (accepted.map (·.1)) d₀ h
  rwa [hleads] at hend

end Document

/-! ### One call -/

namespace Pipeline

variable {settings : Settings} {h : History} {p : Pipeline} {c : Call} {a : Answer}

theorem accepted_concat :
    History.accepted (h ++ [(c, a)]) = h.accepted ++ (acceptance? (c, a)).toList := by
  rw [History.accepted, List.filterMap_append, ← History.accepted, List.filterMap_cons]
  cases acceptance? (c, a) <;> rfl

theorem base_concat : History.base? settings (h ++ [(c, a)])
    = (History.base? settings h).or (c.assembly? settings) := by
  simp [History.base?, firstAssembly?, List.findSome?_append]

theorem assembly?_of_ok {d : Document} (hneeds : c.request.needsDocument)
    (hd : Document.assemble c.source settings c.files = .ok d) : c.assembly? settings = some d := by
  rw [Call.assembly?, if_pos hneeds, hd]; rfl

theorem assembly?_of_error {f : Failure}
    (hd : Document.assemble c.source settings c.files = .error f) :
    c.assembly? settings = none := by
  rw [Call.assembly?, hd]
  split <;> rfl

/-- The pipeline is where its history leads: without a document as long as no call could assemble
one, and then with the document that the accepted batches have made of the first. -/
inductive Reflects (settings : Settings) (h : History) : Pipeline → Prop where
  | new (base : h.base? settings = none) (accepted : h.accepted = []) :
    Reflects settings h { settings }
  | assembled {d₀ d : Document} (base : h.base? settings = some d₀)
    (leads : d₀.Leads h.accepted d) : Reflects settings h { settings, assembled := some d }

theorem reflects_start (settings : Settings) : Reflects settings [] { settings } :=
  .new rfl rfl

theorem Reflects.settings_eq (hp : Reflects settings h p) : p.settings = settings := by
  cases hp <;> rfl

/-- A call that assembles nothing and merges nothing. -/
theorem Reflects.idle (hp : Reflects settings h p) (hd : c.assembly? settings = none)
    (ha : acceptance? (c, a) = none) : Reflects settings (h ++ [(c, a)]) p := by
  have haccepted : History.accepted (h ++ [(c, a)]) = h.accepted := by
    rw [accepted_concat, ha, Option.toList_none, List.append_nil]
  have hbase : History.base? settings (h ++ [(c, a)]) = h.base? settings := by
    rw [base_concat, hd, Option.or_none]
  cases hp with
  | new base accepted => exact .new (hbase.trans base) (haccepted.trans accepted)
  | assembled base leads => exact .assembled (hbase.trans base) (haccepted ▸ leads)

/-- Without a document after all, the call could not assemble one either. -/
theorem Reflects.assembly_failed {f : Failure} (hp : Reflects settings h p)
    (hd : p.document c.source c.files = .error f) : c.assembly? settings = none := by
  cases hp with
  | new base accepted => exact assembly?_of_error hd
  | assembled base leads => exact nomatch hd

/-- A call that needs the document has it as the history before has left it. -/
theorem Reflects.opened {d : Document} (hp : Reflects settings h p)
    (hneeds : c.request.needsDocument) (hd : p.document c.source c.files = .ok d) (a : Answer) :
    ∃ d₀, History.base? settings (h ++ [(c, a)]) = some d₀ ∧ d₀.Leads h.accepted d := by
  rw [base_concat]
  cases hp with
  | new base accepted =>
    refine ⟨d, ?_, accepted ▸ d.leads_nil⟩
    rw [base, assembly?_of_ok hneeds hd, Option.none_or]
  | assembled base leads =>
    cases hd
    exact ⟨_, by rw [base, Option.some_or], leads⟩

/-- If there is a document to start from by the end of a call, the call has what it leads to. -/
theorem Reflects.document_of_base {d₀ : Document} (hp : Reflects settings h p)
    (hneeds : c.request.needsDocument) (hbase : History.base? settings (h ++ [(c, a)]) = some d₀) :
    ∃ d, p.document c.source c.files = .ok d ∧ d₀.Leads h.accepted d := by
  cases hd : p.document c.source c.files with
  | error f =>
    rw [base_concat, hp.assembly_failed hd, Option.or_none] at hbase
    cases hp with
    | new base accepted => exact nomatch base.symm.trans hbase
    | assembled base leads => exact nomatch hd
  | ok d =>
    obtain ⟨d₁, hbase', hleads⟩ := hp.opened hneeds hd a
    rw [hbase, Option.some.injEq] at hbase'
    exact ⟨d, rfl, hbase' ▸ hleads⟩

/-- A call that has no document answers why, and changes nothing. -/
theorem step_of_error {f : Failure} (hd : p.document c.source c.files = .error f) :
    p.step c = (c.request.answer p.isAssembled (.error f), p) := by
  obtain ⟨request, source, files⟩ := c
  cases request with
  | isAssembled => rfl
  | document => simp only [step, access, hd, Request.answer]
  | merge b => simp only [step, merge, hd, Request.answer]; rfl

/-- A call that has the document answers from it, and keeps what the request leaves. -/
theorem step_of_ok {d : Document} (hneeds : c.request.needsDocument)
    (hd : p.document c.source c.files = .ok d) :
    p.step c = (c.request.answer p.isAssembled (.ok d),
      { p with assembled := some (c.request.leave d) }) := by
  obtain ⟨request, source, files⟩ := c
  cases request with
  | isAssembled => exact nomatch hneeds
  | document => simp only [step, access, hd, Request.answer, Request.leave]
  | merge b => simp only [step, merge, hd, Request.answer, Request.leave]; rfl

theorem acceptance?_of_error (w : Bool) (f : Failure) :
    acceptance? (c, c.request.answer w (.error f)) = none := by
  obtain ⟨request, source, files⟩ := c
  cases request <;> rfl

/-- A request leads one batch further if it is one that is accepted, and nowhere otherwise. -/
theorem leads_request {d₀ d : Document} {accepted : List (Batch × MergeReport)}
    (h : d₀.Leads accepted d) (w : Bool) (c : Call) :
    d₀.Leads (accepted ++ (acceptance? (c, c.request.answer w (.ok d))).toList)
      (c.request.leave d) := by
  obtain ⟨request, source, files⟩ := c
  cases request with
  | isAssembled => simpa [acceptance?, Request.answer, Request.leave] using h
  | document => simpa [acceptance?, Request.answer, Request.leave] using h
  | merge b =>
    simp only [Request.answer, Request.leave, Except.bind]
    cases hb : (d.merge b).1 with
    | error f =>
      rw [Document.merge_of_error hb]
      simpa [acceptance?] using h
    | ok r => exact h.accept (Prod.ext hb rfl)

theorem reflects_step (hp : Reflects settings h p) (c : Call) :
    Reflects settings (h ++ [(c, (p.step c).1)]) (p.step c).2 := by
  by_cases hneeds : c.request.needsDocument
  · cases hd : p.document c.source c.files with
    | error f =>
      rw [step_of_error hd]
      exact hp.idle (hp.assembly_failed hd) (acceptance?_of_error _ f)
    | ok d =>
      rw [step_of_ok hneeds hd, hp.settings_eq]
      obtain ⟨d₀, hbase, hleads⟩ := hp.opened hneeds hd (c.request.answer p.isAssembled (.ok d))
      refine .assembled hbase ?_
      rw [accepted_concat]
      exact leads_request hleads _ c
  · obtain ⟨request, source, files⟩ := c
    cases request with
    | isAssembled => exact hp.idle rfl rfl
    | document => exact absurd rfl hneeds
    | merge b => exact absurd rfl hneeds

theorem reflects_run : ∀ (calls : List Call) {h : History} {p : Pipeline}, Reflects settings h p →
    Reflects settings (h ++ (p.run calls).1) (p.run calls).2
  | [], h, p, hp => by simpa [run] using hp
  | c :: calls, h, p, hp => by
    have hrest := reflects_run calls (reflects_step hp c)
    simpa [run] using hrest

theorem map_fst_run : ∀ (calls : List Call) (p : Pipeline), (p.run calls).1.map (·.1) = calls
  | [], _ => rfl
  | c :: calls, p => by
    have hrest := map_fst_run calls (p.step c).2
    simpa [run] using hrest

theorem run_concat (c : Call) : ∀ (calls : List Call) (p : Pipeline),
    p.run (calls ++ [c]) = ((p.run calls).1 ++ [(c, ((p.run calls).2.step c).1)],
      ((p.run calls).2.step c).2)
  | [], _ => rfl
  | c' :: calls, p => by
    have hrest := run_concat c calls (p.step c').2
    simp only [List.cons_append, run, hrest]

/-! ### With a document -/

theorem isAssembled_iff : p.isAssembled ↔ ∃ d, p.assembled = some d := by
  rw [isAssembled, Option.isSome_iff_exists]

theorem document_of_assembled {d : Document} (hp : p.assembled = some d) (source : Source)
    (files : FileTree) : p.document source files = .ok d := by
  rw [document, hp]

/-- With a document, a call is its request. -/
theorem step_congr {c' : Call} (hp : p.isAssembled) (hc : c.request = c'.request) :
    p.step c = p.step c' := by
  obtain ⟨d, hd⟩ := isAssembled_iff.1 hp
  simp only [step, access, merge, document_of_assembled hd, hc]

theorem isAssembled_step (hp : p.isAssembled) (c : Call) : (p.step c).2.isAssembled := by
  obtain ⟨d, hd⟩ := isAssembled_iff.1 hp
  obtain ⟨request, source, files⟩ := c
  cases request with
  | isAssembled => exact hp
  | document => simp [step, access, document_of_assembled hd, isAssembled]
  | merge b => simp [step, merge, document_of_assembled hd, isAssembled]

/-- With a document, a run is its requests. -/
theorem run_congr : ∀ {calls calls' : List Call} {p : Pipeline}, p.isAssembled →
    calls.map (·.request) = calls'.map (·.request) →
    (p.run calls).1.map (·.2) = (p.run calls').1.map (·.2) ∧ (p.run calls).2 = (p.run calls').2
  | [], [], p, _, _ => ⟨rfl, rfl⟩
  | [], _ :: _, _, _, h => nomatch h
  | _ :: _, [], _, _, h => nomatch h
  | c :: calls, c' :: calls', p, hp, h => by
    rw [List.map_cons, List.map_cons, List.cons.injEq] at h
    have hrest := run_congr (isAssembled_step hp c) h.2
    simp only [run, List.map_cons, ← step_congr hp h.1, hrest.1, hrest.2, and_self]

/-! ### The whole run -/

/-- What a pipeline is and does after calls, read off its history. -/
structure Refines (settings : Settings) (calls : List Call) (h : History) (p : Pipeline) : Prop where
  recorded : h.map (·.1) = calls
  extended (c : Call) : ({ settings } : Pipeline).run (calls ++ [c])
    = (h ++ [(c, (p.step c).1)], (p.step c).2)
  /-- There is a document from the first call on that needed one and could assemble it. -/
  isAssembled : p.isAssembled ↔ ∃ c ∈ calls, c.request.needsDocument ∧
    ∃ d, Document.assemble c.source settings c.files = .ok d
  /-- What that call assembled, and the batches accepted since. -/
  document (d : Document) : p.assembled = some d ↔
    ∃ d₀, firstAssembly? settings calls = some d₀ ∧ d₀.Leads h.accepted d
  /-- The next call is answered from that document, or from the source and the files of then. -/
  answer (c : Call) : (p.step c).1 = c.request.answer p.isAssembled (match p.assembled with
    | some d => .ok d
    | none => Document.assemble c.source settings c.files)
  /-- A call that cannot assemble a document changes nothing. -/
  failed (c : Call) (f : Failure) : p.assembled = none →
    Document.assemble c.source settings c.files = .error f → (p.step c).2 = p
  /-- With a document, neither the source nor the files matter any more. -/
  settled : p.isAssembled → ∀ next next' : List Call,
    next.map (·.request) = next'.map (·.request) →
    (p.run next).1.map (·.2) = (p.run next').1.map (·.2) ∧ (p.run next).2 = (p.run next').2
  finalize (source : Source) (files : FileTree) (release : String) :
    p.finalize source files release = match p.assembled with
      | some d => d.finalize release
      | none => match Document.assemble source settings files with
        | .ok d => d.finalize release
        | .error f => .error f

theorem assembly?_isSome_iff : (c.assembly? settings).isSome ↔
    c.request.needsDocument ∧ ∃ d, Document.assemble c.source settings c.files = .ok d := by
  rw [Call.assembly?]
  split
  · cases Document.assemble c.source settings c.files <;> simp_all [Except.toOption]
  · simp_all

theorem Reflects.isAssembled_eq (hp : Reflects settings h p) :
    p.isAssembled = (h.base? settings).isSome := by
  cases hp with
  | new base accepted => rw [base]; rfl
  | assembled base leads => rw [base]; rfl

theorem Reflects.assembled_eq_some_iff {d : Document} (hp : Reflects settings h p) :
    p.assembled = some d ↔ ∃ d₀, h.base? settings = some d₀ ∧ d₀.Leads h.accepted d := by
  cases hp with
  | new base accepted => simp [base]
  | @assembled d₀ d' base leads =>
    simp only [base, Option.some.injEq, exists_eq_left']
    constructor
    · rintro rfl
      exact leads
    · intro h
      exact congrArg Prod.snd (leads.symm.trans h)

theorem step_answer (p : Pipeline) (c : Call) :
    (p.step c).1 = c.request.answer p.isAssembled (p.document c.source c.files) := by
  obtain ⟨request, source, files⟩ := c
  cases request with
  | isAssembled => rfl
  | document => rfl
  | merge b =>
    simp only [step, merge, Request.answer]
    cases p.document source files <;> rfl

/-- A pipeline assembles once and then folds the batches it accepts, whatever it is asked. -/
theorem run_refines (settings : Settings) (calls : List Call) :
    Refines settings calls (({ settings } : Pipeline).run calls).1
      (({ settings } : Pipeline).run calls).2 := by
  have hreflects := reflects_run calls (reflects_start settings)
  rw [List.nil_append] at hreflects
  have hcalls := map_fst_run calls { settings }
  have hextended := fun c => run_concat c calls { settings }
  generalize ({ settings } : Pipeline).run calls = outcome at hreflects hcalls hextended ⊢
  obtain ⟨h, p⟩ := outcome
  have hsettings : p.settings = settings := hreflects.settings_eq
  have hbase : h.base? settings = firstAssembly? settings calls := by
    rw [History.base?, hcalls]
  refine ⟨hcalls, hextended, ?_, ?_, ?_, ?_, ?_, ?_⟩
  · rw [hreflects.isAssembled_eq, hbase, firstAssembly?, List.findSome?_isSome_iff]
    simp only [assembly?_isSome_iff]
  · intro d
    rw [← hbase]
    exact hreflects.assembled_eq_some_iff
  · intro c
    have hanswer := step_answer p c
    rw [document, hsettings] at hanswer
    exact hanswer
  · intro c f hp hd
    have hdoc : p.document c.source c.files = .error f := by
      rw [document, hp, hsettings]; exact hd
    rw [step_of_error hdoc]
  · intro hp next next' hnext
    exact run_congr hp hnext
  · intro source files release
    rw [finalize, document, hsettings]
    cases p.assembled with
    | some d => rfl
    | none => cases Document.assemble source settings files <;> rfl

end Pipeline

end SwaggerPress
