import SwaggerPress.Proofs.Pipeline.Run

/-!
    Two runs side by side. A *view* of a document leaves out what two runs may differ in. If merging
    does not look behind the view (`Document.Respects`), then pipelines whose documents look alike
    answer alike and leave documents that look alike: one call keeps that (`Twin.step`, `twin_step`),
    so a run of calls does that assemble alike one by one (`twin_run`).

        d  ── merge b ──▶ r, d₁  ── merge b' ──▶ r', d₂
        │view                │view                  │view
        d' ── merge b ──▶ r, d₁' ── merge b' ──▶ r', d₂' -/

namespace SwaggerPress

/-- Merging depends on what the view shows, and changes only that. -/
def Document.Respects (view : Document → Document) : Prop :=
  ∀ d b, (view d).merge b = ((d.merge b).1, view (d.merge b).2)

theorem Document.respects_id : Respects id := fun _ _ => rfl

namespace Document.Respects

variable {view : Document → Document} {d d' : Document}

theorem merge_fst (hview : Respects view) (h : view d = view d') (b : Batch) :
    (d.merge b).1 = (d'.merge b).1 := by
  have hd := congrArg Prod.fst (hview d b)
  have hd' := congrArg Prod.fst (hview d' b)
  rw [h] at hd
  exact hd.symm.trans hd'

theorem merge_snd (hview : Respects view) (h : view d = view d') (b : Batch) :
    view (d.merge b).2 = view (d'.merge b).2 := by
  have hd := congrArg Prod.snd (hview d b)
  have hd' := congrArg Prod.snd (hview d' b)
  rw [h] at hd
  exact hd.symm.trans hd'

end Document.Respects

namespace Pipeline

/-- What is seen of an answer if documents are seen through a view. -/
def Answer.seenBy (view : Document → Document) : Answer → Answer
  | .document d => .document (d.map view)
  | a => a

theorem Answer.seenBy_id (a : Answer) : a.seenBy id = a := by
  cases a with
  | isAssembled yes => rfl
  | document d => cases d <;> rfl
  | merge r => rfl

/-- Two calls ask the same, and would assemble documents that look alike or fail alike. -/
structure Call.Twin (view : Document → Document) (settings settings' : Settings) (c c' : Call) :
    Prop where
  request : c.request = c'.request
  assembly : (Document.assemble c.source settings c.files).map view =
    (Document.assemble c'.source settings' c'.files).map view

/-- Two pipelines have documents that look alike, or none. -/
structure Twin (view : Document → Document) (settings settings' : Settings) (p p' : Pipeline) :
    Prop where
  settings : p.settings = settings
  settings' : p'.settings = settings'
  assembled : p.assembled.map view = p'.assembled.map view

variable {view : Document → Document} {settings settings' : Settings} {p p' : Pipeline}
  {c c' : Call} {x x' : Except Failure Document}

theorem twin_start (view : Document → Document) (settings settings' : Settings) :
    Twin view settings settings' { settings } { settings := settings' } :=
  ⟨rfl, rfl, rfl⟩

theorem Twin.isAssembled_eq (hp : Twin view settings settings' p p') :
    p.isAssembled = p'.isAssembled := by
  rw [isAssembled, isAssembled, ← Option.isSome_map (f := view), hp.assembled, Option.isSome_map]

/-- The documents that twin calls find look alike. -/
theorem Twin.document_eq (hp : Twin view settings settings' p p')
    (hc : c.Twin view settings settings' c') :
    (p.document c.source c.files).map view = (p'.document c'.source c'.files).map view := by
  have hassembled := hp.assembled
  rw [document, document, hp.settings, hp.settings']
  cases hd : p.assembled with
  | none =>
    rw [hd, Option.map_none, eq_comm, Option.map_eq_none_iff] at hassembled
    rw [hassembled]
    exact hc.assembly
  | some d =>
    rw [hd, Option.map_some, eq_comm, Option.map_eq_some_iff] at hassembled
    obtain ⟨d', hd', hview⟩ := hassembled
    rw [hd']
    exact congrArg Except.ok hview.symm

/-- What looks alike fails alike, or is there on both sides. -/
theorem cases_of_map_eq (h : x.map view = x'.map view) :
    (∃ f, x = .error f ∧ x' = .error f) ∨ ∃ d d', x = .ok d ∧ x' = .ok d' ∧ view d = view d' := by
  cases x with
  | error f =>
    cases x' with
    | error f' =>
      cases h
      exact .inl ⟨f, rfl, rfl⟩
    | ok d' => cases h
  | ok d =>
    cases x' with
    | error f' => cases h
    | ok d' => exact .inr ⟨d, d', rfl, rfl, Except.ok.inj h⟩

/-- A request is answered alike from documents that look alike. -/
theorem Request.seenBy_answer (hview : Document.Respects view) (h : x.map view = x'.map view)
    (w : Bool) (r : Request) : (r.answer w x).seenBy view = (r.answer w x').seenBy view := by
  cases r with
  | isAssembled => rfl
  | document => exact congrArg Answer.document h
  | merge b =>
    obtain ⟨f, rfl, rfl⟩ | ⟨d, d', rfl, rfl, hd⟩ := cases_of_map_eq h
    · rfl
    · exact congrArg Answer.merge (hview.merge_fst hd b)

theorem Request.leave_eq (hview : Document.Respects view) {d d' : Document} (h : view d = view d')
    (r : Request) : view (r.leave d) = view (r.leave d') := by
  cases r with
  | isAssembled => exact h
  | document => exact h
  | merge b => exact hview.merge_snd h b

/-- Calls that ask twins the same, and find documents that look alike, are answered alike and leave
twins. -/
theorem Twin.step (hview : Document.Respects view) (hp : Twin view settings settings' p p')
    (hrequest : c.request = c'.request)
    (hdocument : (p.document c.source c.files).map view =
      (p'.document c'.source c'.files).map view) :
    (p.step c).1.seenBy view = (p'.step c').1.seenBy view ∧
      Twin view settings settings' (p.step c).2 (p'.step c').2 := by
  have hanswer := Request.seenBy_answer hview hdocument p.isAssembled c.request
  refine ⟨?_, ?_⟩
  · rw [step_answer, step_answer, hanswer, hp.isAssembled_eq, hrequest]
  · by_cases hneeds : c.request.needsDocument
    · obtain ⟨f, hf, hf'⟩ | ⟨d, d', hd, hd', heq⟩ := cases_of_map_eq hdocument
      · rw [step_of_error hf, step_of_error hf']
        exact hp
      · rw [step_of_ok hneeds hd, step_of_ok (hrequest ▸ hneeds) hd', ← hrequest]
        exact ⟨hp.settings, hp.settings',
          congrArg some (Request.leave_eq hview heq c.request)⟩
    · obtain ⟨request, source, files⟩ := c
      obtain ⟨request', source', files'⟩ := c'
      obtain rfl : request = request' := hrequest
      cases request with
      | isAssembled => exact hp
      | document => exact absurd rfl hneeds
      | merge b => exact absurd rfl hneeds

/-- Twin calls are answered alike, and leave twins. -/
theorem twin_step (hview : Document.Respects view) (hp : Twin view settings settings' p p')
    (hc : c.Twin view settings settings' c') :
    (p.step c).1.seenBy view = (p'.step c').1.seenBy view ∧
      Twin view settings settings' (p.step c).2 (p'.step c').2 :=
  hp.step hview hc.request (hp.document_eq hc)

/-- Twin runs are answered alike from the first call to the last, and end in twins. -/
theorem twin_run (hview : Document.Respects view) {calls calls' : List Call}
    (hcalls : List.Forall₂ (Call.Twin view settings settings') calls calls') {p p' : Pipeline}
    (hp : Twin view settings settings' p p') :
    (p.run calls).1.map (·.2.seenBy view) = (p'.run calls').1.map (·.2.seenBy view) ∧
      Twin view settings settings' (p.run calls).2 (p'.run calls').2 := by
  induction hcalls generalizing p p' with
  | nil => exact ⟨rfl, hp⟩
  | cons hc _ ih =>
    obtain ⟨hanswer, hstep⟩ := twin_step hview hp hc
    obtain ⟨hanswers, hrest⟩ := ih hstep
    refine ⟨?_, hrest⟩
    simp only [run, List.map_cons, hanswer, hanswers]

/-- Finalizing asks twins for documents that look alike. -/
theorem Twin.finalize_cases (hp : Twin view settings settings' p p') {source source' : Source}
    {files files' : FileTree}
    (h : (Document.assemble source settings files).map view =
      (Document.assemble source' settings' files').map view) (release : String) :
    (∃ f, p.finalize source files release = .error f ∧
      p'.finalize source' files' release = .error f) ∨
    ∃ d d', view d = view d' ∧ p.finalize source files release = d.finalize release ∧
      p'.finalize source' files' release = d'.finalize release := by
  have hc : Call.Twin view settings settings' ⟨.document, source, files⟩
      ⟨.document, source', files'⟩ := ⟨rfl, h⟩
  obtain ⟨f, hf, hf'⟩ | ⟨d, d', hd, hd', heq⟩ := cases_of_map_eq (hp.document_eq hc)
  · exact .inl ⟨f, by rw [finalize, hf]; rfl, by rw [finalize, hf']; rfl⟩
  · exact .inr ⟨d, d', heq, by rw [finalize, hd]; rfl, by rw [finalize, hd']; rfl⟩

end Pipeline

end SwaggerPress
