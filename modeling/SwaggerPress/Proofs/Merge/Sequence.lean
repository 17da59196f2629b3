import SwaggerPress.Proofs.Merge.Visit

/-!
    Batches merged one after another. An accepted batch leaves every operation with the captures of
    the batch that hit it, a refused one leaves the document as it was; so after any number of
    accepted batches an operation shows the captures of all of them, in the order of the batches and
    within a batch in its own order (`mergeAll_shows`).

        d ── b₁ ──▶ d₁ ── b₂ ──▶ d₂ … ── bₙ ──▶ dₙ
        o         shows c₁      shows c₁ ++ c₂ …   shows c₁ ++ … ++ cₙ -/

namespace SwaggerPress

namespace Document

/-- Merges batches one after another, whether or not the earlier ones are accepted: what came of each
of them, and the document afterwards. -/
def mergeAll (d : Document) : List Batch → List (Except Failure MergeReport) × Document
  | [] => ([], d)
  | b :: bs =>
    let (r, d) := d.merge b
    let (rs, d) := d.mergeAll bs
    (r :: rs, d)

/-- A batch that is accepted is merged as a whole. -/
theorem merge_of_isOk {d : Document} {b : Batch} (h : (d.merge b).1.isOk) :
    d.merge b = (.ok (d.reported b), d.merged b) := by
  rw [merge_eq] at h ⊢
  cases hf : (d.visits b).findSome? d.refusal? with
  | some f => rw [hf] at h; exact absurd h (by simp [Except.isOk, Except.toBool])
  | none => rfl

theorem mergeAll_cons {d d' : Document} {b : Batch} {r : Except Failure MergeReport}
    (h : d.merge b = (r, d')) (bs : List Batch) :
    d.mergeAll (b :: bs) = (r :: (d'.mergeAll bs).1, (d'.mergeAll bs).2) := by
  simp only [mergeAll, h]

theorem mergeAll_append (bs cs : List Batch) : ∀ d : Document,
    d.mergeAll (bs ++ cs) = ((d.mergeAll bs).1 ++ ((d.mergeAll bs).2.mergeAll cs).1,
      ((d.mergeAll bs).2.mergeAll cs).2) := by
  induction bs with
  | nil => intro d; rfl
  | cons b bs ih =>
    intro d
    simp only [List.cons_append, mergeAll, ih]

theorem operation?_mergeAll : ∀ {bs : List Batch} {d : Document},
    (∀ r ∈ (d.mergeAll bs).1, r.isOk) → ∀ template method : String,
      (d.mergeAll bs).2.operation? template method = (d.operation? template method).map
        (·.withCaptures (bs.flatMap fun b => b.capturesOf template method))
  | [], d, _, template, method => by simp [mergeAll]
  | b :: bs, d, h, template, method => by
    have hfirst : (d.merge b).1.isOk := h _ (by simp [mergeAll])
    rw [mergeAll_cons (merge_of_isOk hfirst)] at h ⊢
    have hbs : ∀ r ∈ ((d.merged b).mergeAll bs).1, r.isOk := fun r hr =>
      h r (List.mem_cons_of_mem _ hr)
    rw [operation?_mergeAll hbs, operation?_merged, Option.map_map, List.flatMap_cons]
    simp only [Function.comp_def, Operation.withCaptures_append]

/-- After batches that are all accepted, every operation shows the captures that hit it. -/
theorem mergeAll_shows {d : Document} {bs : List Batch} (h : ∀ r ∈ (d.mergeAll bs).1, r.isOk)
    {template method : String} {o : Operation} (ho : d.operation? template method = some o) :
    ∃ o', (d.mergeAll bs).2.operation? template method = some o' ∧
      o.Shows (bs.flatMap fun b => b.capturesOf template method) o' := by
  refine ⟨o.withCaptures (bs.flatMap fun b => b.capturesOf template method), ?_, ?_⟩
  · rw [operation?_mergeAll h, ho, Option.map_some]
  · exact o.shows_withCaptures _

/-! ### Two batches on one operation -/

/-- An operation with a content type and a body parameter of its own. -/
def updateWidget : Operation where
  parameters := [{ name := "page", location := .query }, { name := "old", location := .body }]
  produces := ["text/csv"]

def widgets : Document where
  paths := .ofList [("/w/\x7bid\x7d/", .ofList [("put", updateWidget)])]

def firstWidgets : Batch := Batch.empty.recordAll [
  ("/w/7/", { method := "put", status := 200, contentType := "text/plain", response := "seven",
              request := some (.int 7) }),
  ("/w/x/", { method := "put", status := 200, contentType := "application/json", response := "?" })]

def laterWidgets : Batch := Batch.empty.recordAll [
  ("/w/8/", { method := "put", status := 201, contentType := "application/json",
              response := "[8]", request := some (.int 8) }),
  ("/w/9/", { method := "put", status := 400, contentType := "text/plain", response := "nine",
              request := some (.int 9) })]

theorem mergeAll_shows_widgets :
    (∀ r ∈ (widgets.mergeAll [firstWidgets, laterWidgets]).1, r.isOk) ∧
    widgets.operation? "/w/\x7bid\x7d/" "put" = some updateWidget ∧
    ∃ o', (widgets.mergeAll [firstWidgets, laterWidgets]).2.operation? "/w/\x7bid\x7d/" "put"
        = some o' ∧
      updateWidget.Shows ([firstWidgets, laterWidgets].flatMap fun b =>
        b.capturesOf "/w/\x7bid\x7d/" "put") o' := by
  have hok : ∀ r ∈ (widgets.mergeAll [firstWidgets, laterWidgets]).1, r.isOk := by
    decide +kernel
  have ho : widgets.operation? "/w/\x7bid\x7d/" "put" = some updateWidget := by rfl
  exact ⟨hok, ho, mergeAll_shows hok ho⟩

end Document

end SwaggerPress
