import SwaggerPress.Proofs.Merge.Visit

/-!
    When a batch is refused. A visit is *malformed* when it hits an operation with a body that is
    declared to be JSON and does not parse. A merge fails exactly when one of its visits is malformed,
    and then it fails for the first malformed one, templates ascending and the batch in order under
    each, with the document untouched, whatever had been absorbed before (`merge_refused`). -/

namespace SwaggerPress

/-- The visit hits an operation with a body that is declared to be JSON and fails to parse. -/
def Document.Malformed (d : Document) (v : Visit) (fault : Json.Fault) : Prop :=
  (∃ item, d.paths.get? v.1 = some item ∧ item.contains v.2.2.method) ∧
    PathTemplate.accepts v.1 v.2.1 ∧ v.2.2.contentType = jsonMediaType ∧ v.2.2.response ≠ "" ∧
    Json.parse v.2.2.response = .error fault

namespace Document

variable {d : Document}

theorem hit_eq_true_iff {v : Visit} :
    d.hit v = true ↔ PathTemplate.accepts v.1 v.2.1 ∧
      ∃ item, d.paths.get? v.1 = some item ∧ item.contains v.2.2.method := by
  rw [hit, Bool.and_eq_true, operation?]
  cases d.paths.get? v.1 <;> simp [SortedMap.contains]

theorem refusal?_eq_some_iff {v : Visit} {f : Failure} :
    d.refusal? v = some f ↔ ∃ fault, d.Malformed v fault ∧
      f = .exampleBody v.2.1 v.2.2.method v.2.2.statusText (.json fault) := by
  unfold refusal?
  by_cases hhit : d.hit v = true
  · rw [if_pos hhit, Option.map_eq_some_iff]
    obtain ⟨hacc, hitem⟩ := hit_eq_true_iff.1 hhit
    constructor
    · rintro ⟨fault, hfault, rfl⟩
      exact ⟨fault, ⟨hitem, hacc, Capture.bodyFault?_eq_some_iff.1 hfault⟩, rfl⟩
    · rintro ⟨fault, ⟨-, -, hfault⟩, rfl⟩
      exact ⟨fault, Capture.bodyFault?_eq_some_iff.2 hfault, rfl⟩
  · rw [if_neg hhit]
    constructor
    · intro h; exact nomatch h
    · rintro ⟨fault, ⟨hitem, hacc, -⟩, -⟩
      exact absurd (hit_eq_true_iff.2 ⟨hacc, hitem⟩) hhit

theorem refusal?_eq_none_iff {v : Visit} : d.refusal? v = none ↔ ∀ fault, ¬ d.Malformed v fault := by
  rw [Option.eq_none_iff_forall_ne_some]
  constructor
  · intro h fault hbad
    exact h _ (refusal?_eq_some_iff.2 ⟨fault, hbad, rfl⟩)
  · rintro h f hf
    obtain ⟨fault, hbad, -⟩ := refusal?_eq_some_iff.1 hf
    exact h fault hbad

theorem mem_visits {b : Batch} {template : String} {e : String × Capture} :
    (template, e) ∈ d.visits b ↔ template ∈ d.paths.keys ∧ e ∈ b.toList := by
  simp [visits]

theorem merge_eq_error_iff {b : Batch} {f : Failure} :
    (d.merge b).1 = .error f ↔ (d.visits b).findSome? d.refusal? = some f := by
  rw [merge_eq]
  cases (d.visits b).findSome? d.refusal? <;> simp

/-- A merge that fails leaves the document as it was. -/
theorem merge_of_error {b : Batch} {f : Failure} (h : (d.merge b).1 = .error f) :
    (d.merge b).2 = d := by
  rw [merge_eq, merge_eq_error_iff.1 h]

/-- A merge is refused exactly if a visit is malformed, for the first one that is, and leaves the
document untouched. -/
theorem merge_refused (d : Document) (b : Batch) :
    ((∃ f, (d.merge b).1 = .error f) ↔
      ∃ template ∈ d.paths.keys, ∃ e ∈ b.toList, ∃ fault, d.Malformed (template, e) fault) ∧
    ∀ f, (d.merge b).1 = .error f → (d.merge b).2 = d ∧
      ∃ before template e fault after,
        (d.paths.keys.flatMap fun t => b.toList.map fun e => (t, e))
          = before ++ (template, e) :: after ∧
        (∀ v ∈ before, ∀ fault, ¬ d.Malformed v fault) ∧ d.Malformed (template, e) fault ∧
        f = .exampleBody e.1 e.2.method e.2.statusText (.json fault) := by
  constructor
  · simp only [merge_eq_error_iff, ← Option.isSome_iff_exists, List.findSome?_isSome_iff]
    constructor
    · rintro ⟨⟨template, e⟩, hv, hf⟩
      obtain ⟨f, hf⟩ := Option.isSome_iff_exists.1 hf
      obtain ⟨fault, hbad, -⟩ := refusal?_eq_some_iff.1 hf
      obtain ⟨ht, he⟩ := mem_visits.1 hv
      exact ⟨template, ht, e, he, fault, hbad⟩
    · rintro ⟨template, ht, e, he, fault, hbad⟩
      refine ⟨(template, e), mem_visits.2 ⟨ht, he⟩, ?_⟩
      rw [refusal?_eq_some_iff.2 ⟨fault, hbad, rfl⟩]; rfl
  · intro f hf
    refine ⟨merge_of_error hf, ?_⟩
    obtain ⟨before, ⟨template, e⟩, after, hsplit, hfirst, hbefore⟩ :=
      List.findSome?_eq_some_iff.1 (merge_eq_error_iff.1 hf)
    obtain ⟨fault, hbad, rfl⟩ := refusal?_eq_some_iff.1 hfirst
    exact ⟨before, template, e, fault, after, hsplit,
      fun v hv => refusal?_eq_none_iff.1 (hbefore v hv), hbad, rfl⟩

end Document

end SwaggerPress
