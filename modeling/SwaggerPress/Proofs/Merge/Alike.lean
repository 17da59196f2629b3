import SwaggerPress.Proofs.Merge.Order

/-!
    Captures that merge alike. A merge looks at the path, the method, the status, the content type and
    the response of a capture, and of its request only at what was sent (`Capture.Alike`); a request
    that is `null` or empty counts as none. So a batch may be changed capture by capture within these
    bounds, and a merge of it comes to the same (`merge_alike`).

        get 200 text/plain "x"   request null     alike     get 200 text/plain "x"   no request -/

namespace SwaggerPress

/-- Two captures say the same to a merge. -/
structure Capture.Alike (c c' : Capture) : Prop where
  method : c'.method = c.method
  status : c'.status = c.status
  contentType : c'.contentType = c.contentType
  response : c'.response = c.response
  payload : c'.payload? = c.payload?

namespace Capture.Alike

variable {c c' : Capture}

theorem statusText (h : c.Alike c') : c'.statusText = c.statusText := by
  rw [Capture.statusText, Capture.statusText, h.status]

theorem isSuccess (h : c.Alike c') : c'.isSuccess = c.isSuccess := by
  rw [Capture.isSuccess, Capture.isSuccess, h.statusText]

theorem bodyFault? (h : c.Alike c') : c'.bodyFault? = c.bodyFault? := by
  rw [Capture.bodyFault?, Capture.bodyFault?, h.contentType, h.response]

theorem kept? (h : c.Alike c') : c'.kept? = c.kept? := by
  rw [Capture.kept?, Capture.kept?, h.contentType, h.response]

theorem refusal (h : c.Alike c') : c'.refusal = c.refusal := by
  funext path fault
  rw [Capture.refusal, Capture.refusal, h.method, h.statusText]

theorem withCapture (h : c.Alike c') (o : Operation) : o.withCapture c' c'.kept? =
    o.withCapture c c.kept? := by
  simp only [Operation.withCapture, h.contentType, h.isSuccess, h.payload, h.statusText, h.kept?]

end Capture.Alike

namespace Document

variable {f : Capture → Capture} {b b' : Batch}

/-- The visit with its capture changed. -/
def changed (f : Capture → Capture) (v : Visit) : Visit := (v.1, v.2.1, f v.2.2)

theorem withCaptures_alike (hf : ∀ c : Capture, c.Alike (f c)) (o : Operation)
    (cs : List Capture) : o.withCaptures (cs.map f) = o.withCaptures cs := by
  rw [Operation.withCaptures, List.foldl_map]
  simp only [(hf _).withCapture]
  rfl

variable (hf : ∀ c : Capture, c.Alike (f c))
  (hlist : b'.toList = b.toList.map fun e => (e.1, f e.2))

include hlist in
theorem visits_alike (d : Document) : d.visits b' = (d.visits b).map (changed f) := by
  rw [visits, visits, hlist, List.map_flatMap]
  simp only [List.map_map]
  rfl

include hf

theorem hit_changed (d : Document) (v : Visit) : d.hit (changed f v) = d.hit v := by
  rw [hit, hit, changed, (hf _).method]

theorem refusal?_changed (d : Document) (v : Visit) :
    d.refusal? (changed f v) = d.refusal? v := by
  rw [refusal?, refusal?, hit_changed hf]
  simp only [changed, (hf _).bodyFault?, (hf _).refusal]

include hlist

theorem hits_alike (d : Document) : d.hits b' = (d.hits b).map fun e => (e.1, f e.2) := by
  have hhit : d.hit ∘ changed f = d.hit := funext (hit_changed hf d)
  rw [hits, hits, visits_alike hlist, List.filter_map, hhit, List.map_map, List.map_map]
  rfl

theorem reported_alike (d : Document) : d.reported b' = d.reported b := by
  have hoccasion : ∀ e e' : String × Capture,
      sameOccasion (e.1, f e.2) (e'.1, f e'.2) = sameOccasion e e' := by
    intro e e'
    simp only [sameOccasion, Capture.sameSlot, (hf _).method, (hf _).status]
  simp only [reported, hits_alike hf hlist, hlist, List.length_map, List.filter_map, List.any_map,
    Function.comp_def, hoccasion]

theorem capturesOf_alike (template method : String) :
    b'.capturesOf template method = (b.capturesOf template method).map f := by
  simp only [Batch.capturesOf, hlist, List.filter_map, List.map_map, Function.comp_def,
    (hf _).method]

/-- A batch whose captures are changed to such that are alike is merged alike. -/
theorem merge_alike (d : Document) : d.merge b' = d.merge b := by
  have hrefusal : d.refusal? ∘ changed f = d.refusal? := funext (refusal?_changed hf d)
  have hmerged : d.merged b' = d.merged b := by
    simp only [merged_eq, capturesOf_alike hf hlist, withCaptures_alike hf]
  rw [merge_eq, merge_eq, visits_alike hlist, List.findSome?_map, hrefusal,
    reported_alike hf hlist, hmerged]

end Document

end SwaggerPress
