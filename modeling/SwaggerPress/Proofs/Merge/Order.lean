import SwaggerPress.Proofs.Merge.Skeleton

/-!
    Batches merged again, and in another order. What an operation shows after captures determines it
    (`Shows.unique`), and an operation that shows captures already shows them again without a change
    (`Shows.again`): the earlier values that come back on the way are replaced once more by the last.
    So a merge that is repeated changes nothing (`merge_merge`). Two batches that hit no operation in
    common may be merged in either order, whether or not they are accepted (`merge_comm`).

        o ── c₁ c₂ c₃ ──▶ o' ── c₁ c₂ c₃ ──▶ o'

        d ── b₁ ──▶ d₁ ── b₂ ──▶ d'
        d ── b₂ ──▶ d₂ ── b₁ ──▶ d' -/

namespace SwaggerPress

namespace Operation

/-- The responses are what is seen of them: each without its examples, and each example. -/
theorem responses_eq {o p : Operation}
    (hbare : ∀ status, o.bareResponse? status = p.bareResponse? status)
    (hexample : ∀ status contentType,
      o.exampleAt? status contentType = p.exampleAt? status contentType) :
    o.responses = p.responses := by
  refine SortedMap.ext_get? fun status => ?_
  have hb := hbare status
  have he := hexample status
  simp only [bareResponse?, exampleAt?] at hb he
  cases ho : o.responses.get? status with
  | none =>
    cases hp : p.responses.get? status with
    | none => rfl
    | some r => simp [ho, hp] at hb
  | some r =>
    cases hp : p.responses.get? status with
    | none => simp [ho, hp] at hb
    | some s =>
      rw [ho, hp] at hb
      have hexamples : r.examples = s.examples := by
        refine SortedMap.ext_get? fun contentType => ?_
        have hct := he contentType
        rwa [ho, hp, Option.bind_some, Option.bind_some] at hct
      cases r
      cases s
      simp_all

variable {o o' p : Operation} {cs : List Capture}

/-- Captures leave one operation. -/
theorem Shows.unique (h : Shows o cs o') (h' : Shows o cs p) : o' = p := by
  have hproduces := h.produces.trans h'.produces.symm
  have hparameters := h.parameters.trans h'.parameters.symm
  have hframe := h.frame.trans h'.frame.symm
  have hresponses : o'.responses = p.responses :=
    responses_eq (fun status => (h.responses status).trans (h'.responses status).symm)
      fun status contentType => (h.examples status contentType).trans (h'.examples _ _).symm
  cases o'
  cases p
  simp only [Operation.frame, Prod.mk.injEq] at hframe
  obtain ⟨rfl, rfl, rfl, rfl⟩ := hframe
  cases hproduces
  cases hparameters
  cases hresponses
  rfl

/-- An operation that shows captures shows them again without a change. -/
theorem Shows.again (h : Shows o cs o') : Shows o' cs o' where
  produces := by
    -- every content type of `cs` that counts is listed by now
    have hnone : ((cs.map (·.contentType)).filter fun t => t ≠ "" ∧ t ∉ o'.produces) = [] := by
      rw [List.filter_eq_nil_iff]
      intro t ht hnew
      obtain ⟨hne, hnew⟩ := of_decide_eq_true hnew
      rw [h.produces, List.mem_append, List.mem_eraseDups, not_or] at hnew
      exact hnew.2 (List.mem_filter.2 ⟨ht, decide_eq_true ⟨hne, hnew.1⟩⟩)
    rw [hnone, List.eraseDups_nil, List.append_nil]
  parameters := by
    have hparameters := h.parameters
    cases hlast : (cs.filterMap Capture.shownPayload?).getLast? with
    | none => rfl
    | some payload =>
      rw [hlast, Option.elim_some] at hparameters
      rw [Option.elim_some, h.bodyless, hparameters]
  examples status contentType := by
    rw [h.examples]
    cases (cs.filterMap (Capture.keptUnder? status contentType)).getLast? <;> rfl
  responses status := by
    rw [h.responses]
    split <;> rfl
  frame := rfl

theorem withCaptures_again (o : Operation) (cs : List Capture) :
    (o.withCaptures cs).withCaptures cs = o.withCaptures cs :=
  (shows_withCaptures _ cs).unique (shows_withCaptures o cs).again

end Operation

/-! ### Whole documents -/

namespace Document

variable {d : Document}

/-- Changes every operation, told its template and method. -/
def mapEach (d : Document) (f : String → String → Operation → Operation) : Document :=
  { d with paths := d.paths.mapWithKey fun template item => item.mapWithKey (f template) }

theorem mapEach_mapEach (d : Document) (f g : String → String → Operation → Operation) :
    (d.mapEach f).mapEach g = d.mapEach fun template method o =>
      g template method (f template method o) := by
  simp only [mapEach, SortedMap.mapWithKey_mapWithKey]

/-- What is changed alike wherever there is an operation is changed alike. -/
theorem mapEach_congr {f g : String → String → Operation → Operation}
    (h : ∀ pair ∈ d.skeleton, ∀ o, f pair.1 pair.2 o = g pair.1 pair.2 o) :
    d.mapEach f = d.mapEach g := by
  have hpaths : (d.paths.mapWithKey fun template item => item.mapWithKey (f template)) =
      d.paths.mapWithKey fun template item => item.mapWithKey (g template) := by
    refine SortedMap.mapWithKey_congr fun template item hitem => ?_
    refine SortedMap.mapWithKey_congr fun method o ho => ?_
    refine h (template, method) (mem_skeleton_iff.2 ⟨o, ?_⟩) o
    exact operation?_eq_some_iff.2 ⟨item, hitem, ho⟩
  rw [mapEach, hpaths, ← mapEach]

/-- An accepted batch gives every operation its own captures. -/
theorem merged_eq (d : Document) (b : Batch) : d.merged b =
    d.mapEach fun template method o => o.withCaptures (b.capturesOf template method) := by
  have hvisits : d.merged b = d.mapEach fun template method o =>
      o.withCaptures (capturesAt (d.visits b) template method) := rfl
  rw [hvisits]
  refine mapEach_congr fun pair hpair o => ?_
  obtain ⟨o, ho⟩ := mem_skeleton_iff.1 hpair
  obtain ⟨item, hitem, -⟩ := operation?_eq_some_iff.1 ho
  rw [capturesAt_visits d b _ (SortedMap.mem_keys_iff.2 ⟨item, hitem⟩)]

theorem merged_merged_self (d : Document) (b : Batch) : (d.merged b).merged b = d.merged b := by
  rw [merged_eq, merged_eq, mapEach_mapEach]
  simp only [Operation.withCaptures_again]

/-- A merge made again has the same result and changes nothing. -/
theorem merge_merge (d : Document) (b : Batch) : (d.merge b).2.merge b = d.merge b := by
  have hresult : ((d.merge b).2.merge b).1 = (d.merge b).1 := merge_fst_merge d b b
  refine Prod.ext hresult ?_
  cases h : (d.merge b).1 with
  | error f => rw [merge_of_error (hresult.trans h)]
  | ok r =>
    have hok : (d.merge b).1.isOk := by rw [h]; rfl
    rw [merge_of_isOk (hresult ▸ hok), merge_of_isOk hok, merged_merged_self]

end Document

/-! ### Batches that hit nothing in common -/

namespace Batch

/-- A capture of the batch is of the method and on a path that the template accepts. -/
def Hits (b : Batch) (template method : String) : Prop :=
  ∃ e ∈ b.toList, PathTemplate.accepts template e.1 ∧ e.2.method = method

instance (b : Batch) (template method : String) : Decidable (b.Hits template method) :=
  inferInstanceAs (Decidable (∃ e ∈ b.toList, _))

theorem capturesOf_eq_nil_iff {b : Batch} {template method : String} :
    b.capturesOf template method = [] ↔ ¬ b.Hits template method := by
  rw [capturesOf, List.map_eq_nil_iff, List.filter_eq_nil_iff, Hits]
  simp

end Batch

namespace Document

variable {d : Document} {b₁ b₂ : Batch}

theorem merge_snd (d : Document) (b : Batch) :
    (d.merge b).2 = if (d.merge b).1.isOk then d.merged b else d := by
  rw [merge_eq]
  cases (d.visits b).findSome? d.refusal? <;> rfl

theorem merged_comm
    (h : ∀ pair ∈ d.skeleton, ¬ (b₁.Hits pair.1 pair.2 ∧ b₂.Hits pair.1 pair.2)) :
    (d.merged b₁).merged b₂ = (d.merged b₂).merged b₁ := by
  simp only [merged_eq, mapEach_mapEach]
  refine mapEach_congr fun pair hpair o => ?_
  rcases not_and_or.1 (h pair hpair) with hnone | hnone
  · rw [Batch.capturesOf_eq_nil_iff.2 hnone]
    rfl
  · rw [Batch.capturesOf_eq_nil_iff.2 hnone]
    rfl

/-- Batches that hit no operation in common come to the same in either order, each with its own
result, whether or not they are accepted. -/
theorem merge_comm
    (h : ∀ pair ∈ d.skeleton, ¬ (b₁.Hits pair.1 pair.2 ∧ b₂.Hits pair.1 pair.2)) :
    ∃ r₁ r₂ d', d.mergeAll [b₁, b₂] = ([r₁, r₂], d') ∧ d.mergeAll [b₂, b₁] = ([r₂, r₁], d') := by
  have hfirst : ((d.merge b₂).2.merge b₁).1 = (d.merge b₁).1 := merge_fst_merge d b₂ b₁
  have hsecond : ((d.merge b₁).2.merge b₂).1 = (d.merge b₂).1 := merge_fst_merge d b₁ b₂
  have hend : ((d.merge b₂).2.merge b₁).2 = ((d.merge b₁).2.merge b₂).2 := by
    rw [merge_snd (d.merge b₂).2 b₁, merge_snd (d.merge b₁).2 b₂, hfirst, hsecond, merge_snd d b₁,
      merge_snd d b₂]
    by_cases h₁ : (d.merge b₁).1.isOk
    · by_cases h₂ : (d.merge b₂).1.isOk
      · simp only [h₁, h₂, if_true, merged_comm h]
      · simp [h₁, h₂]
    · simp [h₁]
  refine ⟨(d.merge b₁).1, (d.merge b₂).1, ((d.merge b₁).2.merge b₂).2, ?_, ?_⟩
  · simp only [mergeAll, hsecond]
  · simp only [mergeAll, hfirst, hend]

/-- Two templates, of which the second accepts whatever the first does. -/
def gadgets : Document where
  paths := .ofList [
    ("/g/\x7bid\x7d/", .ofList [("get", {}), ("put", {})]),
    ("/g/\x7bname\x7d/", .ofList [("get", { produces := ["text/csv"] })])]

/-- Hits an operation, and nothing with its second capture. -/
def gadgetUpdates : Batch := Batch.empty.recordAll [
  ("/g/7/", { method := "put", status := 200, contentType := "text/plain", response := "seven",
              request := some (.int 7) }),
  ("/g/x/", { method := "put", status := 200, contentType := "text/plain", response := "x" })]

/-- Hits under both templates, and is refused for its second capture. -/
def gadgetViews : Batch := Batch.empty.recordAll [
  ("/g/7/", { method := "get", status := 200, contentType := "text/plain", response := "seven" }),
  ("/g/8/", { method := "get", status := 200, contentType := "application/json",
              response := "?" })]

theorem merge_comm_gadgets :
    (∀ pair ∈ gadgets.skeleton,
      ¬ (gadgetUpdates.Hits pair.1 pair.2 ∧ gadgetViews.Hits pair.1 pair.2)) ∧
    ∃ r₁ r₂ d', gadgets.mergeAll [gadgetUpdates, gadgetViews] = ([r₁, r₂], d') ∧
      gadgets.mergeAll [gadgetViews, gadgetUpdates] = ([r₂, r₁], d') := by
  have h : ∀ pair ∈ gadgets.skeleton,
      ¬ (gadgetUpdates.Hits pair.1 pair.2 ∧ gadgetViews.Hits pair.1 pair.2) := by
    decide +kernel
  exact ⟨h, merge_comm h⟩

end Document

end SwaggerPress
