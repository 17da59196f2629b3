import SwaggerPress.Proofs.Merge.Order

/-!
    What a merge leaves alone. Captures write three fields of an operation, and each of these only in
    one direction: content types are added behind the old ones, of the parameters only those of the
    body are replaced, and of the responses only the examples under a status and a content type that a
    kept capture has (`Operation.Keeps`). Whatever is no operation that a capture hits stays as it
    is (`Document.Keeps`), and so does everything if the batch is refused.

        d ─ info, host, schemes, consumes, tags, extra      stay
          └ paths                                           the same templates and methods
              ├ an operation that is not hit                stays
              └ one that is hit ─ produces                  old ++ new
                                ├ parameters                without those of the body: old
                                └ responses                 description and extra: old -/

namespace SwaggerPress

/-- What of an operation is there still after captures. -/
structure Operation.Keeps (o : Operation) (cs : List Capture) (o' : Operation) : Prop where
  summary : o'.summary = o.summary
  description : o'.description = o.description
  deprecated : o'.deprecated = o.deprecated
  extra : o'.extra = o.extra
  produces : o.produces <+: o'.produces
  bodyless : o'.bodyless = o.bodyless
  /-- Examples are lost only where one of the captures is kept. -/
  responses : ∀ status r, o.responses.get? status = some r →
    ∃ r', o'.responses.get? status = some r' ∧
      r'.description = r.description ∧ r'.extra = r.extra ∧
      ∀ contentType, (∀ c ∈ cs, c.keptUnder? status contentType = none) →
        r'.examples.get? contentType = r.examples.get? contentType

/-- What of a document is there still after a batch. -/
structure Document.Keeps (d : Document) (b : Batch) (d' : Document) : Prop where
  info : d'.info = d.info
  host : d'.host = d.host
  schemes : d'.schemes = d.schemes
  consumes : d'.consumes = d.consumes
  tags : d'.tags = d.tags
  extra : d'.extra = d.extra
  /-- The templates are the same, and the methods under each. -/
  methods : d'.paths.map SortedMap.keys = d.paths.map SortedMap.keys
  missed : ∀ template method, ¬ b.Hits template method →
    d'.operation? template method = d.operation? template method
  hit : ∀ template method o, d.operation? template method = some o →
    ∃ o', d'.operation? template method = some o' ∧ o.Keeps (b.capturesOf template method) o'

/-! ### One operation -/

namespace Operation

variable {o o' : Operation} {cs : List Capture}

/-- What is shown under a response that was there. -/
theorem Shows.response (h : o.Shows cs o') {status : String} {r : Response}
    (hr : o.responses.get? status = some r) : ∃ r', o'.responses.get? status = some r' ∧
      r'.description = r.description ∧ r'.extra = r.extra := by
  have hbare := h.responses status
  have hold : o.bareResponse? status = some { r with examples := .empty } := by
    rw [bareResponse?, hr, Option.map_some]
  rw [hold, Option.getD_some, ite_self, bareResponse?, Option.map_eq_some_iff] at hbare
  obtain ⟨r', hr', heq⟩ := hbare
  rw [Response.mk.injEq] at heq
  exact ⟨r', hr', heq.1, heq.2.2⟩

/-- Where no capture is kept the examples stay. -/
theorem Shows.exampleAt? (h : o.Shows cs o') {status contentType : String}
    (hnone : ∀ c ∈ cs, c.keptUnder? status contentType = none) :
    o'.exampleAt? status contentType = o.exampleAt? status contentType := by
  rw [h.examples, List.filterMap_eq_nil_iff.2 hnone, List.getLast?_nil, Option.none_or]

theorem Shows.keeps (h : o.Shows cs o') : o.Keeps cs o' := by
  have hframe := h.frame
  simp only [Operation.frame, Prod.mk.injEq] at hframe
  obtain ⟨hsummary, hdescription, hdeprecated, hextra⟩ := hframe
  refine ⟨hsummary, hdescription, hdeprecated, hextra, ⟨_, h.produces.symm⟩, h.bodyless, ?_⟩
  intro status r hr
  obtain ⟨r', hr', hdesc, hextra'⟩ := h.response hr
  refine ⟨r', hr', hdesc, hextra', fun contentType hnone => ?_⟩
  have hexample := h.exampleAt? hnone
  rwa [Operation.exampleAt?, Operation.exampleAt?, hr', hr, Option.bind_some,
    Option.bind_some] at hexample

theorem keeps_refl (o : Operation) (cs : List Capture) : o.Keeps cs o :=
  ⟨rfl, rfl, rfl, rfl, List.prefix_rfl, rfl, fun _ r hr => ⟨r, hr, rfl, rfl, fun _ _ => rfl⟩⟩

end Operation

/-! ### The document -/

namespace Document

theorem keeps_refl (d : Document) (b : Batch) : d.Keeps b d :=
  ⟨rfl, rfl, rfl, rfl, rfl, rfl, rfl, fun _ _ _ => rfl, fun _ _ o ho => ⟨o, ho, o.keeps_refl _⟩⟩

theorem map_keys_merged (d : Document) (b : Batch) :
    (d.merged b).paths.map SortedMap.keys = d.paths.map SortedMap.keys := by
  simp only [merged, pathsAfter, SortedMap.map, SortedMap.mapWithKey_mapWithKey,
    SortedMap.keys_mapWithKey]

theorem keeps_merged (d : Document) (b : Batch) : d.Keeps b (d.merged b) where
  info := rfl
  host := rfl
  schemes := rfl
  consumes := rfl
  tags := rfl
  extra := rfl
  methods := d.map_keys_merged b
  missed template method hmiss := by
    rw [operation?_merged, Batch.capturesOf_eq_nil_iff.2 hmiss]
    exact Option.map_id'
  hit template method o ho := by
    refine ⟨o.withCaptures (b.capturesOf template method), ?_, (o.shows_withCaptures _).keeps⟩
    rw [operation?_merged, ho, Option.map_some]

/-- A merge leaves alone what no capture of the batch is about, whether or not it is accepted. -/
theorem merge_keeps (d : Document) (b : Batch) : d.Keeps b (d.merge b).2 := by
  rw [merge_snd]
  split
  · exact d.keeps_merged b
  · exact d.keeps_refl b

end Document

end SwaggerPress
