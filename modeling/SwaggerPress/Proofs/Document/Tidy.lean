import SwaggerPress.Pipeline
import SwaggerPress.Proofs.Document.Record
import SwaggerPress.Proofs.Json.Parsed
import SwaggerPress.Proofs.Merge.Visit

/-!
    Tidy documents. A document is *tidy* if the other members of its records have no name of a typed
    field, and if the values that it carries are canonical, a schema never being `null`: nothing
    that stands for absence, and nothing that would be read as something else. What is decoded from a
    canonical value is tidy (`Document.yields_tidy`), and so is what an edit leaves of a tidy document
    (`Tidy.edit`), so every document that is reached from a raw schema is (`Tidy.editAll`).

        raw schema ── ofRaw ──▶ d₀ ── edit ──▶ d₁ ── edit ──▶ … ── edit ──▶ dₙ
        canonical              tidy            tidy                        tidy                  -/

namespace SwaggerPress

open Json (asText asBool asOption asListOf asMapOf field? fieldOr otherMembers isCanonical_arr
  isCanonical_obj)

/-- The other members of a record, beside its typed fields. -/
structure TidyExtra (typed : List Field) (extra : SortedMap Json) : Prop where
  apart : Apart (names typed) extra
  canonical : extra.All Json.IsCanonical

def Info.Tidy (i : Info) : Prop := TidyExtra Info.typed i.extra

def Tag.Tidy (t : Tag) : Prop := TidyExtra Tag.typed t.extra

structure Parameter.Tidy (p : Parameter) : Prop where
  extra : TidyExtra Parameter.typed p.extra
  schema : ∀ v ∈ p.schema, v ≠ .null ∧ v.IsCanonical

theorem Parameter.Tidy.schema_ne_null {p : Parameter} (h : p.Tidy) : p.schema ≠ some .null :=
  fun hnull => (h.schema _ hnull).1 rfl

structure Response.Tidy (r : Response) : Prop where
  extra : TidyExtra Response.typed r.extra
  examples : r.examples.All Json.IsCanonical

structure Operation.Tidy (o : Operation) : Prop where
  extra : TidyExtra Operation.typed o.extra
  parameters : ∀ p ∈ o.parameters, p.Tidy
  responses : o.responses.All Response.Tidy

structure Document.Tidy (d : Document) : Prop where
  extra : TidyExtra Document.typed d.extra
  info : d.info.Tidy
  tags : ∀ t ∈ d.tags, t.Tidy
  paths : d.paths.All (SortedMap.All Operation.Tidy)

theorem tidyExtra_empty (typed : List Field) : TidyExtra typed .empty where
  apart _ hk := absurd hk List.not_mem_nil
  canonical := SortedMap.all_empty

theorem tidyExtra_otherMembers (typed : List Field) {members : List (String × Json)}
    (hv : (Json.obj members).IsCanonical) :
    TidyExtra typed (otherMembers (names typed) members) where
  apart := apart_otherMembers _ _
  canonical := SortedMap.all_ofList fun e he =>
    (isCanonical_obj.1 hv).2 e (List.mem_filter.1 he).1

/-! ### Decoded records -/

/-- What is decoded from canonical values has a property. -/
def Yields {α : Type} (decode : Json → Except Mismatch α) (P : α → Prop) : Prop :=
  ∀ v a, v.IsCanonical → decode v = .ok a → P a

section
variable {α : Type} {decode : Json → Except Mismatch α} {P : α → Prop}

theorem yields_ok : Yields .ok Json.IsCanonical := by
  rintro v _ hv ⟨⟩
  exact hv

theorem Yields.listOf (h : Yields decode P) : Yields (asListOf decode) fun xs => ∀ x ∈ xs, P x := by
  intro v xs hv hxs
  cases v with
  | arr items =>
    intro x hx
    obtain ⟨w, hw, hwx⟩ := exists_partner (decodeItems_eq_ok_iff.1 hxs) hx
    exact h w x (isCanonical_arr.1 hv w hw) hwx
  | _ => cases hxs

theorem Yields.mapOf (h : Yields decode P) : Yields (asMapOf decode) (SortedMap.All P) := by
  intro v m hv hm
  cases v with
  | obj members =>
    obtain ⟨xs, hxs, rfl⟩ := map_eq_ok_iff.1 hm
    refine SortedMap.all_ofList fun x hx => ?_
    obtain ⟨e, he, -, hex⟩ := exists_partner (decodeMembers_eq_ok_iff.1 hxs) hx
    exact h e.2 x.2 ((isCanonical_obj.1 hv).2 e he) hex
  | _ => cases hm

section
variable {name : String} {members : List (String × Json)} {a : α}

theorem Yields.fieldOr (h : Yields decode P) {absent : α} (habsent : P absent)
    (hv : (Json.obj members).IsCanonical) (ha : fieldOr name absent decode members = .ok a) :
    P a := by
  rw [fieldOr_eq_ok_iff] at ha
  cases hget : firstUnder? name members with
  | none => rw [hget] at ha; exact ha ▸ habsent
  | some v =>
    rw [hget] at ha
    exact h v a ((isCanonical_obj.1 hv).2 _ (mem_of_firstUnder? hget)) ha

theorem Yields.field? (h : Yields decode P) (hv : (Json.obj members).IsCanonical)
    (ha : field? name decode members = .ok (some a)) : P a := by
  obtain ⟨v, hget, ha⟩ := field?_eq_ok_some_iff.1 ha
  exact h v a ((isCanonical_obj.1 hv).2 _ (mem_of_firstUnder? hget)) ha

end

end

theorem Info.yields_tidy : Yields Info.decode Info.Tidy := by
  intro v i hv hi
  obtain ⟨members, rfl, -, -, -, hextra⟩ := Info.decode_eq_ok_iff.1 hi
  rw [Info.Tidy, hextra]
  exact tidyExtra_otherMembers _ hv

theorem Tag.yields_tidy : Yields Tag.decode Tag.Tidy := by
  intro v t hv ht
  obtain ⟨members, rfl, -, -, hextra⟩ := Tag.decode_eq_ok_iff.1 ht
  rw [Tag.Tidy, hextra]
  exact tidyExtra_otherMembers _ hv

/-- A schema that is read is never null. -/
theorem yields_schema : Yields (asOption .ok) fun schema : Option Json =>
    ∀ v ∈ schema, v ≠ .null ∧ v.IsCanonical := by
  intro v schema hv hschema w hw
  rw [Form.asOption_eq_ok_iff] at hschema
  split at hschema
  next => rw [hschema] at hw; cases hw
  next hnull =>
    obtain ⟨_, ⟨⟩, rfl⟩ := hschema
    cases hw
    exact ⟨hnull, hv⟩

theorem Parameter.yields_tidy : Yields Parameter.decode Parameter.Tidy := by
  intro v p hv hp
  obtain ⟨members, rfl, -, -, hschema, hextra⟩ := Parameter.decode_eq_ok_iff.1 hp
  exact {
    extra := hextra ▸ tidyExtra_otherMembers _ hv
    schema := yields_schema.fieldOr (by simp) hv hschema }

theorem Response.yields_tidy : Yields Response.decode Response.Tidy := by
  intro v r hv hr
  obtain ⟨members, rfl, -, hexamples, hextra⟩ := Response.decode_eq_ok_iff.1 hr
  exact {
    extra := hextra ▸ tidyExtra_otherMembers _ hv
    examples := yields_ok.mapOf.fieldOr SortedMap.all_empty hv hexamples }

theorem Operation.yields_tidy : Yields Operation.decode Operation.Tidy := by
  intro v o hv ho
  obtain ⟨members, rfl, -, -, hparameters, hresponses, -, -, hextra⟩ :=
    Operation.decode_eq_ok_iff.1 ho
  exact {
    extra := hextra ▸ tidyExtra_otherMembers _ hv
    parameters := Parameter.yields_tidy.listOf.fieldOr (List.forall_mem_nil _) hv hparameters
    responses := Response.yields_tidy.mapOf.fieldOr SortedMap.all_empty hv hresponses }

theorem Document.yields_tidy : Yields Document.decode Document.Tidy := by
  intro v d hv hd
  obtain ⟨members, rfl, hinfo, -, -, -, htags, hpaths, hextra⟩ := Document.decode_eq_ok_iff.1 hd
  have hnoInfo : Info.Tidy {} := tidyExtra_empty _
  exact {
    extra := hextra ▸ tidyExtra_otherMembers _ hv
    info := Info.yields_tidy.fieldOr hnoInfo hv hinfo
    tags := Tag.yields_tidy.listOf.field? hv htags
    paths := Operation.yields_tidy.mapOf.mapOf.field? hv hpaths }

/-! ### Edits -/

/-- One step of assembling, merging or releasing a document. The operations that a step is about are
chosen by template and method. -/
inductive Edit where
  | staticFields
  | description (text : String)
  | tags (config : TagConfig) (catalog : Option Catalog)
  | paths (version : String) (deprecated : Deprecations)
  | summaries (chosen : String → String → Bool)
  | versionParameters (chosen : String → String → Bool)
  | merge (b : Batch)
  | release (version : String)

/-- The payloads of a batch are canonical. -/
def Batch.IsCanonical (b : Batch) : Prop :=
  ∀ e ∈ b.toList, ∀ v ∈ e.2.request, v.IsCanonical

/-- What an edit brings along is canonical. -/
def Edit.IsCanonical : Edit → Prop
  | .merge b => b.IsCanonical
  | _ => True

namespace Document

/-- Changes the chosen operations. -/
def mapChosen (d : Document) (chosen : String → String → Bool) (f : Operation → Operation) :
    Document :=
  { d with
    paths := d.paths.mapWithKey fun template item =>
      SortedMap.mapWithKey item fun method o => if chosen template method then f o else o }

def edit (d : Document) : Edit → Except Failure Document
  | .staticFields => .ok d.withStaticFields
  | .description text => .ok (d.withDescription text)
  | .tags config catalog => .ok (d.withTags config catalog)
  | .paths version deprecated => .ok (d.resolvePaths version deprecated)
  | .summaries chosen => .ok (d.mapChosen chosen Operation.summarized)
  | .versionParameters chosen => .ok (d.mapChosen chosen Operation.withoutVersion)
  | .merge b => .ok (d.merge b).2
  | .release version => d.finalize version

/-- Edits a document again and again; only a release can fail. -/
def editAll (d : Document) : List Edit → Except Failure Document
  | [] => .ok d
  | e :: es => do (← d.edit e).editAll es

end Document

/-! ### Edited documents -/

section
variable {o : Operation}

theorem Operation.Tidy.summarized (h : o.Tidy) : o.summarized.Tidy := by
  unfold Operation.summarized
  split
  · exact h
  · split
    · exact h
    · exact ⟨h.extra, h.parameters, h.responses⟩

theorem Operation.Tidy.withoutVersion (h : o.Tidy) : o.withoutVersion.Tidy :=
  ⟨h.extra, fun p hp => h.parameters p (List.mem_filter.1 hp).1, h.responses⟩

theorem Parameter.tidy_bodyExample {payload : Json} (h : payload.IsCanonical) :
    (Parameter.bodyExample payload).Tidy where
  extra := tidyExtra_empty _
  schema := by
    rintro v ⟨⟩
    exact ⟨by simp, isCanonical_obj.2 ⟨List.pairwise_singleton _ _, by simpa using h⟩⟩

theorem Capture.isCanonical_kept {c : Capture} {v : Json} (h : c.kept? = some v) :
    v.IsCanonical := by
  unfold Capture.kept? at h
  split at h
  · cases h
  · split at h
    · cases hparse : Json.parse c.response with
      | error fault => rw [hparse] at h; cases h
      | ok w => rw [hparse] at h; cases h; exact Json.isCanonical_of_parse hparse
    · cases h; trivial

theorem Operation.Tidy.withExample (h : o.Tidy) (status contentType : String) {v : Json}
    (hv : v.IsCanonical) : (o.withExample status contentType v).Tidy := by
  have hr : ((o.responses.get? status).getD {}).Tidy := by
    cases hget : o.responses.get? status with
    | none => exact ⟨tidyExtra_empty _, SortedMap.all_empty⟩
    | some r => exact h.responses.get? hget
  exact ⟨h.extra, h.parameters, h.responses.insert status ⟨hr.extra, hr.examples.insert _ hv⟩⟩

theorem Capture.mem_request_of_shownPayload {c : Capture} {payload : Json}
    (h : c.shownPayload? = some payload) : payload ∈ c.request := by
  unfold Capture.shownPayload? at h
  split at h
  · exact (Option.filter_eq_some_iff.1 h).1
  · cases h

theorem Operation.Tidy.withCapture (h : o.Tidy) {c : Capture}
    (hc : ∀ v ∈ c.request, v.IsCanonical) : (o.withCapture c c.kept?).Tidy := by
  rw [withCapture_eq]
  refine ⟨h.extra, ?_, ?_⟩
  · cases hshown : c.shownPayload? with
    | none => exact h.parameters
    | some payload =>
      intro p hp
      rcases List.mem_append.1 hp with hp | hp
      · exact h.parameters p (List.mem_filter.1 hp).1
      · rw [List.mem_singleton.1 hp]
        exact Parameter.tidy_bodyExample (hc payload (Capture.mem_request_of_shownPayload hshown))
  · cases hkept : c.kept? with
    | none => exact h.responses
    | some v => exact (h.withExample _ _ (Capture.isCanonical_kept hkept)).responses

theorem Operation.Tidy.withCaptures : ∀ {cs : List Capture} {o : Operation}, o.Tidy →
    (∀ c ∈ cs, ∀ v ∈ c.request, v.IsCanonical) → (o.withCaptures cs).Tidy
  | [], _, h, _ => h
  | c :: cs, o, h, hcs => by
    rw [List.forall_mem_cons] at hcs
    have hrest : ((o.withCapture c c.kept?).withCaptures cs).Tidy :=
      withCaptures (h.withCapture hcs.1) hcs.2
    exact hrest

end

section
variable {d : Document}

/-- The captures that visits show an operation are those of the batch. -/
theorem mem_toList_of_mem_capturesAt {b : Batch} {template method : String} {c : Capture}
    (h : c ∈ capturesAt (d.visits b) template method) : ∃ path, (path, c) ∈ b.toList := by
  obtain ⟨v, hv, rfl⟩ := List.mem_map.1 h
  obtain ⟨t, -, hvisit⟩ := List.mem_flatMap.1 (List.mem_filter.1 hv).1
  obtain ⟨e, he, rfl⟩ := List.mem_map.1 hvisit
  exact ⟨e.1, he⟩

theorem Document.Tidy.merge (h : d.Tidy) {b : Batch} (hb : b.IsCanonical) :
    (d.merge b).2.Tidy := by
  rw [Document.merge_eq]
  split
  · exact h
  · refine ⟨h.extra, h.info, h.tags, h.paths.mapWithKey fun template item _ hitem => ?_⟩
    refine SortedMap.All.mapWithKey hitem fun method o _ ho => ho.withCaptures fun c hc => ?_
    obtain ⟨path, he⟩ := mem_toList_of_mem_capturesAt hc
    exact hb _ he

theorem Document.Tidy.mapChosen (h : d.Tidy) (chosen : String → String → Bool)
    {f : Operation → Operation} (hf : ∀ {o}, Operation.Tidy o → (f o).Tidy) :
    (d.mapChosen chosen f).Tidy := by
  refine ⟨h.extra, h.info, h.tags, h.paths.mapWithKey fun template item _ hitem => ?_⟩
  refine SortedMap.All.mapWithKey hitem fun method o _ ho => ?_
  split
  · exact hf ho
  · exact ho

theorem PathItem.tidy_mark {item : PathItem} (h : SortedMap.All Operation.Tidy item)
    (deprecated : Bool) : SortedMap.All Operation.Tidy (item.mark deprecated) := by
  unfold PathItem.mark
  split
  · exact SortedMap.All.mapWithKey h fun _ o _ ho => ⟨ho.extra, ho.parameters, ho.responses⟩
  · exact h

theorem Document.Tidy.resolvePaths (h : d.Tidy) (version : String) (deprecated : Deprecations) :
    (d.resolvePaths version deprecated).Tidy := by
  refine ⟨h.extra, h.info, h.tags, SortedMap.all_ofList fun e he => ?_⟩
  obtain ⟨e', he', rfl⟩ := List.mem_map.1 he
  exact PathItem.tidy_mark (h.paths e' he') _

theorem Document.Tidy.withTags (h : d.Tidy) (config : TagConfig) (catalog : Option Catalog) :
    (d.withTags config catalog).Tidy := by
  refine ⟨h.extra, h.info, fun t ht => ?_, h.paths⟩
  rcases List.mem_append.1 ht with ht | ht
  · exact h.tags t ht
  · obtain ⟨c, -, rfl⟩ := List.mem_map.1 ht
    exact tidyExtra_empty _

/-- An edit leaves a tidy document tidy. -/
theorem Document.Tidy.edit (h : d.Tidy) {e : Edit} (he : e.IsCanonical) {d' : Document}
    (hd : d.edit e = .ok d') : d'.Tidy := by
  cases e with
  | staticFields => cases hd; exact ⟨h.extra, h.info, h.tags, h.paths⟩
  | description text => cases hd; exact ⟨h.extra, h.info, h.tags, h.paths⟩
  | tags config catalog => cases hd; exact h.withTags config catalog
  | paths version deprecated => cases hd; exact h.resolvePaths version deprecated
  | summaries chosen => cases hd; exact h.mapChosen chosen Operation.Tidy.summarized
  | versionParameters chosen => cases hd; exact h.mapChosen chosen Operation.Tidy.withoutVersion
  | merge b => cases hd; exact h.merge he
  | release version =>
    obtain ⟨-, -, rfl⟩ := Document.finalize_eq_ok_iff.1 hd
    exact ⟨h.extra, h.info, h.tags, h.paths⟩

/-- A tidy document stays tidy, however often it is edited. -/
theorem Document.Tidy.editAll : ∀ {es : List Edit} {d d' : Document}, d.Tidy →
    (∀ e ∈ es, e.IsCanonical) → d.editAll es = .ok d' → d'.Tidy
  | [], _, _, h, _, hd => by cases hd; exact h
  | e :: es, d, d', h, hes, hd => by
    rw [List.forall_mem_cons] at hes
    obtain ⟨d₁, hfirst, hrest⟩ := bind_eq_ok_iff.1 hd
    exact Document.Tidy.editAll (h.edit hes.1 hfirst) hes.2 hrest

end

/-- Assembling a document is a sequence of edits. -/
theorem Document.normalize_eq_editAll (d : Document) (description : Option String)
    (config : Option TagConfig) (settings : Settings) (deprecated : Deprecations) :
    d.editAll ([.staticFields] ++ description.toList.map .description ++
      config.toList.map (.tags · settings.catalog) ++
      [.paths settings.version deprecated, .summaries fun _ _ => true,
        .versionParameters fun _ _ => true]) =
      .ok (d.normalize description config settings deprecated) := by
  have hchosen : ∀ d : Document, (d.mapChosen (fun _ _ => true) Operation.summarized).mapChosen
      (fun _ _ => true) Operation.withoutVersion =
        d.mapOperations fun o => o.summarized.withoutVersion := by
    intro d
    simp [mapChosen, mapOperations, SortedMap.map, SortedMap.mapWithKey_mapWithKey]
  cases description <;> cases config <;> exact congrArg Except.ok (hchosen _)

end SwaggerPress
