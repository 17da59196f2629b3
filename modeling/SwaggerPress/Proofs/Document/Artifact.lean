import SwaggerPress.Proofs.Document.Decoding
import SwaggerPress.Proofs.Document.Tidy
import SwaggerPress.Proofs.Json.ReadBack

/-!
    The published JSON is the document. A tidy record is written with no name twice
    (`namesDistinct_record`) and is decoded from what was written field by field
    (`fieldOr_of_filled`, `fieldOr_of_dropped`), up to its wordings, which are plain where they have
    been read; so is a list or a map of records, and a whole document (`Document.roundTrips`). With
    the text of a value read back as the value, the text of a published document is an image of it
    (`render_reads_back`).

        d ── encode ──▶ value ── pretty ──▶ text
        │                 ▲                  │
     resolved         canonical ◀── parse ───┘
        ▲                 │
        └──── ofRaw ──────┘                                                                      -/

namespace SwaggerPress

open Json (asText asBool asOption asListOf asMapOf field? fieldOr otherMembers canonicalMembers
  namesDistinct_arr namesDistinct_obj namesDistinct_of_isCanonical)

/-! ### Resolved documents -/

/-- The wording as the text that it resolves to. -/
def Wording.resolved (w : Wording Id) : Wording Id := .plain w.text

def Info.resolved (i : Info) : Info :=
  { i with title := i.title.resolved, description := i.description.map Wording.resolved }

def Tag.resolved (t : Tag) : Tag :=
  { t with description := t.description.map Wording.resolved }

def Response.resolved (r : Response) : Response :=
  { r with description := r.description.resolved }

def Operation.resolved (o : Operation) : Operation :=
  { o with
    description := o.description.map Wording.resolved
    responses := o.responses.map Response.resolved }

/-- The document with the text of every wording in its place; documents are the same if this is. -/
def Document.resolved (d : Document) : Document :=
  { d with
    info := d.info.resolved
    tags := d.tags.map Tag.resolved
    paths := d.paths.map fun item => item.map Operation.resolved }

/-! ### Names of what is written -/

section
variable {α : Type} {encode : α → Json}

theorem namesDistinct_encodeOption {o : Option α} (h : ∀ a ∈ o, (encode a).namesDistinct) :
    (encodeOption encode o).namesDistinct := by
  cases o with
  | none => rfl
  | some a => exact h a rfl

theorem namesDistinct_encodeList {xs : List α} (h : ∀ a ∈ xs, (encode a).namesDistinct) :
    (encodeList encode xs).namesDistinct :=
  namesDistinct_arr.2 (List.forall_mem_map.2 h)

theorem namesDistinct_encodeMap {m : SortedMap α} (h : m.All fun a => (encode a).namesDistinct) :
    (encodeMap encode m).namesDistinct := by
  refine namesDistinct_obj.2 ⟨(m.map encode).nodup_keys, fun e he => ?_⟩
  obtain ⟨e', he', rfl⟩ := List.mem_map.1 he
  exact h e' he'

end

section
variable {typed : List Field} {rows : List (Field × Json)} {extra : SortedMap Json}

theorem names_rows (htyped : rows.map (·.1) = typed) : rows.map (·.1.name) = names typed := by
  rw [← htyped, names, List.map_map]; rfl

theorem Field.eq_of_written? {f : Field} {v w : Json} (h : f.written? v = some w) : w = v := by
  unfold Field.written? at h
  split at h
  · split at h <;> cases h
    rfl
  · cases h; rfl

theorem namesDistinct_record (typed : List Field) (htyped : rows.map (·.1) = typed)
    (hnames : (names typed).Nodup) (hextra : TidyExtra typed extra)
    (hrows : ∀ r ∈ rows, r.2.namesDistinct) :
    (Json.obj (recordMembers rows extra)).namesDistinct := by
  rw [← names_rows htyped] at hnames
  have hapart : Apart (rows.map (·.1.name)) extra := names_rows htyped ▸ hextra.apart
  refine namesDistinct_obj.2 ⟨nodup_recordMembers hnames hapart, fun e he => ?_⟩
  rcases List.mem_append.1 he with he | he
  · obtain ⟨r, hr, hwritten⟩ := List.mem_filterMap.1 he
    obtain ⟨v, hv, rfl⟩ := Option.map_eq_some_iff.1 hwritten
    rw [Field.eq_of_written? hv]
    exact hrows r hr
  · exact namesDistinct_of_isCanonical (hextra.canonical e he)

/-! ### Reading what is written -/

/-- Under the name of a typed field stands what is written for it. -/
theorem firstUnder?_record (typed : List Field) (rows : List (Field × Json))
    (htyped : rows.map (·.1) = typed) (hnames : (names typed).Nodup)
    (hextra : TidyExtra typed extra) : ∀ r ∈ rows,
      firstUnder? r.1.name (canonicalMembers (recordMembers rows extra)).entries =
        r.1.written? r.2.canonical := by
  rw [← names_rows htyped] at hnames
  have hapart : Apart (rows.map (·.1.name)) extra := names_rows htyped ▸ hextra.apart
  exact fun r hr => get?_record_of_mem hnames hapart hr

/-- The other members are read as they were. -/
theorem otherMembers_record (typed : List Field) (rows : List (Field × Json))
    (htyped : rows.map (·.1) = typed) (hnames : (names typed).Nodup)
    (hextra : TidyExtra typed extra) :
    otherMembers (names typed) (canonicalMembers (recordMembers rows extra)).entries = extra := by
  have hnodup := names_rows htyped ▸ hnames
  have hapart : Apart (rows.map (·.1.name)) extra := names_rows htyped ▸ hextra.apart
  refine SortedMap.ext_get? fun k => ?_
  rw [get?_otherMembers _ (canonicalMembers (recordMembers rows extra)).ascending]
  by_cases hk : k ∈ names typed
  · rw [if_pos hk, eq_comm, SortedMap.get?, firstUnder?_eq_none_iff]
    exact fun hmem => hextra.apart k hmem hk
  · have hget := get?_record_of_not_mem hnodup hapart (names_rows htyped ▸ hk)
    rw [if_neg hk]
    refine hget.trans ?_
    cases hextra' : extra.get? k with
    | none => rfl
    | some v =>
      rw [Option.map_some, Json.canonical_of_isCanonical (hextra.canonical.get? hextra')]

end

section
variable {α : Type} {f : Field} {decode : Json → Except Mismatch α}
  {members : List (String × Json)} {name : String} {v : Json} {a : α}

/-- A field that is always written is read from what was written. -/
theorem fieldOr_of_filled {absent : α} {filler : Json}
    (hget : firstUnder? name members = f.written? v) (hdecode : decode v = .ok a)
    (hf : f.absence = .filled filler) :
    fieldOr name absent decode members = .ok a := by
  rw [fieldOr_eq_ok_iff, hget, Field.written?, hf]
  exact hdecode

/-- A field that is left out where it is blank is read as what the blank value is read as. -/
theorem fieldOr_of_dropped {absent : α} {blank : Blank}
    (hget : firstUnder? name members = f.written? v) (hdecode : decode v = .ok a)
    (hf : f.absence = .dropped blank) (habsent : decode blank.json = .ok absent) :
    fieldOr name absent decode members = .ok a := by
  rw [fieldOr_eq_ok_iff, hget, Field.written?, hf]
  by_cases hv : v = blank.json
  · rw [← hv, hdecode] at habsent
    simpa [hv] using (Except.ok.inj habsent).symm
  · simpa [hv] using hdecode

theorem field?_of_written (hget : firstUnder? name members = f.written? v)
    (hdecode : decode v = .ok a) (hf : f.absence = .refused) :
    field? name decode members = .ok (some a) := by
  rw [field?_eq_ok_some_iff]
  refine ⟨v, ?_, hdecode⟩
  rw [hget, Field.written?, hf]

end

/-- What is written for a value is read as the value, up to its wordings. -/
def RoundTrips {α : Type} (decode : Json → Except Mismatch α) (encode : α → Json)
    (resolved : α → α) (a : α) : Prop := decode (encode a).canonical = .ok (resolved a)

section
variable {α : Type} {decode : Json → Except Mismatch α} {encode : α → Json} {resolved : α → α}

theorem roundTrips_nullable {o : Option α} (h : ∀ a ∈ o, RoundTrips decode encode resolved a ∧
    (encode a).canonical ≠ .null) :
    RoundTrips (asOption decode) (encodeOption encode) (Option.map resolved) o := by
  rw [RoundTrips, Form.asOption_eq_ok_iff]
  cases o with
  | none => rfl
  | some a =>
    obtain ⟨hread, hnull⟩ := h a rfl
    exact (if_neg hnull).mpr ⟨_, hread, rfl⟩

theorem roundTrips_listOf {xs : List α} (h : ∀ a ∈ xs, RoundTrips decode encode resolved a) :
    RoundTrips (asListOf decode) (encodeList encode) (List.map resolved) xs := by
  rw [RoundTrips, encodeList, Json.canonical_arr, asListOf, decodeItems_eq_ok_iff, List.map_map,
    List.forall₂_map_left_iff, List.forall₂_map_right_iff, List.forall₂_same]
  exact h

theorem roundTrips_mapOf {m : SortedMap α} (h : m.All (RoundTrips decode encode resolved)) :
    RoundTrips (asMapOf decode) (encodeMap encode) (·.map resolved) m := by
  rw [RoundTrips, Form.canonical_encodeMap, encodeMap, Json.ofMap, asMapOf, map_eq_ok_iff]
  refine ⟨(m.map resolved).entries, ?_, SortedMap.ofList_entries _⟩
  rw [decodeMembers_eq_ok_iff, SortedMap.map, SortedMap.map, SortedMap.entries_mapWithKey,
    SortedMap.entries_mapWithKey, List.forall₂_map_left_iff, List.forall₂_map_right_iff,
    List.forall₂_same]
  exact fun e he => ⟨rfl, h e he⟩

end

/-- A text is read as it is. -/
theorem roundTrips_text (s : String) : RoundTrips asText .str id s := rfl

theorem roundTrips_texts (texts : List String) :
    RoundTrips (asListOf asText) (encodeList .str) id texts :=
  (roundTrips_listOf fun s _ => roundTrips_text s).trans (congrArg Except.ok texts.map_id)

theorem roundTrips_textOption (o : Option String) :
    RoundTrips (asOption asText) (encodeOption .str) id o := by
  cases o <;> rfl

theorem roundTrips_wording (w : Wording Id) :
    RoundTrips Wording.decode Wording.toJson Wording.resolved w := rfl

theorem roundTrips_wordingOption (o : Option (Wording Id)) :
    RoundTrips (asOption Wording.decode) (encodeOption Wording.toJson)
      (Option.map Wording.resolved) o :=
  roundTrips_nullable fun w _ => ⟨roundTrips_wording w, by simp [Wording.toJson, Json.canonical]⟩

/-- A value is read as it is. -/
theorem roundTrips_any {v : Json} (h : v.IsCanonical) : RoundTrips .ok id id v := by
  rw [RoundTrips, id, Json.canonical_of_isCanonical h]

/-! ### The six records -/

theorem Info.Tidy.roundTrips {i : Info} (h : i.Tidy) :
    RoundTrips Info.decode Info.encode Info.resolved i := by
  have hget := firstUnder?_record Info.typed i.rows rfl (by decide) h
  have hextra := otherMembers_record Info.typed i.rows rfl (by decide) h
  rw [RoundTrips, Info.encode_eq, Json.canonical, Info.decode_eq_ok_iff]
  generalize (canonicalMembers (recordMembers i.rows i.extra)).entries = members at hget hextra ⊢
  simp only [Info.rows, Info.typed, List.zip_cons_cons, List.zip_nil_left,
    List.forall_mem_cons] at hget
  obtain ⟨ht, hv, hd, -⟩ := hget
  exact ⟨_, rfl, fieldOr_of_filled ht (roundTrips_wording _) rfl,
    fieldOr_of_filled hv (roundTrips_text _) rfl,
    fieldOr_of_dropped hd (roundTrips_wordingOption _) rfl rfl, hextra.symm⟩

theorem Tag.Tidy.roundTrips {t : Tag} (h : t.Tidy) :
    RoundTrips Tag.decode Tag.encode Tag.resolved t := by
  have hget := firstUnder?_record Tag.typed t.rows rfl (by decide) h
  have hextra := otherMembers_record Tag.typed t.rows rfl (by decide) h
  rw [RoundTrips, Tag.encode_eq, Json.canonical, Tag.decode_eq_ok_iff]
  generalize (canonicalMembers (recordMembers t.rows t.extra)).entries = members at hget hextra ⊢
  simp only [Tag.rows, Tag.typed, List.zip_cons_cons, List.zip_nil_left,
    List.forall_mem_cons] at hget
  obtain ⟨hn, hd, -⟩ := hget
  exact ⟨_, rfl, field?_of_written hn (roundTrips_text _) rfl,
    fieldOr_of_dropped hd (roundTrips_wordingOption _) rfl rfl, hextra.symm⟩

theorem roundTrips_location (l : Location) :
    RoundTrips Location.decode Location.encode id l :=
  Location.decode_eq_ok_iff.2 (.inl rfl)

theorem Parameter.Tidy.roundTrips {p : Parameter} (h : p.Tidy) :
    RoundTrips Parameter.decode Parameter.encode id p := by
  have hget := firstUnder?_record Parameter.typed p.rows rfl (by decide) h.extra
  have hextra := otherMembers_record Parameter.typed p.rows rfl (by decide) h.extra
  have hschema : RoundTrips (asOption .ok) (encodeOption id) (Option.map id) p.schema := by
    refine roundTrips_nullable fun v hv => ?_
    obtain ⟨hne, hcan⟩ := h.schema v hv
    exact ⟨roundTrips_any hcan, by rwa [id, Json.canonical_of_isCanonical hcan]⟩
  rw [Option.map_id] at hschema
  rw [RoundTrips, Parameter.encode_eq h.schema_ne_null, Json.canonical, Parameter.decode_eq_ok_iff]
  generalize (canonicalMembers (recordMembers p.rows p.extra)).entries = members at hget hextra ⊢
  simp only [Parameter.rows, Parameter.typed, List.zip_cons_cons, List.zip_nil_left,
    List.forall_mem_cons] at hget
  obtain ⟨hn, hl, hs, -⟩ := hget
  exact ⟨_, rfl, field?_of_written hn (roundTrips_text _) rfl,
    field?_of_written hl (roundTrips_location _) rfl,
    fieldOr_of_dropped hs hschema rfl rfl, hextra.symm⟩

theorem Response.Tidy.roundTrips {r : Response} (h : r.Tidy) :
    RoundTrips Response.decode Response.encode Response.resolved r := by
  have hget := firstUnder?_record Response.typed r.rows rfl (by decide) h.extra
  have hextra := otherMembers_record Response.typed r.rows rfl (by decide) h.extra
  have hexamples : RoundTrips (asMapOf .ok) (encodeMap id) id r.examples :=
    (roundTrips_mapOf fun e he => roundTrips_any (h.examples e he)).trans
      (congrArg Except.ok r.examples.mapWithKey_id)
  rw [RoundTrips, Response.encode_eq, Json.canonical, Response.decode_eq_ok_iff]
  generalize (canonicalMembers (recordMembers r.rows r.extra)).entries = members at hget hextra ⊢
  simp only [Response.rows, Response.typed, List.zip_cons_cons, List.zip_nil_left,
    List.forall_mem_cons] at hget
  obtain ⟨hd, he, -⟩ := hget
  exact ⟨_, rfl, fieldOr_of_filled hd (roundTrips_wording _) rfl,
    fieldOr_of_dropped he hexamples rfl rfl, hextra.symm⟩

theorem Operation.Tidy.roundTrips {o : Operation} (h : o.Tidy) :
    RoundTrips Operation.decode Operation.encode Operation.resolved o := by
  have hget := firstUnder?_record Operation.typed o.rows rfl (by decide) h.extra
  have hextra := otherMembers_record Operation.typed o.rows rfl (by decide) h.extra
  have hparameters : RoundTrips (asListOf Parameter.decode) (encodeList Parameter.encode) id
      o.parameters :=
    (roundTrips_listOf fun p hp => (h.parameters p hp).roundTrips).trans
      (congrArg Except.ok o.parameters.map_id)
  have hresponses := roundTrips_mapOf fun e he => (h.responses e he).roundTrips
  rw [RoundTrips, Operation.encode_eq, Json.canonical, Operation.decode_eq_ok_iff]
  generalize (canonicalMembers (recordMembers o.rows o.extra)).entries = members at hget hextra ⊢
  simp only [Operation.rows, Operation.typed, List.zip_cons_cons, List.zip_nil_left,
    List.forall_mem_cons] at hget
  obtain ⟨hs, hd, hp, hr, hprod, hdep, -⟩ := hget
  exact ⟨_, rfl, fieldOr_of_dropped hs (roundTrips_textOption _) rfl rfl,
    fieldOr_of_dropped hd (roundTrips_wordingOption _) rfl rfl,
    fieldOr_of_filled hp hparameters rfl, fieldOr_of_filled hr hresponses rfl,
    fieldOr_of_dropped hprod (roundTrips_texts _) rfl rfl,
    fieldOr_of_dropped hdep rfl rfl rfl, hextra.symm⟩

theorem Document.Tidy.roundTrips {d : Document} (h : d.Tidy) :
    RoundTrips Document.decode Document.encode Document.resolved d := by
  have hget := firstUnder?_record Document.typed d.rows rfl (by decide) h.extra
  have hextra := otherMembers_record Document.typed d.rows rfl (by decide) h.extra
  have htags := roundTrips_listOf fun t ht => (h.tags t ht).roundTrips
  have hpaths := roundTrips_mapOf fun item hitem =>
    roundTrips_mapOf fun e he => (h.paths item hitem e he).roundTrips
  rw [RoundTrips, Document.encode_eq, Json.canonical, Document.decode_eq_ok_iff]
  generalize (canonicalMembers (recordMembers d.rows d.extra)).entries = members at hget hextra ⊢
  simp only [Document.rows, Document.typed, List.zip_cons_cons, List.zip_nil_left,
    List.forall_mem_cons] at hget
  obtain ⟨hi, hh, hs, hc, ht, hp, -⟩ := hget
  exact ⟨_, rfl, fieldOr_of_filled hi h.info.roundTrips rfl,
    fieldOr_of_filled hh (roundTrips_textOption _) rfl,
    fieldOr_of_filled hs (roundTrips_texts _) rfl,
    fieldOr_of_filled hc (roundTrips_texts _) rfl,
    field?_of_written ht htags rfl, field?_of_written hp hpaths rfl, hextra.symm⟩

/-! ### Names in the six records -/

theorem namesDistinct_wordingOption (o : Option (Wording Id)) :
    (encodeOption Wording.toJson o).namesDistinct :=
  namesDistinct_encodeOption fun _ _ => rfl

theorem namesDistinct_textOption (o : Option String) : (encodeOption .str o).namesDistinct :=
  namesDistinct_encodeOption fun _ _ => rfl

theorem namesDistinct_texts (texts : List String) : (encodeList .str texts).namesDistinct :=
  namesDistinct_encodeList fun _ _ => rfl

theorem Info.Tidy.namesDistinct {i : Info} (h : i.Tidy) : i.encode.namesDistinct := by
  rw [Info.encode_eq]
  refine namesDistinct_record Info.typed rfl (by decide) h ?_
  simp only [Info.rows, Info.typed, List.zip_cons_cons, List.zip_nil_left, List.forall_mem_cons]
  exact ⟨rfl, rfl, namesDistinct_wordingOption _, List.forall_mem_nil _⟩

theorem Tag.Tidy.namesDistinct {t : Tag} (h : t.Tidy) : t.encode.namesDistinct := by
  rw [Tag.encode_eq]
  refine namesDistinct_record Tag.typed rfl (by decide) h ?_
  simp only [Tag.rows, Tag.typed, List.zip_cons_cons, List.zip_nil_left, List.forall_mem_cons]
  exact ⟨rfl, namesDistinct_wordingOption _, List.forall_mem_nil _⟩

theorem Parameter.Tidy.namesDistinct {p : Parameter} (h : p.Tidy) : p.encode.namesDistinct := by
  have hschema : (encodeOption id p.schema).namesDistinct :=
    namesDistinct_encodeOption fun v hv => namesDistinct_of_isCanonical (h.schema v hv).2
  rw [Parameter.encode_eq h.schema_ne_null]
  refine namesDistinct_record Parameter.typed rfl (by decide) h.extra ?_
  simp only [Parameter.rows, Parameter.typed, List.zip_cons_cons, List.zip_nil_left,
    List.forall_mem_cons]
  exact ⟨rfl, rfl, hschema, List.forall_mem_nil _⟩

theorem Response.Tidy.namesDistinct {r : Response} (h : r.Tidy) : r.encode.namesDistinct := by
  have hexamples : (encodeMap id r.examples).namesDistinct :=
    namesDistinct_encodeMap fun e he => namesDistinct_of_isCanonical (h.examples e he)
  rw [Response.encode_eq]
  refine namesDistinct_record Response.typed rfl (by decide) h.extra ?_
  simp only [Response.rows, Response.typed, List.zip_cons_cons, List.zip_nil_left,
    List.forall_mem_cons]
  exact ⟨rfl, hexamples, List.forall_mem_nil _⟩

theorem Operation.Tidy.namesDistinct {o : Operation} (h : o.Tidy) : o.encode.namesDistinct := by
  have hparameters : (encodeList Parameter.encode o.parameters).namesDistinct :=
    namesDistinct_encodeList fun p hp => (h.parameters p hp).namesDistinct
  have hresponses : (encodeMap Response.encode o.responses).namesDistinct :=
    namesDistinct_encodeMap fun e he => (h.responses e he).namesDistinct
  rw [Operation.encode_eq]
  refine namesDistinct_record Operation.typed rfl (by decide) h.extra ?_
  simp only [Operation.rows, Operation.typed, List.zip_cons_cons, List.zip_nil_left,
    List.forall_mem_cons]
  exact ⟨namesDistinct_textOption _, namesDistinct_wordingOption _, hparameters, hresponses,
    namesDistinct_texts _, rfl, List.forall_mem_nil _⟩

theorem Document.Tidy.namesDistinct {d : Document} (h : d.Tidy) : d.encode.namesDistinct := by
  have htags : (encodeList Tag.encode d.tags).namesDistinct :=
    namesDistinct_encodeList fun t ht => (h.tags t ht).namesDistinct
  have hpaths : (encodeMap (encodeMap Operation.encode) d.paths).namesDistinct :=
    namesDistinct_encodeMap fun item hitem =>
      namesDistinct_encodeMap fun e he => (h.paths item hitem e he).namesDistinct
  rw [Document.encode_eq]
  refine namesDistinct_record Document.typed rfl (by decide) h.extra ?_
  simp only [Document.rows, Document.typed, List.zip_cons_cons, List.zip_nil_left,
    List.forall_mem_cons]
  exact ⟨h.info.namesDistinct, namesDistinct_textOption _, namesDistinct_texts _,
    namesDistinct_texts _, htags, hpaths, List.forall_mem_nil _⟩

/-! ### The text of a document -/

/-- A document that is reached from a raw schema by edits is published as a text that lists no name
of an object twice, that is parsed as what the document is encoded as, and from which the document
is decoded again. -/
theorem Document.render_reads_back {raw : Json} (hraw : raw.IsCanonical) {d₀ d : Document}
    (h₀ : Document.ofRaw raw = .ok d₀) {es : List Edit} (hes : ∀ e ∈ es, e.IsCanonical)
    (hd : d₀.editAll es = .ok d) (hint : d.encode.integral) (hdepth : d.encode.nestsWithin 127) :
    d.Tidy ∧ d.encode.namesDistinct ∧ Json.transcript (d.render .json) = .ok d.encode ∧
      Json.parse (d.render .json) = .ok d.encode.canonical ∧
      Document.ofRaw d.encode.canonical = .ok d.resolved := by
  have htidy₀ : d₀.Tidy := Document.yields_tidy raw d₀ hraw (Document.ofRaw_eq_ok_iff.1 h₀)
  have htidy : d.Tidy := htidy₀.editAll hes hd
  exact ⟨htidy, htidy.namesDistinct, Json.transcript_pretty hdepth hint,
    Json.parse_pretty hdepth hint, Document.ofRaw_eq_ok_iff.2 htidy.roundTrips⟩

/-! ### A document from its schema to its release -/

def jobsBatch : Batch := Batch.empty.record "/jobs/"
  { method := "get", status := 200, contentType := "application/json", response := "[-1]",
    request := some (.obj [("page", .int 7)]) }

def jobsEdits : List Edit := [
  .staticFields,
  .tags ⟨[⟨"Jobs", some "jobs.about"⟩]⟩ (some ⟨.ofList [("jobs.about", "Running \"things\"")]⟩),
  .paths "v2" ⟨["/jobs/"]⟩,
  .merge jobsBatch,
  .release "4.2"]

theorem isCanonical_jobsBatch : jobsBatch.IsCanonical := by
  have hlist : jobsBatch.toList.map (·.2.request) = [some (.obj [("page", .int 7)])] := by
    decide +kernel
  intro e he v hv
  have hmem : e.2.request ∈ jobsBatch.toList.map (·.2.request) := List.mem_map.2 ⟨e, he, rfl⟩
  rw [hlist, List.mem_singleton] at hmem
  rw [hmem] at hv
  cases hv
  exact Json.isCanonical_obj.2 ⟨List.pairwise_singleton _ _, by simp [Json.IsCanonical]⟩

theorem Document.render_reads_back_jobs : ∃ d₀ d : Document,
    Document.ofRaw jobsSchema = .ok d₀ ∧ d₀.editAll jobsEdits = .ok d ∧
    d.encode.integral ∧ d.encode.nestsWithin 127 ∧
    d.Tidy ∧ d.encode.namesDistinct ∧ Json.transcript (d.render .json) = .ok d.encode ∧
      Json.parse (d.render .json) = .ok d.encode.canonical ∧
      Document.ofRaw d.encode.canonical = .ok d.resolved := by
  have hcheck : ((Document.ofRaw jobsSchema).toOption.bind fun d =>
      (d.editAll jobsEdits).toOption).any
        (fun d => d.encode.integral && d.encode.nestsWithin 127) = true := by decide +kernel
  have hedits : ∀ e ∈ jobsEdits, e.IsCanonical := by
    simp [jobsEdits, Edit.IsCanonical, isCanonical_jobsBatch]
  cases h₀ : Document.ofRaw jobsSchema with
  | error e => rw [h₀] at hcheck; cases hcheck
  | ok d₀ =>
    cases hd : d₀.editAll jobsEdits with
    | error e => simp [h₀, hd, Except.toOption] at hcheck
    | ok d =>
      simp only [h₀, hd, Except.toOption, Option.bind_some, Option.any_some,
        Bool.and_eq_true] at hcheck
      exact ⟨d₀, d, rfl, hd, hcheck.1, hcheck.2, Document.render_reads_back isCanonical_jobsSchema
        h₀ hedits hd hcheck.1 hcheck.2⟩

end SwaggerPress
