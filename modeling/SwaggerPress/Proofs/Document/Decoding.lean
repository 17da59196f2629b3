import SwaggerPress.Proofs.Document.Record

/-!
    Which raw schemas are documents, and how such a document is written. A record is accepted when
    each of its typed fields is, and its normal form is reached field by field, whatever the order
    (`canonical_record`); so each of the six decoders is described by its form, from the parameters
    up to the whole document. A raw schema is a document exactly if the form of documents admits it,
    and what is written is its normal form (`ofRaw_normal`).

        {"paths": {}, "tags": [], "host": null, "x": 1, "info": {"description": null}}
          ─▶  {"consumes": [], "host": null, "info": {"title": "", "version": ""},
               "paths": {}, "schemes": [], "tags": [], "x": 1}                                     -/

namespace SwaggerPress

open Json (asText asBool asOption asListOf asMapOf field? fieldOr otherMembers canonicalMembers
  isCanonical_obj)

/-! ### Normal forms of records -/

namespace Field

theorem ascending_settle (f : Field) {members : List (String × Json)} (h : Ascending members) :
    Ascending (f.settle members) := by
  unfold settle
  split
  · exact h.insertEntry
  · exact h.filter _

theorem firstUnder?_settle (f : Field) (members : List (String × Json)) (k : String) :
    firstUnder? k (f.settle members) =
      if k = f.name then f.normal? (firstUnder? f.name members) else firstUnder? k members := by
  unfold settle
  cases f.normal? (firstUnder? f.name members) with
  | some v => exact firstUnder?_insertEntry f.name v k members
  | none =>
    have hfilter := firstUnder?_filter [f.name] k members
    simp only [List.contains_cons, List.contains_nil, Bool.or_false, List.mem_singleton] at hfilter
    rw [← hfilter]
    refine congrArg _ (List.filter_congr fun e _ => ?_)
    by_cases he : e.1 = f.name <;> simp [he]

theorem ascending_foldl_settle : ∀ (typed : List Field) {members : List (String × Json)},
    Ascending members → Ascending (typed.foldl (fun ms f => f.settle ms) members)
  | [], _, h => h
  | f :: typed, _, h => ascending_foldl_settle typed (f.ascending_settle h)

theorem firstUnder?_foldl_settle_of_not_mem {k : String} : ∀ {typed : List Field}
    (members : List (String × Json)), k ∉ names typed →
    firstUnder? k (typed.foldl (fun ms f => f.settle ms) members) = firstUnder? k members
  | [], _, _ => rfl
  | f :: typed, members, h => by
    rw [names, List.map_cons, List.mem_cons, not_or] at h
    rw [List.foldl_cons, firstUnder?_foldl_settle_of_not_mem _ h.2, firstUnder?_settle, if_neg h.1]

/-- Each field is settled by what was found under its name, the others not coming in between. -/
theorem firstUnder?_foldl_settle_of_mem {f : Field} : ∀ {typed : List Field}
    (members : List (String × Json)), (names typed).Nodup → f ∈ typed →
    firstUnder? f.name (typed.foldl (fun ms f => f.settle ms) members) =
      f.normal? (firstUnder? f.name members)
  | g :: typed, members, h, hf => by
    rw [names, List.map_cons, List.nodup_cons] at h
    rw [List.foldl_cons]
    rcases List.mem_cons.1 hf with rfl | hf
    · rw [firstUnder?_foldl_settle_of_not_mem _ h.1, firstUnder?_settle, if_pos rfl]
    · have hne : f.name ≠ g.name := fun heq => h.1 (heq ▸ List.mem_map.2 ⟨f, hf, rfl⟩)
      rw [firstUnder?_foldl_settle_of_mem _ h.2 hf, firstUnder?_settle, if_neg hne]

end Field

/-- A record whose rows are what the form makes of the members is written in normal form. -/
theorem canonical_record {members : List (String × Json)} {rows : List (Field × Json)}
    {typed : List Field} {extra : SortedMap Json} (hv : (Json.obj members).IsCanonical)
    (htyped : rows.map (·.1) = typed) (hnames : (names typed).Nodup)
    (hextra : extra = otherMembers (names typed) members)
    (hrows : ∀ r ∈ rows, r.1.written? r.2.canonical = r.1.normal? (firstUnder? r.1.name members)) :
    (Json.obj (recordMembers rows extra)).canonical = (Form.record typed).normal (.obj members) := by
  obtain ⟨hasc, hcan⟩ := isCanonical_obj.1 hv
  have heq : rows.map (·.1.name) = names typed := by rw [← htyped, names, List.map_map]; rfl
  have hapart : Apart (rows.map (·.1.name)) extra := by
    rw [hextra, heq]; exact apart_otherMembers _ _
  have hrowNames : (rows.map (·.1.name)).Nodup := heq ▸ hnames
  have hmap : canonicalMembers (recordMembers rows extra) =
      ⟨_, Field.ascending_foldl_settle typed hasc⟩ := by
    refine SortedMap.ext_get? fun k => ?_
    change _ = firstUnder? k (typed.foldl (fun ms f => f.settle ms) members)
    by_cases hk : k ∈ names typed
    · obtain ⟨r, hr, rfl⟩ := List.mem_map.1 (heq ▸ hk)
      have hf : r.1 ∈ typed := htyped ▸ List.mem_map.2 ⟨r, hr, rfl⟩
      rw [get?_record_of_mem hrowNames hapart hr, Field.firstUnder?_foldl_settle_of_mem _ hnames hf]
      exact hrows r hr
    · rw [get?_record_of_not_mem hrowNames hapart (heq ▸ hk),
        Field.firstUnder?_foldl_settle_of_not_mem _ hk, hextra, get?_otherMembers _ hasc,
        if_neg hk]
      cases hget : firstUnder? k members with
      | none => rfl
      | some v =>
        rw [Option.map_some, Json.canonical_of_isCanonical (hcan _ (mem_of_firstUnder? hget))]
  rw [Json.canonical, hmap]
  rfl

/-! ### Fields -/

/-- What is read from the members for a field is what its form makes of what stands there. -/
structure Field.Reads {α : Type} (f : Field) (read : List (String × Json) → α → Prop)
    (encode : α → Json) : Prop where
  accepts (members : List (String × Json)) :
    (∃ a, read members a) ↔ f.Admits (firstUnder? f.name members)
  normal {members : List (String × Json)} {a : α} : (Json.obj members).IsCanonical →
    read members a → f.written? (encode a).canonical = f.normal? (firstUnder? f.name members)

section
variable {α : Type} {f : Field} {decode : Json → Except Mismatch α} {encode : α → Json}

theorem Form.Describes.normal_field (h : f.form.Describes decode encode)
    {members : List (String × Json)} (hv : (Json.obj members).IsCanonical) {v : Json}
    (hget : firstUnder? f.name members = some v) {a : α} (ha : decode v = .ok a) :
    f.written? (encode a).canonical = f.normal? (some v) := by
  have hcan : v.IsCanonical := (isCanonical_obj.1 hv).2 _ (mem_of_firstUnder? hget)
  rw [h.normal hcan ha, Field.normal?]

/-- A field with a value for its absence, that value being written as an absent one is. -/
theorem Field.reads_fieldOr (absent : α) (h : f.form.Describes decode encode)
    (habsent : f.written? (encode absent).canonical = f.normal? none) :
    f.Reads (fun members a => fieldOr f.name absent decode members = .ok a) encode where
  accepts members := by
    simp only [fieldOr_eq_ok_iff]
    cases firstUnder? f.name members with
    | none =>
      have hf : f.absence ≠ .refused := by
        intro hrefused
        simp [Field.written?, Field.normal?, hrefused] at habsent
      simpa [Field.Admits] using hf
    | some v => exact h.accepts v
  normal := by
    intro members a hv ha
    rw [fieldOr_eq_ok_iff] at ha
    cases hget : firstUnder? f.name members with
    | none => rw [hget] at ha; rw [← ha, habsent]
    | some v => rw [hget] at ha; exact h.normal_field hv hget ha

theorem Field.reads_required (h : f.form.Describes decode encode) (hf : f.absence = .refused) :
    f.Reads (fun members a => field? f.name decode members = .ok (some a)) encode where
  accepts members := by
    simp only [field?_eq_ok_some_iff]
    cases firstUnder? f.name members with
    | none => simpa [Field.Admits] using hf
    | some v => simpa [Field.Admits] using h.accepts v
  normal := by
    intro members a hv ha
    obtain ⟨v, hget, ha⟩ := field?_eq_ok_some_iff.1 ha
    rw [hget]
    exact h.normal_field hv hget ha

end

/-! ### The six forms -/

theorem Info.describes : Info.form.Describes Info.decode Info.encode := by
  have title := Field.reads_fieldOr (f := Info.typed[0]) (.plain "") Form.describes_wording rfl
  have version := Field.reads_fieldOr (f := Info.typed[1]) "" Form.describes_text rfl
  have description := Field.reads_fieldOr (f := Info.typed[2]) none
    Form.describes_wording.nullable rfl
  refine ⟨fun v => ?_, fun {v i} hv hi => ?_⟩
  · simp only [Info.decode_eq_ok_iff, Info.form, Form.record, Info.typed, List.forall_mem_cons]
    constructor
    · rintro ⟨i, ms, rfl, ht, hv, hd, -⟩
      exact ⟨ms, rfl, (title.accepts ms).1 ⟨_, ht⟩, (version.accepts ms).1 ⟨_, hv⟩,
        (description.accepts ms).1 ⟨_, hd⟩, List.forall_mem_nil _⟩
    · rintro ⟨ms, rfl, ht, hv, hd, -⟩
      obtain ⟨t, ht⟩ := (title.accepts ms).2 ht
      obtain ⟨ver, hv⟩ := (version.accepts ms).2 hv
      obtain ⟨d, hd⟩ := (description.accepts ms).2 hd
      exact ⟨⟨t, ver, d, _⟩, ms, rfl, ht, hv, hd, rfl⟩
  · obtain ⟨ms, rfl, ht, hver, hd, hextra⟩ := Info.decode_eq_ok_iff.1 hi
    rw [Info.encode_eq]
    refine canonical_record hv rfl (by decide) hextra ?_
    simp only [Info.rows, Info.typed, List.zip_cons_cons, List.zip_nil_left, List.forall_mem_cons]
    exact ⟨title.normal hv ht, version.normal hv hver, description.normal hv hd,
      List.forall_mem_nil _⟩

theorem Tag.describes : Tag.form.Describes Tag.decode Tag.encode := by
  have name := Field.reads_required (f := Tag.typed[0]) Form.describes_text rfl
  have description := Field.reads_fieldOr (f := Tag.typed[1]) none
    Form.describes_wording.nullable rfl
  refine ⟨fun v => ?_, fun {v t} hv ht => ?_⟩
  · simp only [Tag.decode_eq_ok_iff, Tag.form, Form.record, Tag.typed, List.forall_mem_cons]
    constructor
    · rintro ⟨t, ms, rfl, hn, hd, -⟩
      exact ⟨ms, rfl, (name.accepts ms).1 ⟨_, hn⟩, (description.accepts ms).1 ⟨_, hd⟩,
        List.forall_mem_nil _⟩
    · rintro ⟨ms, rfl, hn, hd, -⟩
      obtain ⟨n, hn⟩ := (name.accepts ms).2 hn
      obtain ⟨d, hd⟩ := (description.accepts ms).2 hd
      exact ⟨⟨n, d, _⟩, ms, rfl, hn, hd, rfl⟩
  · obtain ⟨ms, rfl, hn, hd, hextra⟩ := Tag.decode_eq_ok_iff.1 ht
    rw [Tag.encode_eq]
    refine canonical_record hv rfl (by decide) hextra ?_
    simp only [Tag.rows, Tag.typed, List.zip_cons_cons, List.zip_nil_left, List.forall_mem_cons]
    exact ⟨name.normal hv hn, description.normal hv hd, List.forall_mem_nil _⟩

theorem Location.ofName_eq_ok_iff {name : String} {l : Location} :
    Location.ofName name = .ok l ↔ l.name = name := by
  have hname : Location.ofName? name = some l ↔ l.name = name := by
    constructor
    · intro h
      unfold Location.ofName? at h
      split at h <;> cases h <;> rfl
    · rintro rfl; cases l <;> rfl
  rw [← hname, Location.ofName]
  cases Location.ofName? name <;> simp

theorem Location.exists_ofName_iff {name : String} :
    (∃ l, Location.ofName name = .ok l) ↔ name ∈ Location.names := by
  simp only [Location.ofName_eq_ok_iff]
  constructor
  · rintro ⟨l, rfl⟩; cases l <;> decide
  · intro h
    have hall : ∀ n ∈ Location.names, ∃ l : Location, l.name = n := by
      simp only [Location.names, List.forall_mem_cons]
      exact ⟨⟨.path, rfl⟩, ⟨.query, rfl⟩, ⟨.header, rfl⟩, ⟨.body, rfl⟩, ⟨.formData, rfl⟩,
        List.forall_mem_nil _⟩
    exact hall name h

theorem Location.decode_eq_ok_iff {v : Json} {l : Location} : Location.decode v = .ok l ↔
    v = .str l.name ∨ v = .obj [(l.name, .null)] := by
  unfold Location.decode
  split
  next name =>
    rw [Location.ofName_eq_ok_iff]
    simp [eq_comm]
  next name content =>
    simp only [bind_eq_ok_iff, Location.ofName_eq_ok_iff]
    cases content <;> simp [Json.refuse, pure, Except.pure, eq_comm]
  next members hsingle =>
    simp only [reduceCtorEq, false_or, Json.obj.injEq, false_iff]
    rintro rfl
    exact hsingle _ _ rfl
  next v hstr hobj _ =>
    simp only [Json.refuse, reduceCtorEq, false_iff, not_or]
    exact ⟨fun h => hstr _ h, fun h => hobj _ _ h⟩

theorem Location.describes :
    (Form.choice Location.names).Describes Location.decode Location.encode where
  accepts v := by
    simp only [Location.decode_eq_ok_iff, Form.choice, ← Location.exists_ofName_iff,
      Location.ofName_eq_ok_iff]
    constructor
    · rintro ⟨l, h⟩; exact ⟨l.name, ⟨l, rfl⟩, h⟩
    · rintro ⟨_, ⟨l, rfl⟩, h⟩; exact ⟨l, h⟩
  normal := by
    intro v l _ h
    rcases Location.decode_eq_ok_iff.1 h with rfl | rfl <;> rfl

theorem Parameter.schema_ne_null {members : List (String × Json)} {schema : Option Json}
    (h : fieldOr "schema" none (asOption .ok) members = .ok schema) : schema ≠ some .null := by
  rw [fieldOr_eq_ok_iff] at h
  rintro rfl
  cases hget : firstUnder? "schema" members with
  | none => simp [hget] at h
  | some v =>
    simp only [hget, Form.asOption_eq_ok_iff] at h
    split at h <;> simp_all

theorem Parameter.describes : Parameter.form.Describes Parameter.decode Parameter.encode := by
  have name := Field.reads_required (f := Parameter.typed[0]) Form.describes_text rfl
  have location := Field.reads_required (f := Parameter.typed[1]) Location.describes rfl
  have schema := Field.reads_fieldOr (f := Parameter.typed[2]) none
    Form.describes_any.nullable rfl
  refine ⟨fun v => ?_, fun {v p} hv hp => ?_⟩
  · simp only [Parameter.decode_eq_ok_iff, Parameter.form, Form.record, Parameter.typed,
      List.forall_mem_cons]
    constructor
    · rintro ⟨p, ms, rfl, hn, hl, hs, -⟩
      exact ⟨ms, rfl, (name.accepts ms).1 ⟨_, hn⟩, (location.accepts ms).1 ⟨_, hl⟩,
        (schema.accepts ms).1 ⟨_, hs⟩, List.forall_mem_nil _⟩
    · rintro ⟨ms, rfl, hn, hl, hs, -⟩
      obtain ⟨n, hn⟩ := (name.accepts ms).2 hn
      obtain ⟨l, hl⟩ := (location.accepts ms).2 hl
      obtain ⟨s, hs⟩ := (schema.accepts ms).2 hs
      exact ⟨⟨n, l, s, _⟩, ms, rfl, hn, hl, hs, rfl⟩
  · obtain ⟨ms, rfl, hn, hl, hs, hextra⟩ := Parameter.decode_eq_ok_iff.1 hp
    rw [Parameter.encode_eq (Parameter.schema_ne_null hs)]
    refine canonical_record hv rfl (by decide) hextra ?_
    simp only [Parameter.rows, Parameter.typed, List.zip_cons_cons, List.zip_nil_left,
      List.forall_mem_cons]
    exact ⟨name.normal hv hn, location.normal hv hl, schema.normal hv hs, List.forall_mem_nil _⟩

theorem Response.describes : Response.form.Describes Response.decode Response.encode := by
  have description := Field.reads_fieldOr (f := Response.typed[0]) (.plain "")
    Form.describes_wording rfl
  have examples := Field.reads_fieldOr (f := Response.typed[1]) .empty Form.describes_any.mapOf rfl
  refine ⟨fun v => ?_, fun {v r} hv hr => ?_⟩
  · simp only [Response.decode_eq_ok_iff, Response.form, Form.record, Response.typed,
      List.forall_mem_cons]
    constructor
    · rintro ⟨r, ms, rfl, hd, he, -⟩
      exact ⟨ms, rfl, (description.accepts ms).1 ⟨_, hd⟩, (examples.accepts ms).1 ⟨_, he⟩,
        List.forall_mem_nil _⟩
    · rintro ⟨ms, rfl, hd, he, -⟩
      obtain ⟨d, hd⟩ := (description.accepts ms).2 hd
      obtain ⟨e, he⟩ := (examples.accepts ms).2 he
      exact ⟨⟨d, e, _⟩, ms, rfl, hd, he, rfl⟩
  · obtain ⟨ms, rfl, hd, he, hextra⟩ := Response.decode_eq_ok_iff.1 hr
    rw [Response.encode_eq]
    refine canonical_record hv rfl (by decide) hextra ?_
    simp only [Response.rows, Response.typed, List.zip_cons_cons, List.zip_nil_left,
      List.forall_mem_cons]
    exact ⟨description.normal hv hd, examples.normal hv he, List.forall_mem_nil _⟩

theorem Operation.describes : Operation.form.Describes Operation.decode Operation.encode := by
  have summary := Field.reads_fieldOr (f := Operation.typed[0]) none
    Form.describes_text.nullable rfl
  have description := Field.reads_fieldOr (f := Operation.typed[1]) none
    Form.describes_wording.nullable rfl
  have parameters := Field.reads_fieldOr (f := Operation.typed[2]) [] Parameter.describes.listOf rfl
  have responses := Field.reads_fieldOr (f := Operation.typed[3]) .empty
    Response.describes.mapOf rfl
  have produces := Field.reads_fieldOr (f := Operation.typed[4]) [] Form.describes_text.listOf rfl
  have deprecated := Field.reads_fieldOr (f := Operation.typed[5]) false Form.describes_flag rfl
  refine ⟨fun v => ?_, fun {v o} hv ho => ?_⟩
  · simp only [Operation.decode_eq_ok_iff, Operation.form, Form.record, Operation.typed,
      List.forall_mem_cons]
    constructor
    · rintro ⟨o, ms, rfl, hs, hd, hp, hr, hprod, hdep, -⟩
      exact ⟨ms, rfl, (summary.accepts ms).1 ⟨_, hs⟩, (description.accepts ms).1 ⟨_, hd⟩,
        (parameters.accepts ms).1 ⟨_, hp⟩, (responses.accepts ms).1 ⟨_, hr⟩,
        (produces.accepts ms).1 ⟨_, hprod⟩, (deprecated.accepts ms).1 ⟨_, hdep⟩,
        List.forall_mem_nil _⟩
    · rintro ⟨ms, rfl, hs, hd, hp, hr, hprod, hdep, -⟩
      obtain ⟨s, hs⟩ := (summary.accepts ms).2 hs
      obtain ⟨d, hd⟩ := (description.accepts ms).2 hd
      obtain ⟨p, hp⟩ := (parameters.accepts ms).2 hp
      obtain ⟨r, hr⟩ := (responses.accepts ms).2 hr
      obtain ⟨prod, hprod⟩ := (produces.accepts ms).2 hprod
      obtain ⟨dep, hdep⟩ := (deprecated.accepts ms).2 hdep
      exact ⟨⟨s, d, p, r, prod, dep, _⟩, ms, rfl, hs, hd, hp, hr, hprod, hdep, rfl⟩
  · obtain ⟨ms, rfl, hs, hd, hp, hr, hprod, hdep, hextra⟩ := Operation.decode_eq_ok_iff.1 ho
    rw [Operation.encode_eq]
    refine canonical_record hv rfl (by decide) hextra ?_
    simp only [Operation.rows, Operation.typed, List.zip_cons_cons, List.zip_nil_left,
      List.forall_mem_cons]
    exact ⟨summary.normal hv hs, description.normal hv hd, parameters.normal hv hp,
      responses.normal hv hr, produces.normal hv hprod, deprecated.normal hv hdep,
      List.forall_mem_nil _⟩

theorem Document.describes : Document.form.Describes Document.decode Document.encode := by
  have info := Field.reads_fieldOr (f := Document.typed[0]) {} Info.describes rfl
  have host := Field.reads_fieldOr (f := Document.typed[1]) none Form.describes_text.nullable rfl
  have schemes := Field.reads_fieldOr (f := Document.typed[2]) [] Form.describes_text.listOf rfl
  have consumes := Field.reads_fieldOr (f := Document.typed[3]) [] Form.describes_text.listOf rfl
  have tags := Field.reads_required (f := Document.typed[4]) Tag.describes.listOf rfl
  have paths := Field.reads_required (f := Document.typed[5]) Operation.describes.mapOf.mapOf rfl
  refine ⟨fun v => ?_, fun {v d} hv hd => ?_⟩
  · simp only [Document.decode_eq_ok_iff, Document.form, Form.record, Document.typed,
      List.forall_mem_cons]
    constructor
    · rintro ⟨d, ms, rfl, hi, hh, hs, hc, ht, hp, -⟩
      exact ⟨ms, rfl, (info.accepts ms).1 ⟨_, hi⟩, (host.accepts ms).1 ⟨_, hh⟩,
        (schemes.accepts ms).1 ⟨_, hs⟩, (consumes.accepts ms).1 ⟨_, hc⟩,
        (tags.accepts ms).1 ⟨_, ht⟩, (paths.accepts ms).1 ⟨_, hp⟩, List.forall_mem_nil _⟩
    · rintro ⟨ms, rfl, hi, hh, hs, hc, ht, hp, -⟩
      obtain ⟨i, hi⟩ := (info.accepts ms).2 hi
      obtain ⟨h, hh⟩ := (host.accepts ms).2 hh
      obtain ⟨s, hs⟩ := (schemes.accepts ms).2 hs
      obtain ⟨c, hc⟩ := (consumes.accepts ms).2 hc
      obtain ⟨t, ht⟩ := (tags.accepts ms).2 ht
      obtain ⟨p, hp⟩ := (paths.accepts ms).2 hp
      exact ⟨⟨i, h, s, c, t, p, _⟩, ms, rfl, hi, hh, hs, hc, ht, hp, rfl⟩
  · obtain ⟨ms, rfl, hi, hh, hs, hc, ht, hp, hextra⟩ := Document.decode_eq_ok_iff.1 hd
    rw [Document.encode_eq]
    refine canonical_record hv rfl (by decide) hextra ?_
    simp only [Document.rows, Document.typed, List.zip_cons_cons, List.zip_nil_left,
      List.forall_mem_cons]
    exact ⟨info.normal hv hi, host.normal hv hh, schemes.normal hv hs, consumes.normal hv hc,
      tags.normal hv ht, paths.normal hv hp, List.forall_mem_nil _⟩

/-! ### Raw schemas -/

/-- What the form of documents admits has the outline of a schema. -/
theorem checkOutline_of_admits {v : Json} (h : Document.form.Admits v) :
    checkOutline v = .ok () := by
  obtain ⟨members, rfl, hfields⟩ := h
  simp only [Document.typed, List.forall_mem_cons, Field.Admits] at hfields
  obtain ⟨-, -, -, -, htags, hpaths, -⟩ := hfields
  rw [checkOutline]
  cases hp : firstUnder? "paths" members with
  | none => simp [hp] at hpaths
  | some paths =>
    cases ht : firstUnder? "tags" members with
    | none => simp [ht] at htags
    | some tags =>
      rw [hp] at hpaths
      rw [ht] at htags
      obtain ⟨_, rfl, -⟩ := hpaths
      obtain ⟨_, rfl, -⟩ := htags
      rfl

/-- The outline refuses nothing that is a document. -/
theorem Document.ofRaw_eq_ok_iff {v : Json} {d : Document} :
    Document.ofRaw v = .ok d ↔ Document.decode v = .ok d := by
  simp only [Document.ofRaw, bind_eq_ok_iff, mapError_eq_ok_iff]
  constructor
  · rintro ⟨_, -, h⟩; exact h
  · intro h
    have hadmits := (Document.describes.accepts v).1 ⟨d, h⟩
    exact ⟨(), checkOutline_of_admits hadmits, h⟩

/-- The raw schemas are the values that the form of documents admits, and a schema is written back
in its normal form. -/
theorem Document.ofRaw_normal (v : Json) :
    ((∃ d, Document.ofRaw v = .ok d) ↔ Document.form.Admits v) ∧
      (v.IsCanonical → ∀ d, Document.ofRaw v = .ok d →
        d.encode.canonical = Document.form.normal v) := by
  simp only [Document.ofRaw_eq_ok_iff]
  exact ⟨Document.describes.accepts v, fun hv _ hd => Document.describes.normal hv hd⟩

/-- A schema with a location as an object, blank fields and keys that are no typed field. -/
def jobsSchema : Json := .obj [
  ("info", .obj [("description", .null), ("x-logo", .str "jobs.png")]),
  ("paths", .obj [("/jobs/", .obj [("get", .obj [
    ("deprecated", .bool false),
    ("parameters", .arr [.obj [("in", .obj [("query", .null)]), ("name", .str "page")]])])])]),
  ("tags", .arr []),
  ("x-order", .int 1)]

/-- The normal form of `jobsSchema`. -/
def jobsNormal : Json := .obj [
  ("consumes", .arr []),
  ("host", .null),
  ("info", .obj [("title", .str ""), ("version", .str ""), ("x-logo", .str "jobs.png")]),
  ("paths", .obj [("/jobs/", .obj [("get", .obj [
    ("parameters", .arr [.obj [("in", .str "query"), ("name", .str "page")]]),
    ("responses", .obj [])])])]),
  ("schemes", .arr []),
  ("tags", .arr []),
  ("x-order", .int 1)]

theorem isCanonical_jobsSchema : jobsSchema.IsCanonical := by
  have hself : jobsSchema.canonical = jobsSchema := by decide +kernel
  exact hself ▸ Json.isCanonical_canonical jobsSchema

theorem Document.ofRaw_normal_jobs :
    ∃ d, Document.ofRaw jobsSchema = .ok d ∧ d.encode.canonical = jobsNormal := by
  have hok : (Document.ofRaw jobsSchema).isOk := by decide +kernel
  cases hd : Document.ofRaw jobsSchema with
  | error e => rw [hd] at hok; cases hok
  | ok d =>
    have hnormal : Document.form.normal jobsSchema = jobsNormal := by decide +kernel
    exact ⟨d, rfl, hnormal ▸ (Document.ofRaw_normal jobsSchema).2 isCanonical_jobsSchema d hd⟩

end SwaggerPress
