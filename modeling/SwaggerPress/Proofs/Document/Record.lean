import SwaggerPress.Proofs.Document.Form

/-!
    Records between their values and their members. A record is written as its *rows*, the typed
    fields with what they hold, and its other members behind them (`recordMembers`); it is read field
    by field from the members found under their names. Both sides are given here as equations: what
    is found under a name of what was written (`get?_record`), and for each of the six records the
    fields it is read from (`decode_eq_ok_iff`) and the rows it is written as (`encode_eq`).

        rows    (title, "API") (version, "") (description, null)      other members   x-logo: …
        members  title: "API",  version: "",                                          x-logo: …   -/

namespace SwaggerPress

open Json (asText asBool asOption asListOf asMapOf asRecord field? fieldOr required otherMembers
  canonicalMembers get?_canonicalMembers_of_nodup)

/-! ### Blank values -/

theorem Json.canonical_eq_blank_iff (blank : Blank) (v : Json) :
    v.canonical = blank.json ↔ v = blank.json := by
  cases v with
  | arr items => cases blank <;> simp [Json.canonical_arr, Blank.json]
  | obj members =>
    have hempty : (SortedMap.ofList (members.map fun e => (e.1, e.2.canonical))).entries = [] ↔
        members = [] := by
      constructor
      · intro h
        refine List.eq_nil_iff_forall_not_mem.2 fun e he => ?_
        have hkey : e.1 ∈ (SortedMap.ofList (members.map fun e => (e.1, e.2.canonical))).keys :=
          SortedMap.mem_keys_ofList.2 (by simpa using ⟨_, he⟩)
        rw [SortedMap.keys, h] at hkey
        exact List.not_mem_nil hkey
      · rintro rfl; rfl
    cases blank <;> simp [Json.canonical_obj, Blank.json, Json.ofMap, hempty]
  | _ => cases blank <;> simp [Json.canonical, Blank.json]

/-- A field is left out of the canonical value exactly if it is left out. -/
theorem Field.written?_canonical (f : Field) (v : Json) :
    (f.written? v).map Json.canonical = f.written? v.canonical := by
  unfold Field.written?
  cases f.absence with
  | dropped blank =>
    simp only [Json.canonical_eq_blank_iff]
    split <;> rfl
  | _ => rfl

/-! ### What is written -/

/-- The typed fields that are written for rows. -/
def rowMembers (rows : List (Field × Json)) : List (String × Json) :=
  rows.filterMap fun r => (r.1.written? r.2).map fun v => (r.1.name, v)

/-- The members of a record: its typed fields, then the others. -/
def recordMembers (rows : List (Field × Json)) (extra : SortedMap Json) : List (String × Json) :=
  rowMembers rows ++ extra.entries

/-- No other member has the name of a typed field. -/
def Apart (names : List String) (extra : SortedMap Json) : Prop := ∀ k ∈ extra.keys, k ∉ names

theorem rowMembers_cons (r : Field × Json) (rows : List (Field × Json)) :
    rowMembers (r :: rows) =
      ((r.1.written? r.2).map fun v => (r.1.name, v)).toList ++ rowMembers rows := by
  unfold rowMembers
  rw [List.filterMap_cons]
  cases r.1.written? r.2 <;> rfl

theorem names_rowMembers_sublist : ∀ rows : List (Field × Json),
    ((rowMembers rows).map (·.1)).Sublist (rows.map (·.1.name))
  | [] => .slnil
  | r :: rows => by
    have hrest := names_rowMembers_sublist rows
    rw [rowMembers_cons, List.map_append, List.map_cons]
    cases r.1.written? r.2 with
    | none => exact hrest.cons _
    | some v => exact hrest.cons_cons _

theorem firstUnder?_rowMembers_of_not_mem {rows : List (Field × Json)} {k : String}
    (h : k ∉ rows.map (·.1.name)) : firstUnder? k (rowMembers rows) = none :=
  firstUnder?_eq_none_iff.2 fun hmem => h ((names_rowMembers_sublist rows).subset hmem)

theorem firstUnder?_rowMembers_of_mem : ∀ {rows : List (Field × Json)},
    (rows.map (·.1.name)).Nodup → ∀ {r : Field × Json}, r ∈ rows →
      firstUnder? r.1.name (rowMembers rows) = r.1.written? r.2
  | s :: rows, h, r, hr => by
    rw [List.map_cons, List.nodup_cons] at h
    rw [rowMembers_cons, firstUnder?_append]
    rcases List.mem_cons.1 hr with rfl | hr
    · rw [firstUnder?_rowMembers_of_not_mem h.1, Option.or_none]
      cases r.1.written? r.2 <;> simp [firstUnder?]
    · have hne : s.1.name ≠ r.1.name := fun heq =>
        h.1 (heq ▸ List.mem_map.2 ⟨r, hr, rfl⟩)
      rw [firstUnder?_rowMembers_of_mem h.2 hr]
      cases s.1.written? s.2 <;> simp [firstUnder?, hne]

section
variable {rows : List (Field × Json)} {extra : SortedMap Json}

theorem nodup_recordMembers (hnames : (rows.map (·.1.name)).Nodup)
    (hextra : Apart (rows.map (·.1.name)) extra) : ((recordMembers rows extra).map (·.1)).Nodup := by
  rw [recordMembers, List.map_append]
  have hsub := names_rowMembers_sublist rows
  refine List.nodup_append.2 ⟨hsub.nodup hnames, extra.nodup_keys, ?_⟩
  rintro a ha b hb rfl
  exact hextra a hb (hsub.subset ha)

/-- Under the name of a typed field stands what is written for it. -/
theorem get?_record_of_mem (hnames : (rows.map (·.1.name)).Nodup)
    (hextra : Apart (rows.map (·.1.name)) extra) {r : Field × Json} (hr : r ∈ rows) :
    (canonicalMembers (recordMembers rows extra)).get? r.1.name = r.1.written? r.2.canonical := by
  have hname : r.1.name ∈ rows.map (·.1.name) := List.mem_map.2 ⟨r, hr, rfl⟩
  have hnone : firstUnder? r.1.name extra.entries = none :=
    firstUnder?_eq_none_iff.2 fun hmem => hextra _ hmem hname
  rw [get?_canonicalMembers_of_nodup (nodup_recordMembers hnames hextra), recordMembers,
    firstUnder?_append, firstUnder?_rowMembers_of_mem hnames hr, hnone, Option.or_none,
    Field.written?_canonical]

/-- Under any other name stands the other member of that name. -/
theorem get?_record_of_not_mem (hnames : (rows.map (·.1.name)).Nodup)
    (hextra : Apart (rows.map (·.1.name)) extra) {k : String} (hk : k ∉ rows.map (·.1.name)) :
    (canonicalMembers (recordMembers rows extra)).get? k = (extra.get? k).map Json.canonical := by
  rw [get?_canonicalMembers_of_nodup (nodup_recordMembers hnames hextra), recordMembers,
    firstUnder?_append, firstUnder?_rowMembers_of_not_mem hk, Option.none_or]
  rfl

end

/-! ### What is read -/

theorem asRecord_eq_ok_iff {type : String} {v : Json} {members : List (String × Json)} :
    asRecord type v = .ok members ↔ v = .obj members := by
  cases v <;> simp [asRecord, Json.refuse]

theorem required_eq_ok_iff {α : Type} {name : String} {o : Option α} {a : α} :
    required name o = .ok a ↔ o = some a := by
  cases o <;> simp [required]

section
variable {α : Type} {name : String} {absent a : α} {decode : Json → Except Mismatch α}
  {members : List (String × Json)}

theorem field?_eq_ok_some_iff : field? name decode members = .ok (some a) ↔
    ∃ v, firstUnder? name members = some v ∧ decode v = .ok a := by
  rw [field?]
  cases firstUnder? name members <;> simp [map_eq_ok_iff]

theorem fieldOr_eq_ok_iff : fieldOr name absent decode members = .ok a ↔
    match firstUnder? name members with
    | some v => decode v = .ok a
    | none => absent = a := by
  rw [fieldOr, field?]
  cases firstUnder? name members <;> simp [map_eq_ok_iff]

end

theorem get?_otherMembers (known : List String) {members : List (String × Json)}
    (h : Ascending members) (k : String) : (otherMembers known members).get? k =
      if k ∈ known then none else firstUnder? k members := by
  have hasc : Ascending (members.filter fun e => !known.contains e.1) := h.filter _
  have hentries : (otherMembers known members).entries =
      members.filter fun e => !known.contains e.1 := SortedMap.entries_ofList_of_ascending hasc
  rw [SortedMap.get?, hentries]
  exact firstUnder?_filter known k members

theorem apart_otherMembers (known : List String) (members : List (String × Json)) :
    Apart known (otherMembers known members) := by
  intro k hk
  rw [otherMembers, SortedMap.mem_keys_ofList] at hk
  obtain ⟨e, he, rfl⟩ := List.mem_map.1 hk
  simpa using (List.mem_filter.1 he).2

/-! ### The six records -/

/-- The names of typed fields. -/
def names (typed : List Field) : List String := typed.map (·.name)

def Info.rows (i : Info) : List (Field × Json) := Info.typed.zip
  [i.title.toJson, .str i.version, encodeOption Wording.toJson i.description]

def Tag.rows (t : Tag) : List (Field × Json) := Tag.typed.zip
  [.str t.name, encodeOption Wording.toJson t.description]

/-- A location is written by its name. -/
def Location.encode (l : Location) : Json := .str l.name

def Parameter.rows (p : Parameter) : List (Field × Json) := Parameter.typed.zip
  [.str p.name, p.location.encode, encodeOption id p.schema]

def Response.rows (r : Response) : List (Field × Json) := Response.typed.zip
  [r.description.toJson, encodeMap id r.examples]

def Operation.rows (o : Operation) : List (Field × Json) := Operation.typed.zip
  [encodeOption .str o.summary, encodeOption Wording.toJson o.description,
    encodeList Parameter.encode o.parameters, encodeMap Response.encode o.responses,
    encodeList .str o.produces, .bool o.deprecated]

def Document.rows (d : Document) : List (Field × Json) := Document.typed.zip
  [d.info.encode, encodeOption .str d.host, encodeList .str d.schemes, encodeList .str d.consumes,
    encodeList Tag.encode d.tags, encodeMap (encodeMap Operation.encode) d.paths]

theorem Info.encode_eq (i : Info) : i.encode = .obj (recordMembers i.rows i.extra) := by
  cases h : i.description <;>
    simp [Info.encode, recordMembers, rowMembers, Info.rows, Info.typed, Field.written?, Blank.json,
      memberIfSome, encodeOption, Wording.toJson, h]

theorem Tag.encode_eq (t : Tag) : t.encode = .obj (recordMembers t.rows t.extra) := by
  cases h : t.description <;>
    simp [Tag.encode, recordMembers, rowMembers, Tag.rows, Tag.typed, Field.written?, Blank.json,
      memberIfSome, encodeOption, Wording.toJson, h]

/-- A schema that is there must not be the value that stands for none. -/
theorem Parameter.encode_eq {p : Parameter} (hschema : p.schema ≠ some .null) :
    p.encode = .obj (recordMembers p.rows p.extra) := by
  cases h : p.schema with
  | none =>
    simp [Parameter.encode, recordMembers, rowMembers, Parameter.rows, Parameter.typed,
      Field.written?, Blank.json, memberIfSome, encodeOption, Location.encode, h]
  | some v =>
    have hv : v ≠ .null := fun hv => hschema (by rw [h, hv])
    simp [Parameter.encode, recordMembers, rowMembers, Parameter.rows, Parameter.typed,
      Field.written?, Blank.json, memberIfSome, encodeOption, Location.encode, h, hv]

theorem Response.encode_eq (r : Response) : r.encode = .obj (recordMembers r.rows r.extra) := by
  cases h : r.examples.entries <;>
    simp [Response.encode, recordMembers, rowMembers, Response.rows, Response.typed, Field.written?,
      Blank.json, memberIf, SortedMap.isEmpty, SortedMap.map, encodeMap, Json.ofMap, h]

theorem Operation.encode_eq (o : Operation) : o.encode = .obj (recordMembers o.rows o.extra) := by
  cases hs : o.summary <;> cases hd : o.description <;> cases hp : o.produces <;>
    cases hdep : o.deprecated <;>
    simp [Operation.encode, recordMembers, rowMembers, Operation.rows, Operation.typed,
      Field.written?, Blank.json, memberIfSome, memberIf, Wording.toJson, encodeTexts, encodeOption,
      encodeList, hs, hd, hp, hdep]

theorem Document.encode_eq (d : Document) : d.encode = .obj (recordMembers d.rows d.extra) := by
  simp [Document.encode, recordMembers, rowMembers, Document.rows, Document.typed, Field.written?,
    encodeOption, encodeList, encodeTexts]
  rfl

theorem Info.decode_eq_ok_iff {v : Json} {i : Info} : Info.decode v = .ok i ↔
    ∃ members, v = .obj members ∧
      fieldOr "title" (.plain "") Wording.decode members = .ok i.title ∧
      fieldOr "version" "" asText members = .ok i.version ∧
      fieldOr "description" none (asOption Wording.decode) members = .ok i.description ∧
      i.extra = otherMembers (names Info.typed) members := by
  simp only [Info.decode, bind_eq_ok_iff, asRecord_eq_ok_iff, pure, Except.pure, Except.ok.injEq]
  constructor
  · rintro ⟨ms, rfl, _, hd, _, ht, _, hv, rfl⟩
    exact ⟨ms, rfl, ht, hv, hd, rfl⟩
  · rintro ⟨ms, rfl, ht, hv, hd, hextra⟩
    exact ⟨ms, rfl, _, hd, _, ht, _, hv, by cases i; cases hextra; rfl⟩

theorem Tag.decode_eq_ok_iff {v : Json} {t : Tag} : Tag.decode v = .ok t ↔
    ∃ members, v = .obj members ∧
      field? "name" asText members = .ok (some t.name) ∧
      fieldOr "description" none (asOption Wording.decode) members = .ok t.description ∧
      t.extra = otherMembers (names Tag.typed) members := by
  simp only [Tag.decode, bind_eq_ok_iff, asRecord_eq_ok_iff, required_eq_ok_iff, pure, Except.pure,
    Except.ok.injEq]
  constructor
  · rintro ⟨ms, rfl, _, hd, _, hn, _, rfl, rfl⟩
    exact ⟨ms, rfl, hn, hd, rfl⟩
  · rintro ⟨ms, rfl, hn, hd, hextra⟩
    exact ⟨ms, rfl, _, hd, _, hn, _, rfl, by cases t; cases hextra; rfl⟩

theorem Parameter.decode_eq_ok_iff {v : Json} {p : Parameter} : Parameter.decode v = .ok p ↔
    ∃ members, v = .obj members ∧
      field? "name" asText members = .ok (some p.name) ∧
      field? "in" Location.decode members = .ok (some p.location) ∧
      fieldOr "schema" none (asOption .ok) members = .ok p.schema ∧
      p.extra = otherMembers (names Parameter.typed) members := by
  simp only [Parameter.decode, bind_eq_ok_iff, asRecord_eq_ok_iff, required_eq_ok_iff, pure,
    Except.pure, Except.ok.injEq]
  constructor
  · rintro ⟨ms, rfl, _, hl, _, hn, _, hs, _, rfl, _, rfl, rfl⟩
    exact ⟨ms, rfl, hn, hl, hs, rfl⟩
  · rintro ⟨ms, rfl, hn, hl, hs, hextra⟩
    exact ⟨ms, rfl, _, hl, _, hn, _, hs, _, rfl, _, rfl, by cases p; cases hextra; rfl⟩

theorem Response.decode_eq_ok_iff {v : Json} {r : Response} : Response.decode v = .ok r ↔
    ∃ members, v = .obj members ∧
      fieldOr "description" (.plain "") Wording.decode members = .ok r.description ∧
      fieldOr "examples" .empty (asMapOf .ok) members = .ok r.examples ∧
      r.extra = otherMembers (names Response.typed) members := by
  simp only [Response.decode, bind_eq_ok_iff, asRecord_eq_ok_iff, pure, Except.pure,
    Except.ok.injEq]
  constructor
  · rintro ⟨ms, rfl, _, hd, _, he, rfl⟩
    exact ⟨ms, rfl, hd, he, rfl⟩
  · rintro ⟨ms, rfl, hd, he, hextra⟩
    exact ⟨ms, rfl, _, hd, _, he, by cases r; cases hextra; rfl⟩

theorem Operation.decode_eq_ok_iff {v : Json} {o : Operation} : Operation.decode v = .ok o ↔
    ∃ members, v = .obj members ∧
      fieldOr "summary" none (asOption asText) members = .ok o.summary ∧
      fieldOr "description" none (asOption Wording.decode) members = .ok o.description ∧
      fieldOr "parameters" [] (asListOf Parameter.decode) members = .ok o.parameters ∧
      fieldOr "responses" .empty (asMapOf Response.decode) members = .ok o.responses ∧
      fieldOr "produces" [] (asListOf asText) members = .ok o.produces ∧
      fieldOr "deprecated" false asBool members = .ok o.deprecated ∧
      o.extra = otherMembers (names Operation.typed) members := by
  simp only [Operation.decode, bind_eq_ok_iff, asRecord_eq_ok_iff, pure, Except.pure,
    Except.ok.injEq]
  constructor
  · rintro ⟨ms, rfl, _, hdep, _, hd, _, hp, _, hprod, _, hr, _, hs, rfl⟩
    exact ⟨ms, rfl, hs, hd, hp, hr, hprod, hdep, rfl⟩
  · rintro ⟨ms, rfl, hs, hd, hp, hr, hprod, hdep, hextra⟩
    exact ⟨ms, rfl, _, hdep, _, hd, _, hp, _, hprod, _, hr, _, hs, by cases o; cases hextra; rfl⟩

theorem Document.decode_eq_ok_iff {v : Json} {d : Document} : Document.decode v = .ok d ↔
    ∃ members, v = .obj members ∧
      fieldOr "info" {} Info.decode members = .ok d.info ∧
      fieldOr "host" none (asOption asText) members = .ok d.host ∧
      fieldOr "schemes" [] (asListOf asText) members = .ok d.schemes ∧
      fieldOr "consumes" [] (asListOf asText) members = .ok d.consumes ∧
      field? "tags" (asListOf Tag.decode) members = .ok (some d.tags) ∧
      field? "paths" Paths.decode members = .ok (some d.paths) ∧
      d.extra = otherMembers (names Document.typed) members := by
  simp only [Document.decode, bind_eq_ok_iff, asRecord_eq_ok_iff, required_eq_ok_iff, pure,
    Except.pure, Except.ok.injEq]
  constructor
  · rintro ⟨ms, rfl, _, hc, _, hh, _, hi, _, hp, _, hs, _, ht, _, rfl, _, rfl, rfl⟩
    exact ⟨ms, rfl, hi, hh, hs, hc, ht, hp, rfl⟩
  · rintro ⟨ms, rfl, hi, hh, hs, hc, ht, hp, hextra⟩
    exact ⟨ms, rfl, _, hc, _, hh, _, hi, _, hp, _, hs, _, ht, _, rfl, _, rfl,
      by cases d; cases hextra; rfl⟩

end SwaggerPress
