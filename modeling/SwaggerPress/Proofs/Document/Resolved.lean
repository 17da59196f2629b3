import SwaggerPress.Proofs.Document.Artifact
import SwaggerPress.Proofs.Merge.Order
import SwaggerPress.Proofs.Pipeline.Twin

/-!
    What asks for a text asks for nothing else. A wording is looked at in two places, where an
    operation is summarized and where a record is encoded, and there its text alone counts. So every
    edit makes of the resolved document what it makes of the document, up to resolving the result
    (`resolved_edit`); a merge even leaves the resolved document (`respects_resolved`); and a document
    is published as its resolved document is (`render_congr`).

        d ──────── edit ────────▶ d₁ ──── render ──▶ text
        │ resolved                │ resolved           ‖
        r ── edit ──▶ ─ resolved ─▶ r₁ ── render ──▶ text -/

namespace SwaggerPress

namespace SortedMap

universe u v w

variable {α : Type u} {β : Type v} {γ : Type w}

theorem map_map (m : SortedMap α) (f : α → β) (g : β → γ) :
    (m.map f).map g = m.map fun a => g (f a) :=
  m.mapWithKey_mapWithKey _ _

/-- Changing every value after an insertion is changing the inserted one, too. -/
theorem map_insert (m : SortedMap α) (name : String) (value : α) (f : α → β) :
    (m.insert name value).map f = (m.map f).insert name (f value) := by
  refine ext_get? fun k => ?_
  rw [get?_map, get?_insert, get?_insert, get?_map]
  split <;> rfl

theorem map_ofList (entries : List (String × α)) (f : α → β) :
    (ofList entries).map f = ofList (entries.map fun e => (e.1, f e.2)) := by
  refine ext_get? fun k => ?_
  rw [get?_map, get?_ofList, get?_ofList, ← List.map_reverse, firstUnder?_map fun _ => f]

end SortedMap

/-! ### Wordings -/

namespace Wording

variable {v w : Wording Id}

@[simp] theorem text_resolved (w : Wording Id) : w.resolved.text = w.text := rfl

@[simp] theorem resolved_resolved (w : Wording Id) : w.resolved.resolved = w.resolved := rfl

theorem resolved_eq_iff : v.resolved = w.resolved ↔ v.text = w.text := by
  rw [resolved, resolved, plain.injEq]

/-- Two wordings are compared by their texts. -/
theorem same_eq (v w : Wording Id) : v.same w = (v.text == w.text) := rfl

end Wording

/-! ### Operations -/

namespace Operation

@[simp] theorem resolved_resolved (o : Operation) : o.resolved.resolved = o.resolved := by
  simp only [resolved, SortedMap.map_map, Option.map_map]
  rfl

/-- The text of the description is all that summarizing sees of it. -/
theorem summarized_resolved (o : Operation) : o.resolved.summarized = o.summarized.resolved := by
  cases hd : o.description with
  | none => simp [summarized, resolved, hd]
  | some w =>
    have hresolved : o.resolved.description = some w.resolved := by rw [resolved, hd]; rfl
    simp only [summarized, hd, hresolved]
    by_cases hempty : w.text = ""
    · rw [if_pos hempty, if_pos (w.text_resolved.trans hempty)]
    · rw [if_neg hempty, if_neg fun h => hempty (w.text_resolved.symm.trans h)]
      rfl

theorem withoutVersion_resolved (o : Operation) :
    o.resolved.withoutVersion = o.withoutVersion.resolved := rfl

/-- A capture adds examples and texts of its own, and asks for no wording. -/
theorem withExample_resolved (o : Operation) (status contentType : String) (v : Json) :
    o.resolved.withExample status contentType v = (o.withExample status contentType v).resolved := by
  have hfound : (o.resolved.responses.get? status).getD {} =
      ((o.responses.get? status).getD {}).resolved := by
    rw [resolved, SortedMap.get?_map]
    cases o.responses.get? status <;> rfl
  simp only [withExample, hfound]
  simp only [resolved, SortedMap.map_insert]
  rfl

theorem withCapture_resolved (o : Operation) (c : Capture) (v? : Option Json) :
    o.resolved.withCapture c v? = (o.withCapture c v?).resolved := by
  have hresponses : (v?.elim o.resolved (o.resolved.withExample c.statusText c.contentType)).responses
      = (v?.elim o (o.withExample c.statusText c.contentType)).resolved.responses := by
    cases v? with
    | none => rfl
    | some v => rw [Option.elim_some, Option.elim_some, withExample_resolved]
  rw [withCapture_eq, withCapture_eq, hresponses]
  rfl

theorem withCaptures_resolved (cs : List Capture) : ∀ o : Operation,
    o.resolved.withCaptures cs = (o.withCaptures cs).resolved := by
  induction cs with
  | nil => intro o; rfl
  | cons c cs ih =>
    intro o
    have hfirst := withCapture_resolved o c c.kept?
    rw [← List.singleton_append, withCaptures_append, withCaptures_append, ← ih]
    exact congrArg (withCaptures · cs) hfirst

end Operation

theorem PathItem.mark_resolved (item : PathItem) (deprecated : Bool) :
    PathItem.mark (item.map Operation.resolved) deprecated =
      (item.mark deprecated).map Operation.resolved := by
  cases deprecated with
  | false => rfl
  | true =>
    simp only [mark, if_true, SortedMap.map_map]
    rfl

/-! ### Documents -/

@[simp] theorem Tag.resolved_resolved (t : Tag) : t.resolved.resolved = t.resolved := by
  simp [resolved, Function.comp_def]

namespace Document

variable {d d' : Document}

@[simp] theorem resolved_resolved (d : Document) : d.resolved.resolved = d.resolved := by
  simp [resolved, Info.resolved, Tag.resolved, SortedMap.map_map, Function.comp_def]

theorem skeleton_resolved (d : Document) : d.resolved.skeleton = d.skeleton := by
  simp only [skeleton, resolved, SortedMap.map, SortedMap.entries_mapWithKey, List.flatMap_map,
    SortedMap.keys_mapWithKey]

theorem merged_resolved (d : Document) (b : Batch) :
    d.resolved.merged b = (d.merged b).resolved := by
  simp only [merged_eq, mapEach, resolved, SortedMap.map, SortedMap.mapWithKey_mapWithKey,
    Operation.withCaptures_resolved]

/-- A merge asks for no wording, and leaves the lazy ones lazy. -/
theorem respects_resolved : Respects resolved := by
  intro d b
  have hresult : (d.resolved.merge b).1 = (d.merge b).1 :=
    merge_fst_congr (fun pair => by rw [skeleton_resolved]) b
  refine Prod.ext hresult ?_
  rw [Document.merge_snd, Document.merge_snd, hresult]
  split
  · exact merged_resolved d b
  · rfl

theorem withStaticFields_resolved (d : Document) :
    d.resolved.withStaticFields = d.withStaticFields.resolved := rfl

theorem withDescription_resolved (d : Document) (text : String) :
    d.resolved.withDescription text = (d.withDescription text).resolved := rfl

/-- A tag that is appended lazily has its text, too. -/
theorem resolved_withTags (d : Document) (config : TagConfig) (catalog : Option Catalog) :
    (d.resolved.withTags config catalog).resolved = (d.withTags config catalog).resolved := by
  have htags : (d.resolved.tags ++ config.categories.map (·.tag catalog)).map Tag.resolved =
      (d.tags ++ config.categories.map (·.tag catalog)).map Tag.resolved := by
    rw [List.map_append, List.map_append, resolved, List.map_map]
    simp only [Function.comp_def, Tag.resolved_resolved]
  calc (d.resolved.withTags config catalog).resolved
      = { d.resolved.resolved with
          tags := (d.resolved.tags ++ config.categories.map (·.tag catalog)).map Tag.resolved } := rfl
    _ = { d.resolved with
          tags := (d.tags ++ config.categories.map (·.tag catalog)).map Tag.resolved } := by
        rw [resolved_resolved, htags]

theorem resolvePaths_resolved (d : Document) (version : String) (deprecated : Deprecations) :
    d.resolved.resolvePaths version deprecated = (d.resolvePaths version deprecated).resolved := by
  have hpaths : Paths.resolve (d.paths.map (SortedMap.map · Operation.resolved)) version deprecated =
      (d.paths.resolve version deprecated).map (SortedMap.map · Operation.resolved) := by
    simp only [Paths.resolve, SortedMap.map_ofList, List.map_map, Function.comp_def,
      ← PathItem.mark_resolved]
    rw [SortedMap.map, SortedMap.entries_mapWithKey, List.map_map]
    rfl
  exact congrArg (fun paths => { d.resolved with paths }) hpaths

/-- What is done to chosen operations alike, resolved or not, is done to the document alike. -/
theorem mapChosen_resolved {f : Operation → Operation} (hf : ∀ o, f o.resolved = (f o).resolved)
    (d : Document) (chosen : String → String → Bool) :
    d.resolved.mapChosen chosen f = (d.mapChosen chosen f).resolved := by
  simp only [mapChosen, resolved, SortedMap.map, SortedMap.mapWithKey_mapWithKey, hf, apply_ite]

theorem finalize_resolved (d : Document) (release : String) :
    d.resolved.finalize release = (d.finalize release).map resolved := by
  have htags : d.resolved.tags.isEmpty = d.tags.isEmpty := List.isEmpty_map
  have hpaths : SortedMap.isEmpty d.resolved.paths = SortedMap.isEmpty d.paths := List.isEmpty_map
  rw [finalize, finalize, htags, hpaths]
  split
  · rfl
  · split <;> rfl

/-- An edit makes the same of a document and of the resolved document, once it is resolved. -/
theorem resolved_edit (d : Document) (e : Edit) :
    (d.resolved.edit e).map resolved = (d.edit e).map resolved := by
  cases e with
  | staticFields => simp only [edit, Except.map, withStaticFields_resolved, resolved_resolved]
  | description text => simp only [edit, Except.map, withDescription_resolved, resolved_resolved]
  | tags config catalog => exact congrArg Except.ok (d.resolved_withTags config catalog)
  | paths version deprecated =>
    simp only [edit, Except.map, resolvePaths_resolved, resolved_resolved]
  | summaries chosen =>
    simp only [edit, Except.map, mapChosen_resolved Operation.summarized_resolved,
      resolved_resolved]
  | versionParameters chosen =>
    simp only [edit, Except.map, mapChosen_resolved Operation.withoutVersion_resolved,
      resolved_resolved]
  | merge b => simp only [edit, Except.map, respects_resolved d b, resolved_resolved]
  | release version =>
    rw [edit, edit, finalize_resolved]
    cases d.finalize version <;> simp [Except.map]

/-- Documents with the same texts have the same texts after an edit. -/
theorem edit_congr (h : d.resolved = d'.resolved) (e : Edit) :
    (d.edit e).map resolved = (d'.edit e).map resolved := by
  rw [← resolved_edit d, h, resolved_edit]

end Document

/-! ### Encoding -/

theorem encodeMap_map {α β : Type} (encode : β → Json) (f : α → β) (m : SortedMap α) :
    encodeMap encode (m.map f) = encodeMap (fun a => encode (f a)) m := by
  rw [encodeMap, encodeMap, SortedMap.map_map]

theorem Info.encode_resolved (i : Info) : i.resolved.encode = i.encode := by
  simp only [encode, resolved, Option.map_map]
  rfl

theorem Tag.encode_resolved (t : Tag) : t.resolved.encode = t.encode := by
  simp only [encode, resolved, Option.map_map]
  rfl

theorem Response.encode_resolved (r : Response) : r.resolved.encode = r.encode := rfl

theorem Operation.encode_resolved (o : Operation) : o.resolved.encode = o.encode := by
  simp only [encode, resolved, Option.map_map, encodeMap_map, Response.encode_resolved]
  rfl

namespace Document

variable {d d' : Document}

theorem encode_resolved (d : Document) : d.resolved.encode = d.encode := by
  simp only [encode, resolved, Paths.encode, PathItem.encode, encodeMap_map, List.map_map,
    Info.encode_resolved, Operation.encode_resolved, Function.comp_def, Tag.encode_resolved]
  rfl

/-- Documents with the same texts are published as the same text. -/
theorem render_congr (h : d.resolved = d'.resolved) (format : Format) :
    d.render format = d'.render format := by
  have hencode : d.encode = d'.encode := by rw [← encode_resolved d, h, encode_resolved]
  cases format with
  | json => rw [render, render, hencode]
  | yaml => rw [render, render, hencode]

end Document

end SwaggerPress
