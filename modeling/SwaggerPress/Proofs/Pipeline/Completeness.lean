import SwaggerPress.Proofs.Pipeline.Published

/-!
    When a release is refused. The inputs of a run *lack* tags if the customized raw schema lists
    none and no category is configured, and they lack paths if it has none (`Lacks`). Decoding takes
    the lists and the maps as long as they are, normalizing adds the categories and makes every
    template a path, and batches leave tags and paths alone, so the document of the moment lacks
    what the inputs do (`Document.LacksAs`), and a release is refused for just that
    (`run_refuses_incomplete`).

        raw schema   tags []   paths {a, b}        tags []   paths {}         tags [t]   paths {}
        categories   c                             -                          -
        document     tags [c]  paths {ab}          tags []   paths {}         tags [t]   paths {}
        release      stamped                       lacks tags                 lacks paths  -/

namespace SwaggerPress

open Json (asListOf asMapOf)

/-- What stands under a name of an object. -/
def Json.member? (name : String) : Json → Option Json
  | .obj members => firstUnder? name members
  | _ => none

/-- What the customized raw schema and the configured categories together lack. -/
inductive Lacks (raw : Json) (categories : List TagCategory) : Lack → Prop where
  | tags : raw.member? "tags" = some (.arr []) → categories = [] → Lacks raw categories .tags
  | paths : raw.member? "paths" = some (.obj []) → Lacks raw categories .paths

/-- A document lacks what its inputs lack. -/
structure Document.LacksAs (d : Document) (raw : Json) (categories : List TagCategory) : Prop where
  tags : d.tags = [] ↔ Lacks raw categories .tags
  paths : d.paths.keys = [] ↔ Lacks raw categories .paths

theorem lacks_tags_iff {raw : Json} {categories : List TagCategory} :
    Lacks raw categories .tags ↔ raw.member? "tags" = some (.arr []) ∧ categories = [] :=
  ⟨fun | .tags htags hnone => ⟨htags, hnone⟩, fun h => .tags h.1 h.2⟩

theorem lacks_paths_iff {raw : Json} {categories : List TagCategory} :
    Lacks raw categories .paths ↔ raw.member? "paths" = some (.obj []) :=
  ⟨fun | .paths hpaths => hpaths, .paths⟩

/-! ### Decoding -/

section
variable {α : Type} {decode : Json → Except Mismatch α} {v : Json}

theorem eq_nil_iff_of_asListOf {xs : List α} (h : asListOf decode v = .ok xs) :
    xs = [] ↔ v = .arr [] := by
  cases v with
  | arr items =>
    have hlength := (decodeItems_eq_ok_iff.1 h).length_eq
    rw [← List.length_eq_zero_iff, ← hlength, List.length_eq_zero_iff, Json.arr.injEq]
  | _ => nomatch h

theorem keys_eq_nil_iff_of_asMapOf {m : SortedMap α} (h : asMapOf decode v = .ok m) :
    m.keys = [] ↔ v = .obj [] := by
  cases v with
  | obj members =>
    obtain ⟨entries, hentries, rfl⟩ := map_eq_ok_iff.1 h
    have hlength := (decodeMembers_eq_ok_iff.1 hentries).length_eq
    have hkeys : (SortedMap.ofList entries).keys = [] ↔ entries = [] := by
      rw [← List.map_eq_nil_iff (f := Prod.fst), List.eq_nil_iff_forall_not_mem,
        List.eq_nil_iff_forall_not_mem]
      simp only [SortedMap.mem_keys_ofList]
    rw [hkeys, ← List.length_eq_zero_iff, ← hlength, List.length_eq_zero_iff, Json.obj.injEq]
  | _ => nomatch h

end

/-- A decoded document lacks what the raw schema does. -/
theorem Document.lacksAs_of_ofRaw {raw : Json} {d : Document} (h : ofRaw raw = .ok d) :
    d.LacksAs raw [] := by
  obtain ⟨members, rfl, -, -, -, -, htags, hpaths, -⟩ := decode_eq_ok_iff.1 (ofRaw_eq_ok_iff.1 h)
  obtain ⟨tags, htagsAt, htags⟩ := field?_eq_ok_some_iff.1 htags
  obtain ⟨paths, hpathsAt, hpaths⟩ := field?_eq_ok_some_iff.1 hpaths
  constructor
  · rw [lacks_tags_iff, Json.member?, htagsAt, eq_nil_iff_of_asListOf htags]
    simp
  · rw [lacks_paths_iff, Json.member?, hpathsAt, keys_eq_nil_iff_of_asMapOf hpaths,
      Option.some.injEq]

/-! ### Normalizing -/

namespace Document

variable {d : Document} {raw : Json} {categories : List TagCategory} {settings : Settings}

/-- Normalizing adds the configured categories, and makes every template a path. -/
theorem LacksAs.normalize {description : Option String} {config : Option TagConfig}
    {deprecated : Deprecations} (h : d.LacksAs raw []) :
    (d.normalize description config settings deprecated).LacksAs raw
      ((config.map (·.categories)).getD []) := by
  rw [normalize_eq]
  constructor
  · have htags := h.tags
    rw [lacks_tags_iff] at htags ⊢
    simp only [List.append_eq_nil_iff, List.map_eq_nil_iff, htags, and_true]
  · have hpaths := h.paths
    rw [lacks_paths_iff] at hpaths ⊢
    rw [SortedMap.map, SortedMap.keys_mapWithKey, Paths.keys_resolve_eq_nil_iff, hpaths]

theorem lacksAs_of_assemble {source : Source} {files : FileTree}
    (h : assemble source settings files = .ok d) :
    ∃ raw categories, source.Provides raw ∧ settings.Configures files categories ∧
      d.LacksAs raw categories := by
  obtain ⟨schema, deprecated, customizations, decoded, description, config, hschema, -,
    hcustomizations, hdecoded, -, hconfig, rfl⟩ := assemble_eq_ok_iff.1 h
  exact ⟨_, _, ⟨schema, customizations, hschema, hcustomizations, rfl⟩,
    Settings.configures_of_tagConfig? hconfig, (lacksAs_of_ofRaw hdecoded).normalize⟩

/-! ### Merging and finalizing -/

theorem LacksAs.merge (h : d.LacksAs raw categories) (b : Batch) :
    (d.merge b).2.LacksAs raw categories := by
  have hkeeps := d.merge_keeps b
  have hkeys := congrArg SortedMap.keys hkeeps.methods
  simp only [SortedMap.map, SortedMap.keys_mapWithKey] at hkeys
  exact ⟨hkeeps.tags ▸ h.tags, hkeys ▸ h.paths⟩

/-- A release is refused for what the inputs lack, and else it is all that is changed. -/
theorem LacksAs.finalize (h : d.LacksAs raw categories) (release : String) :
    match d.finalize release with
    | .ok published => (∀ lack, ¬ Lacks raw categories lack) ∧
        published = { d with info := { d.info with version := release } }
    | .error f => ∃ lack, Lacks raw categories lack ∧ f = .incomplete lack := by
  have hempty : d.paths.isEmpty = true ↔ d.paths.keys = [] := by
    rw [SortedMap.isEmpty, List.isEmpty_iff, SortedMap.keys, List.map_eq_nil_iff]
  simp only [Document.finalize, List.isEmpty_iff, hempty]
  by_cases htags : d.tags = []
  · rw [if_pos htags]
    exact ⟨.tags, h.tags.1 htags, rfl⟩
  · rw [if_neg htags]
    by_cases hpaths : d.paths.keys = []
    · rw [if_pos hpaths]
      exact ⟨.paths, h.paths.1 hpaths, rfl⟩
    · rw [if_neg hpaths]
      refine ⟨fun lack hlack => ?_, rfl⟩
      cases hlack with
      | tags hnone hcategories => exact htags (h.tags.2 (.tags hnone hcategories))
      | paths hnone => exact hpaths (h.paths.2 (.paths hnone))

end Document

/-! ### Runs -/

namespace Pipeline

variable {settings : Settings} {calls : List Call} {c : Call}

/-- A release is refused exactly if the inputs of the run are incomplete, whatever has been merged;
otherwise it is stamped into the merged document, and nothing else is changed. -/
theorem run_refuses_incomplete {source : Source} {files : FileTree}
    (hc : assembler? settings (calls ++ [⟨.document, source, files⟩]) = some c) :
    ∃ raw categories d₀ d, c.source.Provides raw ∧ settings.Configures c.files categories ∧
      Document.assemble c.source settings c.files = .ok d₀ ∧
      d₀.Leads (({ settings } : Pipeline).run calls).1.accepted d ∧
      ∀ release, match (({ settings } : Pipeline).run calls).2.finalize source files release with
        | .ok published => (∀ lack, ¬ Lacks raw categories lack) ∧
            published = { d with info := { d.info with version := release } }
        | .error f => ∃ lack, Lacks raw categories lack ∧ f = .incomplete lack := by
  obtain ⟨d₀, hbase, hassembly⟩ := firstAssembly?_of_assembler? hc
  have hassemble := assemble_of_assembly? hassembly
  obtain ⟨raw, categories, hraw, hcategories, hlacks⟩ := Document.lacksAs_of_assemble hassemble
  have hreflects := reflects_run calls (reflects_start settings)
  have hcalls := map_fst_run calls { settings }
  rw [List.nil_append] at hreflects
  generalize ({ settings } : Pipeline).run calls = outcome at hreflects hcalls ⊢
  obtain ⟨h, p⟩ := outcome
  have hbase' : History.base? settings
      (h ++ [(⟨.document, source, files⟩, .isAssembled p.isAssembled)]) = some d₀ := by
    rw [History.base?, List.map_append, hcalls, List.map_singleton, hbase]
  obtain ⟨d, hd, hleads⟩ := hreflects.document_of_base rfl hbase'
  refine ⟨raw, categories, d₀, d, hraw, hcategories, hassemble, hleads, fun release => ?_⟩
  have hfinalize : p.finalize source files release = d.finalize release := by
    rw [finalize, hd]; rfl
  rw [hfinalize]
  have hmerged : d.LacksAs raw categories :=
    hleads.invariant (P := (·.LacksAs raw categories)) (fun _ b h => h.merge b) hlacks
  exact hmerged.finalize release

theorem run_refuses_incomplete_jobs :
    ∃ c, assembler? jobsSettings (jobsCalls ++ [jobsCall .document]) = some c ∧
      ∃ raw categories, ∃ d : Document, c.source.Provides raw ∧
        jobsSettings.Configures c.files categories ∧
        (∀ lack, ¬ Lacks raw categories lack) ∧
        (({ settings := jobsSettings } : Pipeline).run jobsCalls).2.finalize Document.jobsSource
          Document.jobsTemplates "3.3.0" =
            .ok { d with info := { d.info with version := "3.3.0" } } := by
  have hassembler : (assembler? jobsSettings (jobsCalls ++ [jobsCall .document])).isSome := by
    decide +kernel
  have hok : ((({ settings := jobsSettings } : Pipeline).run jobsCalls).2.finalize
      Document.jobsSource Document.jobsTemplates "3.3.0").isOk := by decide +kernel
  obtain ⟨c, hc⟩ := Option.isSome_iff_exists.1 hassembler
  obtain ⟨raw, categories, _, d, hraw, hcategories, -, -, hfinalize⟩ := run_refuses_incomplete hc
  have hrelease := hfinalize "3.3.0"
  generalize (({ settings := jobsSettings } : Pipeline).run jobsCalls).2.finalize _ _ _ = outcome
    at hok hrelease ⊢
  cases outcome with
  | error f => cases hok
  | ok published =>
    obtain ⟨hcomplete, rfl⟩ := hrelease
    exact ⟨c, hc, raw, categories, d, hraw, hcategories, hcomplete, rfl⟩

end Pipeline

end SwaggerPress
