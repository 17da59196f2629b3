import SwaggerPress.Assembly
import SwaggerPress.Proofs.Lookup
import SwaggerPress.Proofs.PathTemplate.Gaps

/-!
    Resolving the paths for one version. Of the templates that become one path the last is kept, and
    the path has its operations and no others, marked if that template is listed (`KeptFor`,
    `get?_resolve_eq_some_iff`, `resolve_keeps_greatest`). On paths without a version hole nothing is
    renamed and nothing can collide, so resolving them only marks what the list of deprecated
    templates names (`resolve_of_not_hasVersionHole`). Resolved paths are such paths, which says all
    about resolving a second time, for whatever version and list (`resolve_again`,
    `resolve_only_flags`): the list, made for templates, is then read against paths.

        templates          paths          paths again
        /api/{version}/  ─▶  /api/v2/   ─▶  /api/v2/
        listed: /api/v2/     not marked     marked                                              -/

namespace SwaggerPress

open PathTemplate (Becomes BraceFree HasVersionHole versionName withVersion withVersion_eq_iff)

/-- Every operation of the item is deprecated. -/
def PathItem.AllDeprecated (item : PathItem) : Prop :=
  ∀ method o, SortedMap.get? item method = some o → o.deprecated = true

/-- Marking as deprecated changes nothing exactly where everything is deprecated already. -/
theorem PathItem.mark_eq_self_iff (item : PathItem) (deprecated : Bool) :
    item.mark deprecated = item ↔ (deprecated = true → item.AllDeprecated) := by
  cases deprecated with
  | false => simp [mark]
  | true =>
    have hget : ∀ method, SortedMap.get? (item.mark true) method =
        (SortedMap.get? item method).map fun o => { o with deprecated := true } := by
      intro method
      rw [mark, if_pos rfl, SortedMap.get?_map]
    constructor
    · intro h _ method o ho
      have hmark := hget method
      rw [h, ho, Option.map_some, Option.some.injEq] at hmark
      exact hmark ▸ rfl
    · intro h
      refine SortedMap.ext_get? fun method => ?_
      rw [hget]
      cases ho : SortedMap.get? item method with
      | none => rfl
      | some o =>
        have hdep : o.deprecated = true := h rfl method o ho
        rw [Option.map_some, ← hdep]

theorem PathItem.get?_mark (item : PathItem) (deprecated : Bool) (method : String) :
    SortedMap.get? (item.mark deprecated) method = (SortedMap.get? item method).map fun o =>
      { o with deprecated := o.deprecated || deprecated } := by
  unfold mark
  cases deprecated with
  | false => simp
  | true => simp

/-- Marking goes through all operations, and sets the flag of each if it is to. -/
theorem PathItem.mark_eq_map (item : PathItem) (deprecated : Bool) :
    item.mark deprecated =
      item.map fun o => { o with deprecated := o.deprecated || deprecated } := by
  refine SortedMap.ext_get? fun method => ?_
  rw [PathItem.get?_mark, SortedMap.get?_map]

namespace Paths

variable {paths : Paths} {version : String} {deprecated : Deprecations}

theorem mem_keys_resolve {path : String} :
    path ∈ (paths.resolve version deprecated).keys ↔
      ∃ template ∈ paths.keys, withVersion version template = path := by
  rw [resolve, SortedMap.mem_keys_ofList]
  simp [SortedMap.keys]

/-- There are paths exactly if there are templates. -/
theorem keys_resolve_eq_nil_iff :
    (paths.resolve version deprecated).keys = [] ↔ paths.keys = [] := by
  simp only [List.eq_nil_iff_forall_not_mem, mem_keys_resolve]
  constructor
  · intro h template htemplate
    exact h (withVersion version template) ⟨template, htemplate, rfl⟩
  · rintro h path ⟨template, htemplate, -⟩
    exact h template htemplate

/-! ### Templates that become one path -/

/-- Of the templates that become a path, the one whose operations it gets: the last in ascending
order. -/
structure KeptFor (paths : Paths) (version path template : String) : Prop where
  listed : template ∈ paths.keys
  becomes : withVersion version template = path
  last : ∀ other ∈ paths.keys, withVersion version other = path → other ≤ template

theorem KeptFor.unique {path template other : String} (h : paths.KeptFor version path template)
    (h' : paths.KeptFor version path other) : template = other :=
  String.le_antisymm (h'.last _ h.listed h.becomes) (h.last _ h'.listed h'.becomes)

/-- A path has the operations of the template kept for it, and those of no other. -/
theorem get?_resolve_eq_some_iff {path : String} {item : PathItem} :
    (paths.resolve version deprecated).get? path = some item ↔
      ∃ template original, paths.KeptFor version path template ∧
        paths.get? template = some original ∧
        PathItem.mark original (deprecated.contains template) = item := by
  rw [resolve, SortedMap.get?_ofList, firstUnder?_reverse_rename (withVersion version)
    (fun e => PathItem.mark e.2 (deprecated.contains e.1)) paths.ascending]
  constructor
  · rintro ⟨⟨template, original⟩, hmem, hbecomes, hlast, hitem⟩
    refine ⟨template, original, ⟨List.mem_map.2 ⟨_, hmem, rfl⟩, hbecomes, ?_⟩,
      SortedMap.get?_eq_some_iff.2 hmem, hitem⟩
    intro other hother hother'
    obtain ⟨e, he, rfl⟩ := List.mem_map.1 hother
    exact hlast e he hother'
  · rintro ⟨template, original, hkept, horiginal, hitem⟩
    refine ⟨(template, original), SortedMap.get?_eq_some_iff.1 horiginal, hkept.becomes, ?_, hitem⟩
    intro other hother hother'
    exact hkept.last _ (List.mem_map.2 ⟨other, hother, rfl⟩) hother'

theorem get?_resolve_of_keptFor {path template : String} {original : PathItem}
    (h : paths.KeptFor version path template) (horiginal : paths.get? template = some original) :
    (paths.resolve version deprecated).get? path =
      some (PathItem.mark original (deprecated.contains template)) :=
  get?_resolve_eq_some_iff.2 ⟨template, original, h, horiginal, rfl⟩

/-- The paths are those for which a template is kept. -/
theorem mem_keys_resolve_iff_keptFor {path : String} :
    path ∈ (paths.resolve version deprecated).keys ↔
      ∃ template, paths.KeptFor version path template := by
  simp only [SortedMap.mem_keys_iff, get?_resolve_eq_some_iff]
  constructor
  · rintro ⟨-, template, -, hkept, -⟩
    exact ⟨template, hkept⟩
  · rintro ⟨template, hkept⟩
    obtain ⟨original, horiginal⟩ := SortedMap.mem_keys_iff.1 hkept.listed
    exact ⟨_, template, original, hkept, horiginal, rfl⟩

/-- A path is there if a template becomes it, and then it has the operations of the greatest
template that does, as they are but for the flag, which is set if that template is listed. -/
theorem resolve_keeps_greatest (paths : Paths) (version : String) (deprecated : Deprecations) :
    (∀ path, path ∈ (paths.resolve version deprecated).keys ↔
      ∃ template ∈ paths.keys, Becomes version template path) ∧
    ∀ path item, (paths.resolve version deprecated).get? path = some item ↔
      ∃ template original, paths.get? template = some original ∧ Becomes version template path ∧
        (∀ other ∈ paths.keys, Becomes version other path → other ≤ template) ∧
        item = original.map fun o =>
          { o with deprecated := o.deprecated || deprecated.contains template } := by
  simp only [← withVersion_eq_iff, ← PathItem.mark_eq_map]
  refine ⟨fun path => mem_keys_resolve, fun path item => ?_⟩
  rw [get?_resolve_eq_some_iff]
  constructor
  · rintro ⟨template, original, hkept, horiginal, rfl⟩
    exact ⟨template, original, horiginal, hkept.becomes, hkept.last, rfl⟩
  · rintro ⟨template, original, horiginal, hbecomes, hlast, rfl⟩
    have hlisted : template ∈ paths.keys := SortedMap.mem_keys_iff.2 ⟨original, horiginal⟩
    exact ⟨template, original, ⟨hlisted, hbecomes, hlast⟩, horiginal, rfl⟩

/-! ### Paths without a version hole -/

/-- Where there is no version hole to fill, resolving only marks what is listed. -/
theorem resolve_of_not_hasVersionHole (h : ∀ template ∈ paths.keys, ¬ HasVersionHole template) :
    paths.resolve version deprecated =
      paths.mapWithKey fun template item => PathItem.mark item (deprecated.contains template) := by
  have hentries : (paths.entries.map fun e =>
      (withVersion version e.1, PathItem.mark e.2 (deprecated.contains e.1))) =
      (paths.mapWithKey fun template item =>
        PathItem.mark item (deprecated.contains template)).entries := by
    rw [SortedMap.entries_mapWithKey]
    refine List.map_congr_left fun e he => ?_
    have hkey : e.1 ∈ paths.keys := List.mem_map.2 ⟨e, he, rfl⟩
    rw [PathTemplate.withVersion_of_not_hasVersionHole version (h e.1 hkey)]
  rw [resolve, hentries, SortedMap.ofList_entries]

theorem not_hasVersionHole_resolve (hbrace : BraceFree version.toList)
    (hocc : ¬ version.toList <:+: versionName) :
    ∀ path ∈ (paths.resolve version deprecated).keys, ¬ HasVersionHole path := by
  intro path hpath
  obtain ⟨template, -, rfl⟩ := mem_keys_resolve.1 hpath
  exact PathTemplate.not_hasVersionHole_withVersion hbrace hocc template

/-- Resolving resolved paths once more marks the paths that are listed themselves, and changes
nothing else; it changes nothing at all exactly if all their operations are deprecated already. -/
theorem resolve_again (paths : Paths) (version : String) (deprecated : Deprecations)
    (hbrace : BraceFree version.toList) (hocc : ¬ version.toList <:+: versionName) :
    (paths.resolve version deprecated).resolve version deprecated =
      (paths.resolve version deprecated).mapWithKey (fun path item =>
        PathItem.mark item (deprecated.contains path)) ∧
    ((paths.resolve version deprecated).resolve version deprecated =
        paths.resolve version deprecated ↔
      ∀ path item, (paths.resolve version deprecated).get? path = some item →
        deprecated.contains path = true → PathItem.AllDeprecated item) := by
  have hagain : (paths.resolve version deprecated).resolve version deprecated =
      (paths.resolve version deprecated).mapWithKey fun path item =>
        PathItem.mark item (deprecated.contains path) :=
    resolve_of_not_hasVersionHole (not_hasVersionHole_resolve hbrace hocc)
  refine ⟨hagain, ?_⟩
  rw [hagain]
  generalize paths.resolve version deprecated = resolved
  constructor
  · intro h path item hitem
    have hpath := SortedMap.get?_mapWithKey resolved
      (fun path item => PathItem.mark item (deprecated.contains path)) path
    rw [h, hitem, Option.map_some, Option.some.injEq] at hpath
    exact (PathItem.mark_eq_self_iff item _).1 hpath.symm
  · intro h
    refine SortedMap.ext_get? fun path => ?_
    rw [SortedMap.get?_mapWithKey]
    cases hitem : resolved.get? path with
    | none => rfl
    | some item =>
      rw [Option.map_some, (PathItem.mark_eq_self_iff item _).2 (h path item hitem)]

/-! ### A listed path -/

/-- One operation under a template for the version. -/
def jobs : Paths := .ofList [("/api/\x7bversion\x7d/jobs/", .ofList [("get", {})])]

/-- A list that names the path which that template becomes. -/
def listedJobs : Deprecations := .ofList ["/api/v2/jobs/"]

theorem resolve_again_jobs : BraceFree "v2".toList ∧ ¬ "v2".toList <:+: versionName ∧
    (jobs.resolve "v2" listedJobs).resolve "v2" listedJobs =
      (jobs.resolve "v2" listedJobs).mapWithKey (fun path item =>
        PathItem.mark item (listedJobs.contains path)) ∧
    ((jobs.resolve "v2" listedJobs).resolve "v2" listedJobs = jobs.resolve "v2" listedJobs ↔
      ∀ path item, (jobs.resolve "v2" listedJobs).get? path = some item →
        listedJobs.contains path = true → PathItem.AllDeprecated item) := by
  have hbrace : BraceFree "v2".toList := by decide
  have hocc : ¬ "v2".toList <:+: versionName := by decide +kernel
  exact ⟨hbrace, hocc, resolve_again jobs "v2" listedJobs hbrace hocc⟩

/-- Resolving is not a fixed point on its own output: the path is not marked by the first run, and
by the second it is. -/
theorem resolve_resolve_ne : BraceFree "v2".toList ∧ ¬ "v2".toList <:+: versionName ∧
    (jobs.resolve "v2" listedJobs).resolve "v2" listedJobs ≠ jobs.resolve "v2" listedJobs := by
  refine ⟨by decide, by decide +kernel, fun h => ?_⟩
  have hflag := congrArg (fun paths : Paths => ((paths.get? "/api/v2/jobs/").bind fun item =>
    SortedMap.get? item "get").map (·.deprecated)) h
  exact absurd hflag (by decide +kernel)

/-! ### Any version and any list -/

/-- No hole is left in a path, and to resolve the paths again, for any version and any list, only
flags the operations under the paths that are listed. -/
theorem resolve_only_flags (paths : Paths) (version : String) (deprecated : Deprecations)
    (hbrace : BraceFree version.toList) (hocc : ¬ version.toList <:+: versionName) :
    (∀ path ∈ (paths.resolve version deprecated).keys, ¬ HasVersionHole path) ∧
    ∀ version' deprecated',
      ((paths.resolve version deprecated).resolve version' deprecated').keys =
        (paths.resolve version deprecated).keys ∧
      ∀ path, ((paths.resolve version deprecated).resolve version' deprecated').get? path =
        ((paths.resolve version deprecated).get? path).map fun item => item.map fun o =>
          { o with deprecated := o.deprecated || deprecated'.contains path } := by
  have hholes : ∀ path ∈ (paths.resolve version deprecated).keys, ¬ HasVersionHole path :=
    not_hasVersionHole_resolve hbrace hocc
  refine ⟨hholes, fun version' deprecated' => ?_⟩
  rw [resolve_of_not_hasVersionHole hholes]
  refine ⟨SortedMap.keys_mapWithKey _ _, fun path => ?_⟩
  simp only [SortedMap.get?_mapWithKey, PathItem.mark_eq_map]

/-- A template with a hole within the name of what would be another. -/
def nestedJobs : Paths := .ofList [("/\x7bver\x7bversion\x7dsion\x7d/jobs/", .ofList [("get", {})])]

/-- A list that names the path which that template becomes. -/
def listedNested : Deprecations := .ofList ["/\x7bverv2sion\x7d/jobs/"]

theorem resolve_only_flags_nested : BraceFree "v2".toList ∧ ¬ "v2".toList <:+: versionName ∧
    (nestedJobs.resolve "v2" listedJobs).keys = ["/\x7bverv2sion\x7d/jobs/"] ∧
    (∀ path ∈ (nestedJobs.resolve "v2" listedJobs).keys, ¬ HasVersionHole path) ∧
    ∀ path, ((nestedJobs.resolve "v2" listedJobs).resolve "sion" listedNested).get? path =
      ((nestedJobs.resolve "v2" listedJobs).get? path).map fun item => item.map fun o =>
        { o with deprecated := o.deprecated || listedNested.contains path } := by
  have hbrace : BraceFree "v2".toList := by decide
  have hocc : ¬ "v2".toList <:+: versionName := by decide +kernel
  obtain ⟨hholes, hagain⟩ := resolve_only_flags nestedJobs "v2" listedJobs hbrace hocc
  exact ⟨hbrace, hocc, by decide +kernel, hholes, (hagain "sion" listedNested).2⟩

end Paths

end SwaggerPress
