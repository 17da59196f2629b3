import SwaggerPress.Proofs.Merge.Absorb

/-!
    A merge in closed form. The copy that a merge works on is at every visit what the visits so far
    make of the paths (`Covers`); one visit keeps that or fails (`visit_step`, `visit_refused`), and
    so does a run of visits up to the first that fails. So a merge is decided by the first visit that
    hits with a body that does not parse (`merge_eq`), and without one every operation absorbs its
    own captures and no other (`operation?_merged`).

        visits   (t₁, e₁) (t₁, e₂) … (t₂, e₁) (t₂, e₂) …
                 └─ covered: paths = pathsAfter ─┘ └─ to come -/

namespace SwaggerPress

/-- A capture under its path, visited under a template. -/
abbrev Visit := String × String × Capture

namespace Document

/-- Whether a visit hits an operation. -/
def hit (d : Document) (v : Visit) : Bool :=
  PathTemplate.accepts v.1 v.2.1 && (d.operation? v.1 v.2.2.method).isSome

/-- The failure of a visit, if it hits with a body that does not parse. -/
def refusal? (d : Document) (v : Visit) : Option Failure :=
  if d.hit v then v.2.2.bodyFault?.map (v.2.2.refusal v.2.1) else none

end Document

/-- The captures that visits show the operation of a method on a template. -/
def capturesAt (vs : List Visit) (template method : String) : List Capture :=
  (vs.filter fun v =>
    v.1 = template ∧ PathTemplate.accepts v.1 v.2.1 ∧ v.2.2.method = method).map (·.2.2)

/-- The paths after visits, each operation having absorbed what it was shown. -/
def Document.pathsAfter (d : Document) (vs : List Visit) : Paths :=
  d.paths.mapWithKey fun template item => item.mapWithKey fun method o =>
    o.withCaptures (capturesAt vs template method)

theorem capturesAt_concat (vs : List Visit) (v : Visit) (template method : String) :
    capturesAt (vs ++ [v]) template method = capturesAt vs template method ++
      if v.1 = template ∧ PathTemplate.accepts v.1 v.2.1 ∧ v.2.2.method = method then [v.2.2]
      else [] := by
  rw [capturesAt, List.filter_append, List.map_append, ← capturesAt]
  by_cases h : v.1 = template ∧ PathTemplate.accepts v.1 v.2.1 ∧ v.2.2.method = method
  · rw [if_pos h, List.filter_cons_of_pos (by simpa using h)]; rfl
  · rw [if_neg h, List.filter_cons_of_neg (by simpa using h)]; rfl

namespace Document

variable {d : Document}

theorem operation?_eq_some_iff {template method : String} {o : Operation} :
    d.operation? template method = some o ↔
      ∃ item, d.paths.get? template = some item ∧ SortedMap.get? item method = some o := by
  simp [operation?, Option.bind_eq_some_iff]

theorem get?_pathsAfter (d : Document) (vs : List Visit) (template : String) :
    (d.pathsAfter vs).get? template = (d.paths.get? template).map fun item =>
      SortedMap.mapWithKey item fun method o => o.withCaptures (capturesAt vs template method) :=
  d.paths.get?_mapWithKey _ template

/-- The operation that a visit finds in the copy. -/
theorem get?_pathsAfter_getD (d : Document) (vs : List Visit) (template method : String) :
    SortedMap.get? (((d.pathsAfter vs).get? template).getD .empty) method =
      (d.operation? template method).map fun o => o.withCaptures (capturesAt vs template method) := by
  rw [get?_pathsAfter, operation?]
  cases d.paths.get? template with
  | none => rfl
  | some item => simp

theorem pathsAfter_nil (d : Document) : d.pathsAfter [] = d.paths := by
  simp [pathsAfter, capturesAt, SortedMap.mapWithKey_id]

/-- A visit that hits nothing changes nothing. -/
theorem pathsAfter_concat_of_not_hit {v : Visit} (vs : List Visit) (h : d.hit v = false) :
    d.pathsAfter (vs ++ [v]) = d.pathsAfter vs := by
  refine SortedMap.ext_get? fun template => ?_
  rw [get?_pathsAfter, get?_pathsAfter]
  cases hitem : d.paths.get? template with
  | none => rfl
  | some item =>
    rw [Option.map_some, Option.map_some, Option.some.injEq]
    refine SortedMap.ext_get? fun method => ?_
    rw [SortedMap.get?_mapWithKey, SortedMap.get?_mapWithKey]
    cases ho : SortedMap.get? item method with
    | none => rfl
    | some o =>
      have hmiss : ¬ (v.1 = template ∧ PathTemplate.accepts v.1 v.2.1 ∧ v.2.2.method = method) := by
        rintro ⟨rfl, hacc, rfl⟩
        have hop := operation?_eq_some_iff.2 ⟨item, hitem, ho⟩
        simp [hit, hacc, hop] at h
      rw [capturesAt_concat, if_neg hmiss, List.append_nil]

/-- A visit that hits is absorbed by the operation it hits, and by no other. -/
theorem pathsAfter_concat_of_hit {v : Visit} (vs : List Visit) {item : PathItem} {o : Operation}
    (hacc : PathTemplate.accepts v.1 v.2.1) (hitem : d.paths.get? v.1 = some item)
    (ho : SortedMap.get? item v.2.2.method = some o) :
    d.pathsAfter (vs ++ [v]) = (d.pathsAfter vs).insert v.1
      (SortedMap.insert (((d.pathsAfter vs).get? v.1).getD .empty) v.2.2.method
        ((o.withCaptures (capturesAt vs v.1 v.2.2.method)).withCapture v.2.2 v.2.2.kept?)) := by
  refine SortedMap.ext_get? fun template => ?_
  rw [SortedMap.get?_insert, get?_pathsAfter]
  by_cases ht : template = v.1
  · subst ht
    rw [if_pos rfl, get?_pathsAfter, hitem, Option.map_some, Option.map_some, Option.getD_some,
      Option.some.injEq]
    refine SortedMap.ext_get? fun method => ?_
    rw [SortedMap.get?_insert, SortedMap.get?_mapWithKey, SortedMap.get?_mapWithKey]
    by_cases hm : method = v.2.2.method
    · subst hm
      rw [if_pos rfl, ho, Option.map_some, capturesAt_concat, if_pos ⟨rfl, hacc, rfl⟩,
        Operation.withCaptures_append]
      rfl
    · rw [if_neg hm, capturesAt_concat, if_neg fun h => hm h.2.2.symm, List.append_nil]
  · rw [if_neg ht, get?_pathsAfter]
    cases d.paths.get? template with
    | none => rfl
    | some item' =>
      simp only [capturesAt_concat, if_neg fun h : v.1 = template ∧ _ => ht h.1.symm,
        List.append_nil]

end Document

/-! ### One visit and a run of visits -/

namespace Merging

/-- The merge `m` of `d` is where the visits `vs` lead to. -/
structure Covers (d : Document) (vs : List Visit) (m : Merging) : Prop where
  document : m.document = d
  paths : m.paths = d.pathsAfter vs
  hits : m.hits = ((vs.filter d.hit).map (·.2)).reverse

variable {d : Document} {vs : List Visit} {m : Merging}

theorem covers_start (d : Document) : Covers d [] { document := d, paths := d.paths } where
  document := rfl
  paths := d.pathsAfter_nil.symm
  hits := rfl

/-- A visit looks at the operation as the visits before have left it. -/
theorem Covers.visit_eq (h : Covers d vs m) (v : Visit) :
    m.visit v.1 v.2 = match d.operation? v.1 v.2.2.method with
      | none => .ok m
      | some o =>
        if PathTemplate.accepts v.1 v.2.1 then
          ((o.withCaptures (capturesAt vs v.1 v.2.2.method)).absorb v.2.1 v.2.2).map fun o =>
            { m with
              paths := m.paths.insert v.1
                (SortedMap.insert ((m.paths.get? v.1).getD .empty) v.2.2.method o)
              hits := v.2 :: m.hits }
        else .ok m := by
  have hfound := d.get?_pathsAfter_getD vs v.1 v.2.2.method
  rw [← h.paths] at hfound
  unfold visit
  simp only [hfound]
  cases d.operation? v.1 v.2.2.method with
  | none => rfl
  | some o =>
    simp only [Option.map_some]
    split
    · cases (o.withCaptures (capturesAt vs v.1 v.2.2.method)).absorb v.2.1 v.2.2 <;> rfl
    · rfl

theorem visit_refused {v : Visit} {f : Failure} (h : Covers d vs m) (hf : d.refusal? v = some f) :
    m.visit v.1 v.2 = .error f := by
  rw [Document.refusal?] at hf
  cases hhit : d.hit v with
  | false => simp [hhit] at hf
  | true =>
    rw [if_pos hhit, Option.map_eq_some_iff] at hf
    obtain ⟨fault, hfault, rfl⟩ := hf
    rw [Document.hit, Bool.and_eq_true, Option.isSome_iff_exists] at hhit
    obtain ⟨hacc, o, ho⟩ := hhit
    rw [h.visit_eq, ho]
    simp only [if_pos hacc, Operation.absorb_eq, hfault, Except.map]

theorem visit_step {v : Visit} (h : Covers d vs m) (hf : d.refusal? v = none) :
    ∃ m', m.visit v.1 v.2 = .ok m' ∧ Covers d (vs ++ [v]) m' := by
  rw [Document.refusal?] at hf
  cases hhit : d.hit v with
  | false =>
    refine ⟨m, ?_, h.document, ?_, ?_⟩
    · rw [h.visit_eq]
      cases ho : d.operation? v.1 v.2.2.method with
      | none => rfl
      | some o => simp_all [Document.hit]
    · rw [h.paths, Document.pathsAfter_concat_of_not_hit vs hhit]
    · rw [h.hits, List.filter_append, List.filter_cons_of_neg (by simp [hhit])]; simp
  | true =>
    rw [if_pos hhit, Option.map_eq_none_iff] at hf
    have hhit' := hhit
    rw [Document.hit, Bool.and_eq_true, Option.isSome_iff_exists] at hhit'
    obtain ⟨hacc, o, ho⟩ := hhit'
    obtain ⟨item, hitem, hmethod⟩ := Document.operation?_eq_some_iff.1 ho
    have hvisit : m.visit v.1 v.2 = .ok { m with
        paths := m.paths.insert v.1 (SortedMap.insert ((m.paths.get? v.1).getD .empty)
          v.2.2.method
          ((o.withCaptures (capturesAt vs v.1 v.2.2.method)).withCapture v.2.2 v.2.2.kept?))
        hits := v.2 :: m.hits } := by
      rw [h.visit_eq, ho]
      simp only [if_pos hacc, Operation.absorb_eq, hf, Except.map]
    refine ⟨_, hvisit, h.document, ?_, ?_⟩
    · rw [Document.pathsAfter_concat_of_hit vs hacc hitem hmethod, h.paths]
    · rw [h.hits, List.filter_append, List.filter_cons_of_pos hhit]; simp

/-- A run ends at the first visit that fails, with the document as it was handed over. -/
theorem run_refused {f : Failure} : ∀ {ws vs : List Visit} {m : Merging}, Covers d vs m →
    ws.findSome? d.refusal? = some f → ∃ m', m.run ws = (some f, m') ∧ m'.document = d
  | v :: ws, vs, m, h, hf => by
    rw [List.findSome?_cons] at hf
    unfold run
    cases hv : d.refusal? v with
    | some g =>
      rw [hv, Option.some.injEq] at hf
      subst hf
      rw [visit_refused h hv]
      exact ⟨m, rfl, h.document⟩
    | none =>
      rw [hv] at hf
      obtain ⟨m', hm', hcov⟩ := visit_step h hv
      rw [hm']
      exact run_refused hcov hf

/-- A run in which no visit fails covers all of them. -/
theorem run_covers : ∀ {ws vs : List Visit} {m : Merging}, Covers d vs m →
    ws.findSome? d.refusal? = none → ∃ m', m.run ws = (none, m') ∧ Covers d (vs ++ ws) m'
  | [], vs, m, h, _ => ⟨m, rfl, by simpa using h⟩
  | v :: ws, vs, m, h, hf => by
    rw [List.findSome?_cons] at hf
    unfold run
    cases hv : d.refusal? v with
    | some g => simp [hv] at hf
    | none =>
      rw [hv] at hf
      obtain ⟨m', hm', hcov⟩ := visit_step h hv
      rw [hm']
      obtain ⟨m'', hrun, hcov'⟩ := run_covers hcov hf
      exact ⟨m'', hrun, by simpa using hcov'⟩

end Merging

/-! ### The whole merge -/

/-- The captures of a batch that hit the operation of a method on a template, in their order. -/
def Batch.capturesOf (b : Batch) (template method : String) : List Capture :=
  (b.toList.filter fun e =>
    PathTemplate.accepts template e.1 ∧ e.2.method = method).map (·.2)

namespace Document

/-- Every template is shown the whole batch. -/
theorem capturesAt_visits (d : Document) (b : Batch) {template : String} (method : String)
    (h : template ∈ d.paths.keys) :
    capturesAt (d.visits b) template method = b.capturesOf template method := by
  have hblock : ∀ t, ((b.toList.map fun e => (t, e)).filter fun v : Visit =>
      v.1 = template ∧ PathTemplate.accepts v.1 v.2.1 ∧ v.2.2.method = method) =
      if t = template then (b.toList.filter fun e =>
        PathTemplate.accepts template e.1 ∧ e.2.method = method).map fun e => (t, e)
      else [] := by
    intro t
    rw [List.filter_map]
    by_cases ht : t = template
    · subst ht; simp [Function.comp_def]
    · simp [ht]
  rw [capturesAt, visits, List.filter_flatMap]
  simp only [hblock]
  rw [flatMap_eq_of_nodup d.paths.nodup_keys h (fun n hn => if_neg hn), if_pos rfl, List.map_map]
  rfl

/-- The captures of a batch that hit, under every template that one hits. -/
def hits (d : Document) (b : Batch) : List (String × Capture) :=
  ((d.visits b).filter d.hit).map (·.2)

/-- The document after a batch none of whose visits fails. -/
def merged (d : Document) (b : Batch) : Document := { d with paths := d.pathsAfter (d.visits b) }

/-- The report on a batch none of whose visits fails. -/
def reported (d : Document) (b : Batch) : MergeReport :=
  ⟨(d.hits b).length, (b.toList.filter fun e => !(d.hits b).any (sameOccasion e)).length⟩

/-- A merge is decided by the first visit that fails. -/
theorem merge_eq (d : Document) (b : Batch) :
    d.merge b = match (d.visits b).findSome? d.refusal? with
      | some f => (.error f, d)
      | none => (.ok (d.reported b), d.merged b) := by
  unfold merge
  cases hf : (d.visits b).findSome? d.refusal? with
  | some f =>
    obtain ⟨m, hrun, hdoc⟩ := Merging.run_refused (Merging.covers_start d) hf
    simp only [hrun, hdoc]
  | none =>
    obtain ⟨m, hrun, hcov⟩ := Merging.run_covers (Merging.covers_start d) hf
    have hhits : m.hits = (d.hits b).reverse := hcov.hits
    rw [hrun]
    simp only [hhits, hcov.document, hcov.paths, List.nil_append, List.length_reverse,
      List.any_reverse]
    rfl

/-- After a merge every operation has absorbed the captures that hit it. -/
theorem operation?_merged (d : Document) (b : Batch) (template method : String) :
    (d.merged b).operation? template method =
      (d.operation? template method).map (·.withCaptures (b.capturesOf template method)) := by
  rw [operation?, merged, get?_pathsAfter, operation?]
  cases hitem : d.paths.get? template with
  | none => rfl
  | some item =>
    have hkey : template ∈ d.paths.keys := SortedMap.mem_keys_iff.2 ⟨item, hitem⟩
    simp [capturesAt_visits d b _ hkey]

end Document

end SwaggerPress
