import Mathlib.Data.List.Sort
import SwaggerPress.Proofs.Merge.Refusal
import SwaggerPress.Proofs.Merge.Sequence

/-!
    What the result of a merge depends on. The *skeleton* of a document is the set of its operations,
    each as template and method. A visit hits exactly if it does so by the skeleton
    (`hit_eq_true_iff_skeleton`), and templates without operations are visited in vain, so documents
    of one skeleton agree on the visits that hit (`hitting_congr`), and with them on the report or
    the failure of every batch (`merge_fst_congr`). A merge keeps the skeleton (`skeleton_merge`),
    and so do any number of them.

        visits of d       (t₁, e₁)  (t₁, e₂)  (t₂, e₁)  (t₂, e₂)
        hitting                     (t₁, e₂)  (t₂, e₁)
        visits of d'      (t₀, e₁)  (t₀, e₂)  (t₁, e₁)  (t₁, e₂)  (t₂, e₁)  (t₂, e₂) -/

namespace SwaggerPress

namespace Document

variable {d d' : Document} {b : Batch}

/-- The operations that there are, as template and method. -/
def skeleton (d : Document) : List (String × String) :=
  d.paths.entries.flatMap fun e => e.2.keys.map fun method => (e.1, method)

theorem mem_skeleton_iff {pair : String × String} :
    pair ∈ d.skeleton ↔ ∃ o, d.operation? pair.1 pair.2 = some o := by
  rw [skeleton, List.mem_flatMap]
  constructor
  · rintro ⟨⟨template, item⟩, hitem, hmethod⟩
    obtain ⟨method, hkey, rfl⟩ := List.mem_map.1 hmethod
    obtain ⟨o, ho⟩ := SortedMap.mem_keys_iff.1 hkey
    exact ⟨o, operation?_eq_some_iff.2 ⟨item, SortedMap.get?_eq_some_iff.2 hitem, ho⟩⟩
  · rintro ⟨o, ho⟩
    obtain ⟨item, hitem, ho⟩ := operation?_eq_some_iff.1 ho
    refine ⟨(pair.1, item), SortedMap.get?_eq_some_iff.1 hitem, ?_⟩
    exact List.mem_map.2 ⟨pair.2, SortedMap.mem_keys_iff.2 ⟨o, ho⟩, rfl⟩

theorem hit_eq_true_iff_skeleton {v : Visit} :
    d.hit v = true ↔ PathTemplate.accepts v.1 v.2.1 ∧ (v.1, v.2.2.method) ∈ d.skeleton := by
  rw [hit, Bool.and_eq_true, Option.isSome_iff_exists, mem_skeleton_iff]

/-- The visits that hit. -/
def hitting (d : Document) (b : Batch) : List Visit := (d.visits b).filter d.hit

/-- The visits that hit under one template. -/
def hittingUnder (d : Document) (b : Batch) (template : String) : List Visit :=
  (b.toList.map fun e => (template, e)).filter d.hit

theorem mem_keys_of_mem_hittingUnder {template : String} {v : Visit}
    (h : v ∈ d.hittingUnder b template) : template ∈ d.paths.keys := by
  obtain ⟨hv, hhit⟩ := List.mem_filter.1 h
  obtain ⟨e, -, rfl⟩ := List.mem_map.1 hv
  obtain ⟨-, item, hitem, -⟩ := hit_eq_true_iff.1 hhit
  exact SortedMap.mem_keys_iff.2 ⟨item, hitem⟩

/-- Templates under which nothing hits may be left out. -/
theorem hitting_eq (d : Document) (b : Batch) : d.hitting b =
    (d.paths.keys.filter fun template => d.hittingUnder b template ≠ []).flatMap
      (d.hittingUnder b) := by
  rw [hitting, visits, List.filter_flatMap]
  induction d.paths.keys with
  | nil => rfl
  | cons template rest ih =>
    rw [List.flatMap_cons, ih, ← hittingUnder]
    by_cases h : d.hittingUnder b template = []
    · rw [List.filter_cons_of_neg (by simpa using h), h, List.nil_append]
    · rw [List.filter_cons_of_pos (by simpa using h), List.flatMap_cons]

/-- The visits that hit are those that hit by the skeleton. -/
theorem hitting_congr (h : ∀ pair, pair ∈ d.skeleton ↔ pair ∈ d'.skeleton) (b : Batch) :
    d.hitting b = d'.hitting b := by
  have hhit : d.hit = d'.hit := by
    funext v
    rw [Bool.eq_iff_iff, hit_eq_true_iff_skeleton, hit_eq_true_iff_skeleton, h]
  have hunder : d.hittingUnder b = d'.hittingUnder b := by
    funext template
    rw [hittingUnder, hittingUnder, hhit]
  -- the templates may differ, but not those under which something hits
  have hkeys : (d.paths.keys.filter fun template => d.hittingUnder b template ≠ []) =
      d'.paths.keys.filter fun template => d'.hittingUnder b template ≠ [] := by
    refine List.Pairwise.eq_of_mem_iff (r := (· < ·))
      ((ascending_iff_names.1 d.paths.ascending).filter _)
      ((ascending_iff_names.1 d'.paths.ascending).filter _) fun template => ?_
    rw [hunder, List.mem_filter, List.mem_filter, and_congr_left_iff, decide_eq_true_eq]
    intro hne
    obtain ⟨v, hv⟩ := List.exists_mem_of_ne_nil _ hne
    exact ⟨fun _ => mem_keys_of_mem_hittingUnder hv,
      fun _ => mem_keys_of_mem_hittingUnder (hunder ▸ hv)⟩
  rw [hitting_eq, hitting_eq, hkeys, hunder]

/-- Only visits that hit can fail, and then at their bodies. -/
theorem findSome?_refusal? (d : Document) (b : Batch) : (d.visits b).findSome? d.refusal? =
    (d.hitting b).findSome? fun v => v.2.2.bodyFault?.map (v.2.2.refusal v.2.1) := by
  rw [hitting]
  generalize d.visits b = vs
  induction vs with
  | nil => rfl
  | cons v vs ih =>
    rw [List.findSome?_cons, ih, refusal?]
    cases hv : d.hit v with
    | false => rw [if_neg (by simp), List.filter_cons_of_neg (by simp [hv])]
    | true => rw [if_pos rfl, List.filter_cons_of_pos hv, List.findSome?_cons]

/-- Documents of one skeleton answer a batch alike. -/
theorem merge_fst_congr (h : ∀ pair, pair ∈ d.skeleton ↔ pair ∈ d'.skeleton) (b : Batch) :
    (d.merge b).1 = (d'.merge b).1 := by
  have hhits : d.hits b = d'.hits b := by
    rw [hits, hits, ← hitting, ← hitting, hitting_congr h b]
  rw [merge_eq, merge_eq, findSome?_refusal?, findSome?_refusal?, hitting_congr h b, reported,
    reported, hhits]
  split <;> rfl

/-! ### Merges keep the skeleton -/

theorem skeleton_merged (d : Document) (b : Batch) : (d.merged b).skeleton = d.skeleton := by
  simp only [skeleton, merged, pathsAfter, SortedMap.entries_mapWithKey, List.flatMap_map,
    SortedMap.keys_mapWithKey]

theorem skeleton_merge (d : Document) (b : Batch) : (d.merge b).2.skeleton = d.skeleton := by
  rw [merge_eq]
  cases (d.visits b).findSome? d.refusal? with
  | some f => rfl
  | none => exact skeleton_merged d b

/-- What has been merged before does not matter to what comes of a batch. -/
theorem merge_fst_merge (d : Document) (b b' : Batch) :
    ((d.merge b).2.merge b').1 = (d.merge b').1 :=
  merge_fst_congr (fun pair => by rw [skeleton_merge]) b'

theorem merge_fst_mergeAll (b : Batch) : ∀ (bs : List Batch) (d : Document),
    ((d.mergeAll bs).2.merge b).1 = (d.merge b).1
  | [], _ => rfl
  | b' :: bs, d => (merge_fst_mergeAll b bs (d.merge b').2).trans (merge_fst_merge d b' b)

end Document

end SwaggerPress
