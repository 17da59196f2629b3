import Mathlib.Algebra.BigOperators.Group.List.Basic
import Mathlib.Algebra.GroupWithZero.Nat
import Mathlib.Data.List.ProdSigma
import SwaggerPress.Proofs.Merge.Refusal
import SwaggerPress.Proofs.Merge.Sequence

/-!
    What a report counts. A merge visits every pair of a template and a capture once. The hits are
    counted template by template, the captures that miss one by one and by their occasion, so that a
    batch may repeat an exchange; but captures of one occasion hit the same templates
    (`hit_congr`), and a capture misses exactly if its column has no hit (`any_sameOccasion_iff`):

                e₁   e₂   e₂   e₃
        t₁      ×    ×    ×
        t₂           ×    ×            5 applied
                               ↑       1 unmatched

    Counted by columns, a capture makes one of the total for each template that it hits, and one if
    it hits none (`total_reported`); so the total is at least the size of the batch, and no more
    exactly if no column has two hits (`merge_counts`). -/

namespace SwaggerPress

/-! ### Counting by rows and by columns -/

theorem countP_eq_sum {α : Type*} (p : α → Bool) (xs : List α) :
    xs.countP p = (xs.map fun x => if p x then 1 else 0).sum := by
  induction xs with
  | nil => rfl
  | cons x xs ih => rw [List.countP_cons, ih, List.map_cons, List.sum_cons, Nat.add_comm]

/-- Pairs that pass a test are counted row by row or column by column. -/
theorem countP_product {α β : Type*} (p : α × β → Bool) (xs : List α) (ys : List β) :
    (xs ×ˢ ys).countP p = (ys.map fun y => xs.countP fun x => p (x, y)).sum := by
  induction xs with
  | nil => simp
  | cons x xs ih =>
    rw [List.product_cons, List.countP_append, List.countP_map, countP_eq_sum, ih,
      ← List.sum_map_add]
    simp only [List.countP_cons, Function.comp_apply, Nat.add_comm]

/-- Numbers that are all positive add up to their count exactly if all of them are 1. -/
theorem length_eq_sum_iff : ∀ {ns : List ℕ}, (∀ n ∈ ns, 1 ≤ n) →
    (ns.length = ns.sum ↔ ∀ n ∈ ns, n = 1)
  | [], _ => by simp
  | n :: ns, h => by
    rw [List.forall_mem_cons] at h
    have hle := List.length_le_sum_of_one_le ns h.2
    rw [List.length_cons, List.sum_cons, List.forall_mem_cons, ← length_eq_sum_iff h.2]
    omega

/-- Among distinct elements at most one passes a test if any two that pass are the same. -/
theorem countP_le_one_iff {α : Type*} {p : α → Bool} {xs : List α} (h : xs.Nodup) :
    xs.countP p ≤ 1 ↔ ∀ x ∈ xs, ∀ y ∈ xs, p x → p y → x = y := by
  rw [List.countP_eq_length_filter]
  have hnodup := h.filter p
  have hmem : ∀ x, x ∈ xs.filter p ↔ x ∈ xs ∧ p x := fun x => List.mem_filter
  generalize xs.filter p = zs at hnodup hmem
  constructor
  · intro hle x hx y hy hpx hpy
    have hxz := (hmem x).2 ⟨hx, hpx⟩
    have hyz := (hmem y).2 ⟨hy, hpy⟩
    rcases zs with _ | ⟨z, _ | ⟨z', zs⟩⟩
    · cases hxz
    · rw [List.mem_singleton.1 hxz, List.mem_singleton.1 hyz]
    · simp at hle
  · intro hsame
    rcases zs with _ | ⟨z, _ | ⟨z', zs⟩⟩
    · simp
    · simp
    · obtain ⟨hz, hpz⟩ := (hmem z).1 (by simp)
      obtain ⟨hz', hpz'⟩ := (hmem z').1 (by simp)
      have heq := hsame z hz z' hz' hpz hpz'
      simp [heq] at hnodup

namespace Document

variable {d d' : Document} {b : Batch} {e f : String × Capture}

/-- Captures of one occasion hit the same operations. -/
theorem hit_congr (h : sameOccasion e f) (template : String) :
    d.hit (template, e) = d.hit (template, f) := by
  simp only [sameOccasion, Capture.sameSlot, Bool.and_eq_true, decide_eq_true_eq] at h
  obtain ⟨hpath, hmethod, -⟩ := h
  rw [hit, hit, hpath, hmethod]

/-- The number of templates under which a capture hits. -/
def templatesHit (d : Document) (e : String × Capture) : ℕ :=
  d.paths.keys.countP fun template => d.hit (template, e)

theorem length_hits (d : Document) (b : Batch) :
    (d.hits b).length = (d.paths.keys ×ˢ b.toList).countP d.hit := by
  rw [hits, List.length_map, List.countP_eq_length_filter]
  rfl

/-- A capture of a batch has the occasion of a hit exactly if it hits somewhere itself. -/
theorem any_sameOccasion_iff (he : e ∈ b.toList) :
    (d.hits b).any (sameOccasion e) = true ↔ 0 < d.templatesHit e := by
  rw [List.any_eq_true, templatesHit, List.countP_pos_iff]
  constructor
  · rintro ⟨f, hf, hsame⟩
    obtain ⟨⟨template, f⟩, hv, rfl⟩ := List.mem_map.1 hf
    obtain ⟨hvisit, hhit⟩ := List.mem_filter.1 hv
    exact ⟨template, (mem_visits.1 hvisit).1, (hit_congr hsame template).trans hhit⟩
  · rintro ⟨template, hkey, hhit⟩
    refine ⟨e, List.mem_map.2 ⟨(template, e), ?_, rfl⟩, by simp [sameOccasion, Capture.sameSlot]⟩
    exact List.mem_filter.2 ⟨mem_visits.2 ⟨hkey, he⟩, hhit⟩

theorem unmatched_reported (d : Document) (b : Batch) :
    (d.reported b).unmatched = b.toList.countP fun e => d.templatesHit e = 0 := by
  rw [reported, List.countP_eq_length_filter]
  refine congrArg List.length (List.filter_congr fun e he => ?_)
  rw [Bool.eq_iff_iff, Bool.not_eq_true', Bool.eq_false_iff, ne_eq, any_sameOccasion_iff he,
    Nat.pos_iff_ne_zero, not_not, decide_eq_true_eq]

/-- Every capture adds one to the total for each template that it hits, and one if it hits none. -/
theorem total_reported (d : Document) (b : Batch) :
    (d.reported b).applied + (d.reported b).unmatched =
      (b.toList.map fun e => max 1 (d.templatesHit e)).sum := by
  have happlied : (d.reported b).applied = (b.toList.map d.templatesHit).sum :=
    (length_hits d b).trans (countP_product d.hit d.paths.keys b.toList)
  rw [happlied, unmatched_reported, countP_eq_sum, ← List.sum_map_add]
  refine congrArg List.sum (List.map_congr_left fun e _ => ?_)
  by_cases hmiss : d.templatesHit e = 0
  · simp [hmiss]
  · simp [hmiss]; omega

/-- A merge that succeeds reports how many pairs of a template and a capture are hits, and how many
captures hit under no template. So each capture is counted, and none more than once exactly if none
hits under two templates. -/
theorem merge_counts {r : MergeReport} (h : d.merge b = (.ok r, d')) :
    r.applied = (d.paths.keys ×ˢ b.toList).countP d.hit ∧
    r.unmatched = b.toList.countP (fun e => ∀ t ∈ d.paths.keys, ¬ d.hit (t, e)) ∧
    b.size ≤ r.applied + r.unmatched ∧
    (b.size = r.applied + r.unmatched ↔ ∀ e ∈ b.toList, ∀ t ∈ d.paths.keys, ∀ t' ∈ d.paths.keys,
      d.hit (t, e) → d.hit (t', e) → t = t') := by
  rw [merge_of_isOk (by rw [h]; rfl), Prod.mk.injEq, Except.ok.injEq] at h
  obtain ⟨rfl, -⟩ := h
  have hone : ∀ n ∈ b.toList.map fun e => max 1 (d.templatesHit e), 1 ≤ n := by
    intro n hn
    obtain ⟨e, -, rfl⟩ := List.mem_map.1 hn
    exact Nat.le_max_left 1 _
  have hlength : b.size = (b.toList.map fun e => max 1 (d.templatesHit e)).length :=
    (List.length_map _).symm
  refine ⟨length_hits d b, ?_, ?_, ?_⟩
  · rw [unmatched_reported]
    refine congrArg (List.countP · b.toList) (funext fun e => ?_)
    rw [Bool.eq_iff_iff, decide_eq_true_eq, decide_eq_true_eq]
    exact List.countP_eq_zero
  · rw [total_reported, hlength]
    exact List.length_le_sum_of_one_le _ hone
  · rw [total_reported, hlength, length_eq_sum_iff hone, List.forall_mem_map]
    refine forall₂_congr fun e _ => ?_
    rw [← countP_le_one_iff d.paths.nodup_keys, templatesHit]
    omega

/-! ### A repeated exchange under two templates -/

/-- Two templates that accept the same paths. -/
def doorsAndGates : Document where
  paths := .ofList [
    ("/d/\x7bid\x7d/", .ofList [("get", {}), ("put", {})]), ("/d/\x7bpk\x7d/", .ofList [("get", {})])]

/-- One exchange listed twice, one that only a single template has the method of, and one on a path
that no template accepts. -/
def doorBatch : Batch := ⟨.ofList [
  ("/d/7/", [{ method := "get", status := 200 }, { method := "get", status := 200 },
    { method := "put", status := 200 }]),
  ("/d/x/", [{ method := "get", status := 200 }])]⟩

theorem merge_counts_doors : ∃ r d', doorsAndGates.merge doorBatch = (.ok r, d') ∧
    r.applied = 5 ∧ r.unmatched = 1 ∧ doorBatch.size = 4 ∧
    ¬ ∀ e ∈ doorBatch.toList, ∀ t ∈ doorsAndGates.paths.keys, ∀ t' ∈ doorsAndGates.paths.keys,
      doorsAndGates.hit (t, e) → doorsAndGates.hit (t', e) → t = t' := by
  have hok : (doorsAndGates.merge doorBatch).1.isOk := by decide +kernel
  obtain ⟨happlied, hunmatched, -, hiff⟩ := merge_counts (merge_of_isOk hok)
  have happlied' : (doorsAndGates.reported doorBatch).applied = 5 :=
    happlied.trans (by decide +kernel)
  have hunmatched' : (doorsAndGates.reported doorBatch).unmatched = 1 :=
    hunmatched.trans (by decide +kernel)
  have hsize : doorBatch.size = 4 := by decide +kernel
  refine ⟨_, _, merge_of_isOk hok, happlied', hunmatched', hsize, fun hnone => ?_⟩
  have htotal := hiff.2 hnone
  omega

end Document

end SwaggerPress
