import Mathlib.Data.List.Dedup
import Mathlib.Data.List.Induction
import SwaggerPress.Capture.Basic
import SwaggerPress.Proofs.Lookup

/-!
    What a batch holds after recordings. Two recordings are of one *occasion* if they share path,
    method and status, and the later takes the place of the earlier at the end of its path. So under
    every path a batch holds the *latest* recordings, those that no other of their occasion follows,
    in their order (`Holds`); one recording keeps that (`holds_step`), and so do all of them.

        recorded    p a₁ · q b₁ · p c₁ · p a₂ · q b₂          (one letter, one method and status)
        latest                    p c₁ · p a₂ · q b₂
        batch       p ↦ [c₁, a₂]    q ↦ [b₂]

    `Keeps` says what that means for the list that a batch is read as. -/

namespace SwaggerPress

/-- Path, method and status. -/
abbrev Occasion := String × String × UInt16

/-- What a recording has in common with those it replaces. -/
def occasion (e : String × Capture) : Occasion := (e.1, e.2.method, e.2.status)

theorem occasion_eq_iff {e f : String × Capture} :
    occasion e = occasion f ↔ e.1 = f.1 ∧ e.2.sameSlot f.2 = true := by
  simp [occasion, Capture.sameSlot]

/-- The recordings of an occasion are on its path. -/
theorem filter_occasion (o : Occasion) (es : List (String × Capture)) :
    es.filter (fun e => occasion e = o) =
      (es.filter fun e => e.1 = o.1).filter fun e => occasion e = o := by
  rw [List.filter_filter]
  refine List.filter_congr fun e _ => ?_
  by_cases he : occasion e = o
  · subst he; simp [occasion]
  · simp [he]

/-! ### The latest recordings -/

/-- The recordings that no later one of their occasion follows. -/
def latest : List (String × Capture) → List (String × Capture)
  | [] => []
  | e :: rest => if occasion e ∈ rest.map occasion then latest rest else e :: latest rest

theorem latest_sublist : ∀ calls : List (String × Capture), (latest calls).Sublist calls
  | [] => List.Sublist.slnil
  | e :: rest => by
    rw [latest]
    split
    · exact (latest_sublist rest).cons e
    · exact (latest_sublist rest).cons_cons e

/-- Each occasion that occurs has one latest recording. -/
theorem map_occasion_latest : ∀ calls : List (String × Capture),
    (latest calls).map occasion = (calls.map occasion).dedup
  | [] => rfl
  | e :: rest => by
    have ih := map_occasion_latest rest
    rw [latest, List.map_cons]
    by_cases h : occasion e ∈ rest.map occasion
    · rw [if_pos h, List.dedup_cons_of_mem h, ih]
    · rw [if_neg h, List.dedup_cons_of_notMem h, List.map_cons, ih]

/-- Where no occasion occurs twice every recording is the latest. -/
theorem latest_of_nodup {calls : List (String × Capture)} (h : (calls.map occasion).Nodup) :
    latest calls = calls := by
  refine (latest_sublist calls).eq_of_length ?_
  rw [← List.length_map (f := occasion), map_occasion_latest, h.dedup, List.length_map]

theorem latest_concat (e : String × Capture) : ∀ calls : List (String × Capture),
    latest (calls ++ [e]) = (latest calls).filter (fun f => occasion f ≠ occasion e) ++ [e]
  | [] => rfl
  | f :: rest => by
    have ih := latest_concat e rest
    have hmem : occasion f ∈ (rest ++ [e]).map occasion ↔
        occasion f ∈ rest.map occasion ∨ occasion f = occasion e := by simp
    rw [List.cons_append, latest, latest, ih]
    -- `f` is followed in `rest` already, or by `e` only, or stays
    by_cases hrest : occasion f ∈ rest.map occasion
    · rw [if_pos (hmem.2 (.inl hrest)), if_pos hrest]
    · rw [if_neg hrest]
      by_cases he : occasion f = occasion e
      · rw [if_pos (hmem.2 (.inr he)), List.filter_cons_of_neg (by simpa using he)]
      · have hlater : ¬ occasion f ∈ (rest ++ [e]).map occasion := by
          rw [hmem]
          rintro (h | h)
          exacts [hrest h, he h]
        rw [if_neg hlater, List.filter_cons_of_pos (by simpa using he), List.cons_append]

/-- The latest recording of an occasion is the last one. -/
theorem filter_latest (o : Occasion) (calls : List (String × Capture)) :
    (latest calls).filter (fun e => occasion e = o) =
      (calls.filter fun e => occasion e = o).getLast?.toList := by
  -- a recording is added at the end, where it takes the place of the one kept so far
  induction calls using List.reverseRecOn with
  | nil => rfl
  | append_singleton calls e ih =>
    rw [latest_concat, List.filter_append, List.filter_append, List.filter_filter]
    by_cases h : occasion e = o
    · subst h
      have hnone : (latest calls).filter (fun f => (occasion f = occasion e) &&
          (occasion f ≠ occasion e)) = [] := by
        rw [List.filter_eq_nil_iff]
        intro f _
        simp
      rw [hnone, List.filter_cons_of_pos (by simp)]
      simp
    · have hold : (latest calls).filter (fun f => (occasion f = o) && (occasion f ≠ occasion e))
          = (latest calls).filter fun f => occasion f = o := by
        refine List.filter_congr fun f _ => ?_
        by_cases hf : occasion f = o
        · simp [hf, Ne.symm h]
        · simp [hf]
      rw [hold, ih, List.filter_cons_of_neg (by simpa using h)]
      simp

/-! ### One recording and all of them -/

/-- The captures of recordings on one path. -/
def capturesUnder (path : String) (es : List (String × Capture)) : List Capture :=
  (es.filter fun e => e.1 = path).map (·.2)

/-- The batch holds the latest recordings under their paths, and no other path. -/
def Batch.Holds (b : Batch) (calls : List (String × Capture)) : Prop :=
  ∀ path, b.byPath.get? path =
    if path ∈ calls.map (·.1) then some (capturesUnder path (latest calls)) else none

theorem capturesUnder_latest_of_not_mem {path : String} {calls : List (String × Capture)}
    (h : path ∉ calls.map (·.1)) : capturesUnder path (latest calls) = [] := by
  rw [capturesUnder, List.map_eq_nil_iff, List.filter_eq_nil_iff]
  intro e he
  have hpath : e.1 ≠ path := by
    rintro rfl
    exact h (List.mem_map.2 ⟨e, (latest_sublist calls).subset he, rfl⟩)
  simpa using hpath

/-- Recording another takes the earlier one of its occasion away and comes last. -/
theorem capturesUnder_latest_concat (path : String) (e : String × Capture)
    (calls : List (String × Capture)) : capturesUnder path (latest (calls ++ [e])) =
      if path = e.1 then
        (capturesUnder path (latest calls)).filter (fun d => !d.sameSlot e.2) ++ [e.2]
      else capturesUnder path (latest calls) := by
  have hkept : ∀ f : String × Capture, (decide (f.1 = path) && decide (occasion f ≠ occasion e)) =
      (!(decide (path = e.1) && f.2.sameSlot e.2) && decide (f.1 = path)) := by
    intro f
    by_cases hf : f.1 = path
    · simp [occasion_eq_iff, hf]
    · simp [hf]
  rw [capturesUnder, latest_concat, List.filter_append, List.map_append, List.filter_filter]
  simp only [hkept]
  by_cases h : path = e.1
  · subst h
    simp [capturesUnder, List.filter_map, List.filter_filter, Function.comp_def]
  · simp [capturesUnder, h, Ne.symm h]

namespace Batch

theorem holds_empty : empty.Holds [] := fun _ => rfl

theorem Holds.captures {b : Batch} {calls : List (String × Capture)} (h : b.Holds calls)
    (path : String) : (b.byPath.get? path).getD [] = capturesUnder path (latest calls) := by
  rw [h path]
  split
  next => rfl
  next hnew => exact (capturesUnder_latest_of_not_mem hnew).symm

theorem holds_step {b : Batch} {calls : List (String × Capture)} (h : b.Holds calls)
    (e : String × Capture) : (b.record e.1 e.2).Holds (calls ++ [e]) := by
  intro path
  rw [record, SortedMap.get?_insert, capturesUnder_latest_concat, h.captures]
  by_cases hpath : path = e.1
  · subst hpath
    rw [if_pos rfl, if_pos rfl, if_pos (by simp)]
  · have hold : path ∈ (calls ++ [e]).map (·.1) ↔ path ∈ calls.map (·.1) := by simp [hpath]
    rw [if_neg hpath, if_neg hpath, h path]
    exact if_congr hold.symm rfl rfl

theorem holds_recordAll (calls : List (String × Capture)) : (empty.recordAll calls).Holds calls := by
  induction calls using List.reverseRecOn with
  | nil => exact holds_empty
  | append_singleton calls e ih =>
    rw [recordAll, List.foldl_append]
    exact holds_step ih e

end Batch

/-! ### The list of a batch -/

/-- Of a list over distinct paths, the captures under one path are those that are listed there. -/
theorem filter_path_flatMap (path : String) : ∀ {entries : List (String × List Capture)},
    (entries.map (·.1)).Nodup →
    (entries.flatMap fun e => e.2.map fun c => (e.1, c)).filter (fun e => e.1 = path) =
      ((firstUnder? path entries).getD []).map fun c => (path, c)
  | [], _ => rfl
  | (n, cs) :: rest, h => by
    rw [List.map_cons, List.nodup_cons] at h
    have ih := filter_path_flatMap path h.2
    rw [List.flatMap_cons, List.filter_append, ih, firstUnder?, List.filter_map]
    by_cases hn : n = path
    · subst hn
      rw [if_pos rfl, firstUnder?_eq_none_iff.2 h.1]
      simp [Function.comp_def]
    · rw [if_neg hn]
      simp [Function.comp_def, hn]

namespace Batch

variable {b : Batch} {calls : List (String × Capture)}

theorem filter_path_toList (b : Batch) (path : String) :
    b.toList.filter (fun e => e.1 = path) =
      ((b.byPath.get? path).getD []).map fun c => (path, c) :=
  filter_path_flatMap path b.byPath.nodup_keys

/-- A batch is read path by path. -/
theorem ascending_toList (b : Batch) : b.toList.Pairwise fun e f => e.1 ≤ f.1 := by
  refine List.pairwise_flatMap.2 ⟨fun e _ => ?_, ?_⟩
  · exact List.pairwise_map.2 (List.pairwise_of_forall fun _ _ => String.le_refl _)
  · refine b.byPath.ascending.imp fun {e f} hlt x hx y hy => ?_
    obtain ⟨c, _, rfl⟩ := List.mem_map.1 hx
    obtain ⟨d, _, rfl⟩ := List.mem_map.1 hy
    exact Std.le_of_lt hlt

/-- Under each path the latest recordings are read in their order. -/
theorem Holds.filter_path (h : b.Holds calls) (path : String) :
    b.toList.filter (fun e => e.1 = path) = (latest calls).filter fun e => e.1 = path := by
  have hnames : ∀ e ∈ (latest calls).filter (fun e => e.1 = path), (path, e.2) = e := by
    intro e he
    obtain ⟨-, hpath⟩ := List.mem_filter.1 he
    rw [← of_decide_eq_true hpath]
  rw [filter_path_toList, h.captures, capturesUnder, List.map_map]
  exact (List.map_congr_left hnames).trans (List.map_id _)

/-- What is read are the latest recordings, one path after another. -/
theorem Holds.perm (h : b.Holds calls) : b.toList.Perm (latest calls) := by
  rw [List.perm_iff_count]
  intro e
  have hcount : ∀ es : List (String × Capture),
      es.count e = (es.filter fun f => f.1 = e.1).count e :=
    fun es => (List.count_filter (by simp)).symm
  rw [hcount, h.filter_path, ← hcount]

/-- The list of a batch is what has been recorded, the last of each occasion. -/
structure Keeps (calls : List (String × Capture)) (b : Batch) : Prop where
  /-- Of each occasion that occurs the last recording is there, once, and of others nothing. -/
  held (o : Occasion) : b.toList.filter (fun e => occasion e = o) =
    (calls.filter fun e => occasion e = o).getLast?.toList
  size : b.size = (calls.map occasion).dedup.length
  ascending : b.toList.Pairwise fun e f => e.1 ≤ f.1
  order (path : String) : b.toList.filter (fun e => e.1 = path) =
    (latest calls).filter fun e => e.1 = path
  paths (path : String) : path ∈ b.byPath.keys ↔ path ∈ calls.map (·.1)

theorem Holds.keeps (h : b.Holds calls) : Keeps calls b where
  held o := by rw [← filter_latest, filter_occasion, h.filter_path, ← filter_occasion]
  size := by
    rw [size, h.perm.length_eq, ← map_occasion_latest, List.length_map]
  ascending := b.ascending_toList
  order := h.filter_path
  paths path := by
    rw [SortedMap.mem_keys_iff, h path]
    split <;> simp [*]

end Batch

end SwaggerPress
