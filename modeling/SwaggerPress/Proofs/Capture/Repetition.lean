import SwaggerPress.Pipeline
import SwaggerPress.Proofs.Capture.Listing

/-!
    When a path lists a method and status twice. Recording a capture leaves one of its occasion and
    touches no other (`times_record`), so a batch that is only recorded into, or loaded, lists every
    occasion once at most. A text that is decoded as it stands is taken at its word (`times_parse`):
    what it repeats stays repeated until the occasion is recorded, or the batch is replaced
    (`listsOnce_after`).

        decode         p ↦ [get 200 x, put 201 y, get 200 z]     get 200 twice
        record put 201 p ↦ [get 200 x, get 200 z, put 201 w]     get 200 twice
        record get 200 p ↦ [put 201 w, get 200 v]                each once                       -/

namespace SwaggerPress

/-- What captures of one path are told apart by. -/
def Capture.slot (c : Capture) : String × UInt16 := (c.method, c.status)

theorem Capture.sameSlot_eq (c d : Capture) : c.sameSlot d = decide (c.slot = d.slot) := by
  simp [sameSlot, slot]

namespace Batch

/-- How often the path of an occasion lists its method and status. -/
def times (b : Batch) (o : Occasion) : Nat :=
  (((b.byPath.get? o.1).getD []).map Capture.slot).count o.2

/-- No path lists a method and status twice. -/
def ListsOnce (b : Batch) : Prop :=
  ∀ path captures, b.byPath.get? path = some captures → (captures.map Capture.slot).Nodup

theorem listsOnce_iff {b : Batch} : b.ListsOnce ↔ ∀ o, ¬ 2 ≤ b.times o := by
  constructor
  · rintro h ⟨path, slot⟩ htwice
    rw [times] at htwice
    cases hpath : b.byPath.get? path with
    | none => simp [hpath] at htwice
    | some captures =>
      rw [hpath] at htwice
      have honce := List.nodup_iff_count_le_one.1 (h path captures hpath) slot
      exact absurd (Nat.le_trans htwice honce) (by decide)
  · intro h path captures hpath
    refine List.nodup_iff_count_le_one.2 fun slot => ?_
    have honce := h (path, slot)
    rw [times, hpath] at honce
    exact Nat.le_of_not_lt honce

/-! ### Recording and decoding -/

theorem count_slot_filter (c : Capture) (slot : String × UInt16) (captures : List Capture) :
    ((captures.filter fun d => !d.sameSlot c).map Capture.slot).count slot =
      if slot = c.slot then 0 else (captures.map Capture.slot).count slot := by
  have hother : (fun d => !d.sameSlot c) = (fun s => decide (s ≠ c.slot)) ∘ Capture.slot := by
    funext d
    rw [Capture.sameSlot_eq, Function.comp_apply, decide_not]
  rw [hother, ← List.filter_map]
  split
  next h => exact List.count_eq_zero.2 fun hmem => by simp [h] at hmem
  next h => exact List.count_filter (by simpa using h)

/-- Recording leaves one capture of its occasion, and those of any other as they were. -/
theorem times_record (b : Batch) (e : String × Capture) (o : Occasion) :
    (b.record e.1 e.2).times o = if o = occasion e then 1 else b.times o := by
  obtain ⟨path, slot⟩ := o
  have hoccasion : (path, slot) = occasion e ↔ path = e.1 ∧ slot = e.2.slot := by
    rw [Prod.mk.injEq]; rfl
  simp only [times, record, SortedMap.get?_insert, hoccasion]
  by_cases hpath : path = e.1
  · subst hpath
    rw [if_pos rfl, Option.getD_some, List.map_append, List.count_append, count_slot_filter,
      List.map_singleton, List.count_singleton]
    by_cases hslot : slot = e.2.slot
    · simp [hslot]
    · simp [hslot, Ne.symm hslot]
  · rw [if_neg hpath, if_neg fun h => hpath h.1]

theorem times_recordAll_le_one (calls : List (String × Capture)) (o : Occasion) :
    (empty.recordAll calls).times o ≤ 1 := by
  induction calls using List.reverseRecOn with
  | nil => exact Nat.zero_le 1
  | append_singleton calls e ih =>
    rw [recordAll, List.foldl_append, List.foldl_cons, List.foldl_nil, times_record]
    split
    · exact Nat.le_refl 1
    · exact ih

/-- A decoded batch lists what the text lists, the last list of each path as it stands. -/
theorem times_parse {text : String} {b : Batch} (h : parse text = .ok b) :
    ∃ listed, listing text = .ok listed ∧
      ∀ o : Occasion, b.times o = ((lastList o.1 listed).map Capture.slot).count o.2 := by
  rw [parse_eq_map_listing] at h
  obtain ⟨listed, hlisted, rfl⟩ := map_eq_ok_iff.1 h
  refine ⟨listed, hlisted, fun o => ?_⟩
  rw [times, SortedMap.get?_ofList, lastList]

/-! ### Any changes one after another -/

/-- A way to make a batch or to change the one at hand. -/
inductive Change where
  | new
  | record (path : String) (c : Capture)
  | load (files : FileTree) (path : String)
  | decode (text : String)

/-- The batch after a change; if a text cannot be read, the one there was. -/
def change (b : Batch) : Change → Batch
  | .new => empty
  | .record path c => b.record path c
  | .load files path => (ofFile files path).toOption.getD b
  | .decode text => (parse text).toOption.getD b

/-- The batch after changes, the first of them made on the empty batch. -/
def after (changes : List Change) : Batch := changes.foldl change empty

/-- A text is decoded that lists the occasion twice. -/
def Change.Doubles (o : Occasion) : Change → Prop
  | .decode text => ∃ listed, listing text = .ok listed ∧
      2 ≤ ((lastList o.1 listed).map Capture.slot).count o.2
  | _ => False

/-- The captures of the occasion stay what they are: another one is recorded, or the batch is to be
replaced by a text that cannot be read. -/
def Change.Spares (o : Occasion) : Change → Prop
  | .new => False
  | .record path c => occasion (path, c) ≠ o
  | .load files path => ∃ f, ofFile files path = .error f
  | .decode text => ∃ fault, parse text = .error fault

/-- The occasion was doubled, and nothing has been done about it since. -/
def LeftDoubled (changes : List Change) (o : Occasion) : Prop :=
  ∃ before c later, changes = before ++ c :: later ∧ c.Doubles o ∧ ∀ c' ∈ later, c'.Spares o

theorem times_load_le_one {files : FileTree} {path : String} {b : Batch}
    (h : ofFile files path = .ok b) (o : Occasion) : b.times o ≤ 1 := by
  obtain ⟨text, -, h⟩ := bind_eq_ok_iff.1 h
  rw [mapError_eq_ok_iff, load_eq_map_listing] at h
  obtain ⟨listed, -, rfl⟩ := map_eq_ok_iff.1 h
  exact times_recordAll_le_one _ o

/-- After a change an occasion is doubled if the change doubles it, or leaves it so. -/
theorem doubled_step (b : Batch) (c : Change) (o : Occasion) :
    2 ≤ (b.change c).times o ↔ c.Doubles o ∨ c.Spares o ∧ 2 ≤ b.times o := by
  cases c with
  | new =>
    have hnone : empty.times o = 0 := rfl
    simp [change, Change.Doubles, Change.Spares, hnone]
  | record path c =>
    have htimes := times_record b (path, c) o
    simp only [change, Change.Doubles, Change.Spares, false_or, htimes]
    by_cases ho : o = occasion (path, c)
    · simp [ho]
    · simp [ho, Ne.symm ho]
  | load files path =>
    simp only [change, Change.Doubles, Change.Spares, false_or]
    cases hload : ofFile files path with
    | error f => simp [Except.toOption]
    | ok b' =>
      have honce := times_load_le_one hload o
      simp only [Except.toOption, Option.getD_some, reduceCtorEq, exists_false, false_and,
        iff_false]
      omega
  | decode text =>
    simp only [change, Change.Doubles, Change.Spares]
    cases hparse : parse text with
    | error fault =>
      have hlisting : ∀ listed, listing text ≠ .ok listed := by
        intro listed hlisted
        rw [parse_eq_map_listing, hlisted] at hparse
        cases hparse
      simp [Except.toOption, hlisting]
    | ok b' =>
      obtain ⟨listed, hlisted, htimes⟩ := times_parse hparse
      simp [Except.toOption, hlisted, htimes]

theorem leftDoubled_concat (changes : List Change) (c : Change) (o : Occasion) :
    LeftDoubled (changes ++ [c]) o ↔ c.Doubles o ∨ c.Spares o ∧ LeftDoubled changes o := by
  constructor
  · rintro ⟨before, d, later, heq, hd, hlater⟩
    rcases List.eq_nil_or_concat later with rfl | ⟨later, c', rfl⟩
    · obtain ⟨-, h⟩ := List.append_inj' heq rfl
      cases h
      exact .inl hd
    · rw [List.concat_eq_append, ← List.cons_append, ← List.append_assoc] at heq
      obtain ⟨rfl, h⟩ := List.append_inj' heq rfl
      cases h
      rw [List.concat_eq_append] at hlater
      exact .inr ⟨hlater c (by simp), before, d, later, rfl, hd,
        fun c' hc' => hlater c' (List.mem_append_left _ hc')⟩
  · rintro (hc | ⟨hc, before, d, later, rfl, hd, hlater⟩)
    · exact ⟨changes, c, [], rfl, hc, fun c' hc' => absurd hc' List.not_mem_nil⟩
    · refine ⟨before, d, later ++ [c], by simp, hd, fun c' hc' => ?_⟩
      rcases List.mem_append.1 hc' with hc' | hc'
      · exact hlater c' hc'
      · exact List.mem_singleton.1 hc' ▸ hc

theorem doubled_after (changes : List Change) (o : Occasion) :
    2 ≤ (after changes).times o ↔ LeftDoubled changes o := by
  -- both sides are read off the last change, as `doubled_step` and `leftDoubled_concat` say
  induction changes using List.reverseRecOn with
  | nil =>
    have hnone : (after []).times o = 0 := rfl
    simp [hnone, LeftDoubled]
  | append_singleton changes c ih =>
    rw [leftDoubled_concat, ← ih, ← doubled_step]
    simp [after]

theorem LeftDoubled.decodes {changes : List Change} {o : Occasion} (h : LeftDoubled changes o) :
    ∃ text, .decode text ∈ changes := by
  obtain ⟨before, c, later, rfl, hc, -⟩ := h
  cases c with
  | decode text => exact ⟨text, by simp⟩
  | _ => exact hc.elim

/-- However a batch has come about, no path lists a method and status twice, unless a text was
decoded that does and nothing has been done about it since. So recording and loading alone never
lead there. -/
theorem listsOnce_after (changes : List Change) :
    ((after changes).ListsOnce ↔ ¬ ∃ o, LeftDoubled changes o) ∧
    ((∀ text, .decode text ∉ changes) → (after changes).ListsOnce) := by
  have hiff : (after changes).ListsOnce ↔ ¬ ∃ o, LeftDoubled changes o := by
    simp only [listsOnce_iff, doubled_after, not_exists]
  refine ⟨hiff, fun hnone => hiff.2 ?_⟩
  rintro ⟨o, ho⟩
  obtain ⟨text, htext⟩ := ho.decodes
  exact hnone text htext

/-- Recordings of one occasion, with another in between. -/
def pings : List Change := [
  .record "/ping/" { method := "get", status := 200 },
  .record "/ping/" { method := "get", status := 404 },
  .record "/ping/" { method := "get", status := 200, response := "pong" }]

theorem listsOnce_after_pings : (∀ text, .decode text ∉ pings) ∧ (after pings).size = 2 ∧
    (after pings).ListsOnce := by
  have hnone : ∀ text, .decode text ∉ pings := by simp [pings]
  exact ⟨hnone, by decide +kernel, (listsOnce_after pings).2 hnone⟩

/-! ### A decoded repetition -/

/-- One exchange, listed twice. -/
def pingTwice : String := "\x7b\"/ping/\":[\x7b\"method\":\"get\",\"status_code\":200\x7d," ++
  "\x7b\"method\":\"get\",\"status_code\":200\x7d]\x7d"

/-- Not every batch lists a method and status once: a text may be decoded that does not. -/
theorem not_listsOnce_after_pingTwice : ¬ (after [.decode pingTwice]).ListsOnce := by
  intro h
  have honce := listsOnce_iff.1 h ("/ping/", "get", 200)
  exact honce (by decide +kernel)

end Batch

end SwaggerPress
