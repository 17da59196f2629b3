import Mathlib.Data.List.Perm.Basic
import SwaggerPress.Proofs.Capture.Recording
import SwaggerPress.Proofs.Merge.Frame

/-!
    The order of recording. Captures of different occasions, recorded in any order, make batches that
    list the same captures (`toList_perm`), each path's in the order of recording. Captures that write
    the same example are of one method and status, so they are on different paths, and these are
    listed in ascending order whatever the order of recording (`filter_slot_eq`): the last of them is
    the same. So two such batches are accepted or refused together, and what is left of the order is
    where new content types come and which of several payloads is shown (`merge_perm`).

        recorded    q get 200 z · p get 200 x · q get 201 y      200      201   payload
        listed      p [200 x]  q [200 z, 201 y]                  x, z     y     x, z, y: of y
        recorded    q get 201 y · q get 200 z · p get 200 x
        listed      p [200 x]  q [201 y, 200 z]                  x, z     y     x, y, z: of z -/

namespace SwaggerPress

theorem nodup_eraseDups (xs : List String) : xs.eraseDups.Nodup := by
  induction xs using List.reverseRecOn with
  | nil => rw [List.eraseDups_nil]; exact List.nodup_nil
  | append_singleton xs x ih =>
    rw [Operation.eraseDups_concat]
    split
    next => exact ih
    next hx =>
      refine ih.append (List.nodup_singleton x) ?_
      rw [List.disjoint_singleton, List.mem_eraseDups]
      exact hx

/-- What is new in a list is the same in any order of the list. -/
theorem eraseDups_perm {xs ys : List String} (h : xs.Perm ys) : xs.eraseDups.Perm ys.eraseDups := by
  refine (List.perm_ext_iff_of_nodup (nodup_eraseDups xs) (nodup_eraseDups ys)).2 fun x => ?_
  rw [List.mem_eraseDups, List.mem_eraseDups, h.mem_iff]

/-- A status is its text. -/
theorem Capture.statusText_inj {c c' : Capture} (h : c.statusText = c'.statusText) :
    c.status = c'.status := by
  have hrepr : c.status.toNat.repr = c'.status.toNat.repr := h
  rw [Nat.repr_eq_ofList_toDigits, Nat.repr_eq_ofList_toDigits] at hrepr
  have hdigits := congrArg String.toList hrepr
  rw [String.toList_ofList, String.toList_ofList] at hdigits
  have hvalue (n : Nat) : Nat.ofDigitChars 10 (Nat.toDigits 10 n) 0 = n :=
    Nat.ofDigitChars_toDigits (by decide) (by decide)
  refine UInt16.toNat_inj.1 ?_
  rw [← hvalue c.status.toNat, hdigits, hvalue]

/-! ### What is recorded in two orders -/

namespace Batch

/-- Captures of different occasions are all there. -/
theorem toList_perm {calls : List (String × Capture)} (h : (calls.map occasion).Nodup) :
    (empty.recordAll calls).toList.Perm calls := by
  have hperm := (holds_recordAll calls).perm
  rwa [latest_of_nodup h] at hperm

variable {b b' : Batch}

/-- Captures of one method and status are listed with their paths strictly ascending. -/
theorem ascending_filter_slot (h : (b.toList.map occasion).Nodup) (method status : String) :
    Ascending (b.toList.filter fun e => e.2.method = method ∧ e.2.statusText = status) := by
  have hne : b.toList.Pairwise fun e f => occasion e ≠ occasion f := List.pairwise_map.1 h
  refine (b.ascending_toList.and hne).filter _ |>.imp_of_mem fun {e f} he hf hef => ?_
  obtain ⟨hle, hne⟩ := hef
  obtain ⟨hmethod, hstatus⟩ := of_decide_eq_true (List.mem_filter.1 he).2
  obtain ⟨hmethod', hstatus'⟩ := of_decide_eq_true (List.mem_filter.1 hf).2
  have hslot : e.2.sameSlot f.2 = true := by
    simp [Capture.sameSlot, hmethod, hmethod', Capture.statusText_inj (hstatus.trans hstatus'.symm)]
  refine Std.lt_of_le_of_ne hle fun hpath => hne ?_
  exact occasion_eq_iff.2 ⟨hpath, hslot⟩

/-- So in whichever order they have been recorded, they are listed in one. -/
theorem filter_slot_eq (h : (b.toList.map occasion).Nodup) (hperm : b.toList.Perm b'.toList)
    (method status : String) :
    b.toList.filter (fun e => e.2.method = method ∧ e.2.statusText = status) =
      b'.toList.filter fun e => e.2.method = method ∧ e.2.statusText = status := by
  have h' : (b'.toList.map occasion).Nodup := (hperm.map occasion).nodup_iff.1 h
  refine (ascending_filter_slot h method status).eq_of_mem_iff
    (ascending_filter_slot h' method status) fun e => ?_
  exact (hperm.filter _).mem_iff

theorem capturesOf_perm (hperm : b.toList.Perm b'.toList) (template method : String) :
    (b.capturesOf template method).Perm (b'.capturesOf template method) :=
  (hperm.filter _).map _

/-- The values that an operation is shown for one example are the same, in the same order. -/
theorem filterMap_keptUnder?_capturesOf (h : (b.toList.map occasion).Nodup)
    (hperm : b.toList.Perm b'.toList) (template method status contentType : String) :
    (b.capturesOf template method).filterMap (Capture.keptUnder? status contentType) =
      (b'.capturesOf template method).filterMap (Capture.keptUnder? status contentType) := by
  have hslot : ∀ b : Batch,
      (b.capturesOf template method).filterMap (Capture.keptUnder? status contentType) =
        (b.toList.filter fun e => e.2.method = method ∧ e.2.statusText = status).filterMap fun e =>
          if PathTemplate.accepts template e.1 then e.2.keptUnder? status contentType else none := by
    intro b
    rw [capturesOf, List.filterMap_map, List.filterMap_filter, List.filterMap_filter]
    refine List.filterMap_congr fun e _ => ?_
    -- a capture of another status keeps nothing under this one
    by_cases hstatus : e.2.statusText = status
    · by_cases hmethod : e.2.method = method
      · simp [hmethod, hstatus]
      · simp [hmethod]
    · simp [Capture.keptUnder?, hstatus]
  rw [hslot, hslot, filter_slot_eq h hperm]

end Batch

/-! ### Operations and documents but for the order -/

/-- Two outcomes for one operation, which has been shown some payloads, in two orders: they have the
same responses and the same parameters outside the body; the same content types are new; and a
payload is shown in both or in neither. -/
structure Operation.SameButOrder (o : Operation) (shown : Json → Prop) (p q : Operation) : Prop where
  frame : p.frame = q.frame
  responses : p.responses = q.responses
  bodyless : p.bodyless = q.bodyless
  produces : ∃ new new', p.produces = o.produces ++ new ∧ q.produces = o.produces ++ new' ∧
    new.Perm new'
  parameters : (p.parameters = o.parameters ∧ q.parameters = o.parameters) ∨
    ∃ v w, shown v ∧ shown w ∧
      p.parameters = o.bodyless ++
        [{ name := "data", location := .body, schema := some (.obj [("example", v)]) }] ∧
      q.parameters = o.bodyless ++
        [{ name := "data", location := .body, schema := some (.obj [("example", w)]) }]

/-- A payload was sent with success to an operation. -/
def ShownTo (es : List (String × Capture)) (template method : String) (payload : Json) : Prop :=
  ∃ e ∈ es, PathTemplate.accepts template e.1 ∧ e.2.method = method ∧
    e.2.shownPayload? = some payload

/-- Two outcomes for one document, which has been shown the same captures in two orders. -/
structure Document.SameButOrder (d : Document) (es : List (String × Capture)) (p q : Document) :
    Prop where
  info : p.info = q.info
  host : p.host = q.host
  schemes : p.schemes = q.schemes
  consumes : p.consumes = q.consumes
  tags : p.tags = q.tags
  extra : p.extra = q.extra
  /-- Both have the templates and the methods of the document. -/
  methods : p.paths.map SortedMap.keys = d.paths.map SortedMap.keys ∧
    q.paths.map SortedMap.keys = d.paths.map SortedMap.keys
  operations : ∀ template method o, d.operation? template method = some o →
    ∃ p' q', p.operation? template method = some p' ∧ q.operation? template method = some q' ∧
      o.SameButOrder (ShownTo es template method) p' q'

namespace Operation

variable {o p q : Operation} {cs cs' : List Capture} {shown : Json → Prop}

/-- Captures that are shown in two orders, those of one example in the same. -/
theorem Shows.sameButOrder (hp : o.Shows cs p) (hq : o.Shows cs' q) (hperm : cs.Perm cs')
    (hkept : ∀ status contentType, cs.filterMap (Capture.keptUnder? status contentType) =
      cs'.filterMap (Capture.keptUnder? status contentType))
    (hshown : ∀ c ∈ cs, ∀ v, c.shownPayload? = some v → shown v) : o.SameButOrder shown p q where
  frame := hp.frame.trans hq.frame.symm
  responses := by
    refine responses_eq (fun status => ?_) fun status contentType => ?_
    · rw [hp.responses, hq.responses]
      simp only [hperm.mem_iff]
    · rw [hp.examples, hq.examples, hkept]
  bodyless := hp.bodyless.trans hq.bodyless.symm
  produces := ⟨_, _, hp.produces, hq.produces, eraseDups_perm ((hperm.map _).filter _)⟩
  parameters := by
    have hpayloads := hperm.filterMap Capture.shownPayload?
    have hmem : ∀ v ∈ cs.filterMap Capture.shownPayload?, shown v := by
      intro v hv
      obtain ⟨c, hc, hv⟩ := List.mem_filterMap.1 hv
      exact hshown c hc v hv
    rw [hp.parameters, hq.parameters]
    cases hlast : (cs.filterMap Capture.shownPayload?).getLast? with
    | none =>
      rw [List.getLast?_eq_none_iff] at hlast
      rw [hlast, List.nil_perm] at hpayloads
      rw [hpayloads]
      exact .inl ⟨rfl, rfl⟩
    | some v =>
      cases hlast' : (cs'.filterMap Capture.shownPayload?).getLast? with
      | none =>
        rw [List.getLast?_eq_none_iff] at hlast'
        rw [hlast', List.perm_nil] at hpayloads
        rw [hpayloads] at hlast
        cases hlast
      | some w =>
        have hw : w ∈ cs.filterMap Capture.shownPayload? :=
          hpayloads.mem_iff.2 (List.mem_of_getLast? hlast')
        exact .inr ⟨v, w, hmem v (List.mem_of_getLast? hlast), hmem w hw, rfl, rfl⟩

end Operation

/-! ### Two merges -/

namespace Document

variable {b b' : Batch}

theorem visits_perm (hperm : b.toList.Perm b'.toList) (d : Document) :
    (d.visits b).Perm (d.visits b') :=
  List.Perm.flatMap_left _ fun _ _ => hperm.map _

theorem hits_perm (hperm : b.toList.Perm b'.toList) (d : Document) : (d.hits b).Perm (d.hits b') :=
  ((visits_perm hperm d).filter _).map _

/-- A batch is refused for some capture of it, whichever comes first. -/
theorem isOk_merge_perm (hperm : b.toList.Perm b'.toList) (d : Document) :
    (d.merge b).1.isOk = (d.merge b').1.isOk := by
  have hnone : (d.visits b).findSome? d.refusal? = none ↔
      (d.visits b').findSome? d.refusal? = none := by
    simp only [List.findSome?_eq_none_iff, (visits_perm hperm d).mem_iff]
  rw [merge_eq, merge_eq]
  cases h : (d.visits b).findSome? d.refusal? with
  | none => rw [hnone.1 h]; rfl
  | some f =>
    cases h' : (d.visits b').findSome? d.refusal? with
    | none => rw [hnone.2 h'] at h; cases h
    | some f' => rfl

/-- Hits and misses are counted. -/
theorem reported_perm (hperm : b.toList.Perm b'.toList) (d : Document) :
    d.reported b = d.reported b' := by
  have hhits := hits_perm hperm d
  have hmissed : (b.toList.filter fun e => !(d.hits b).any (sameOccasion e)).Perm
      (b'.toList.filter fun e => !(d.hits b').any (sameOccasion e)) := by
    simp only [hhits.any_eq]
    exact hperm.filter _
  rw [reported, reported, hhits.length_eq, hmissed.length_eq]

theorem sameButOrder_merged (h : (b.toList.map occasion).Nodup) (hperm : b.toList.Perm b'.toList)
    {es : List (String × Capture)} (hes : b.toList.Perm es) (d : Document) :
    d.SameButOrder es (d.merged b) (d.merged b') where
  info := rfl
  host := rfl
  schemes := rfl
  consumes := rfl
  tags := rfl
  extra := rfl
  methods := ⟨map_keys_merged d b, map_keys_merged d b'⟩
  operations template method o ho := by
    refine ⟨_, _, by rw [operation?_merged, ho]; rfl, by rw [operation?_merged, ho]; rfl, ?_⟩
    refine (o.shows_withCaptures _).sameButOrder (o.shows_withCaptures _)
      (Batch.capturesOf_perm hperm template method)
      (Batch.filterMap_keptUnder?_capturesOf h hperm template method) ?_
    intro c hc v hv
    obtain ⟨e, he, rfl⟩ := List.mem_map.1 hc
    obtain ⟨hmem, hhit⟩ := List.mem_filter.1 he
    obtain ⟨hacc, hmethod⟩ := of_decide_eq_true hhit
    exact ⟨e, hes.mem_iff.1 hmem, hacc, hmethod, hv⟩

/-- Captures of different occasions may be recorded in any order: the batch is accepted or refused
alike, with the same report, and leaves the same document but for the order of new content types and
for which of several payloads is shown. -/
theorem merge_perm {es es₁ es₂ : List (String × Capture)} (hes : (es.map occasion).Nodup)
    (h₁ : es₁.Perm es) (h₂ : es₂.Perm es) (d : Document) :
    (d.merge (Batch.empty.recordAll es₁)).1.isOk = (d.merge (Batch.empty.recordAll es₂)).1.isOk ∧
    ∀ r₁ r₂ d₁ d₂, d.merge (Batch.empty.recordAll es₁) = (.ok r₁, d₁) →
      d.merge (Batch.empty.recordAll es₂) = (.ok r₂, d₂) → r₁ = r₂ ∧ d.SameButOrder es d₁ d₂ := by
  have hlist₁ : (Batch.empty.recordAll es₁).toList.Perm es :=
    (Batch.toList_perm ((h₁.map occasion).nodup_iff.2 hes)).trans h₁
  have hlist₂ : (Batch.empty.recordAll es₂).toList.Perm es :=
    (Batch.toList_perm ((h₂.map occasion).nodup_iff.2 hes)).trans h₂
  have hnodup := (hlist₁.map occasion).nodup_iff.2 hes
  generalize Batch.empty.recordAll es₁ = b₁ at hlist₁ hnodup ⊢
  generalize Batch.empty.recordAll es₂ = b₂ at hlist₂ ⊢
  have hperm : b₁.toList.Perm b₂.toList := hlist₁.trans hlist₂.symm
  refine ⟨isOk_merge_perm hperm d, fun r₁ r₂ d₁ d₂ hmerge₁ hmerge₂ => ?_⟩
  rw [merge_of_isOk (by rw [hmerge₁]; rfl), Prod.mk.injEq, Except.ok.injEq] at hmerge₁
  rw [merge_of_isOk (by rw [hmerge₂]; rfl), Prod.mk.injEq, Except.ok.injEq] at hmerge₂
  obtain ⟨rfl, rfl⟩ := hmerge₁
  obtain ⟨rfl, rfl⟩ := hmerge₂
  exact ⟨reported_perm hperm d, sameButOrder_merged hnodup hperm hlist₁ d⟩

/-! ### Two orders -/

/-- Two of the captures are of one path, and all of them show a payload. -/
def widgetCaptures : List (String × Capture) := [
  ("/w/8/", { method := "put", status := 200, contentType := "text/plain", response := "eight",
              request := some (.int 8) }),
  ("/w/7/", { method := "put", status := 200, contentType := "text/plain", response := "seven",
              request := some (.int 7) }),
  ("/w/8/", { method := "put", status := 201, contentType := "application/json",
              response := "[8]", request := some (.int 9) })]

theorem merge_perm_widgets :
    (widgetCaptures.map occasion).Nodup ∧ widgetCaptures.reverse.Perm widgetCaptures ∧
    ∃ r d₁ d₂, widgets.merge (Batch.empty.recordAll widgetCaptures) = (.ok r, d₁) ∧
      widgets.merge (Batch.empty.recordAll widgetCaptures.reverse) = (.ok r, d₂) ∧
      widgets.SameButOrder widgetCaptures d₁ d₂ := by
  have hnodup : (widgetCaptures.map occasion).Nodup := by decide +kernel
  have hperm : widgetCaptures.reverse.Perm widgetCaptures := List.reverse_perm _
  have hmerge := merge_perm hnodup (.refl _) hperm widgets
  have hok : (widgets.merge (Batch.empty.recordAll widgetCaptures)).1.isOk := by decide +kernel
  have hok' := hok
  rw [hmerge.1] at hok'
  obtain ⟨hreport, hsame⟩ := hmerge.2 _ _ _ _ (merge_of_isOk hok) (merge_of_isOk hok')
  exact ⟨hnodup, hperm, _, _, _, merge_of_isOk hok, hreport ▸ merge_of_isOk hok', hsame⟩

end Document

end SwaggerPress
