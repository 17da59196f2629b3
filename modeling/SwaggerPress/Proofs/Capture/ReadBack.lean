import SwaggerPress.Proofs.Assembly
import SwaggerPress.Proofs.Capture.Recording
import SwaggerPress.Proofs.Document.Tidy
import SwaggerPress.Proofs.FileTree.Writing
import SwaggerPress.Proofs.Json.ReadBack
import SwaggerPress.Proofs.Merge.Alike
import SwaggerPress.Proofs.Text.Case

/-!
    A batch that is written and read. The text of a batch is taken field by field, capture by capture
    and path by path, and gives the batch, but that a request that is `null` comes back as none
    (`parse_compact`). Reading a file records the captures anew; that changes nothing in a batch that
    is as recordings leave it (`Recorded.ofLists_byPath`). And a merge takes a request that is `null`
    for none (`alike_reread`), so it does not see which of the two batches it gets.

        b           p ↦ [get 200 null, post 201 {"a":1}]
        compact     {"p":[{"method":"get",…,"request_body":null},{"method":"post",…}]}
        reread      p ↦ [get 200 none, post 201 {"a":1}]                                    -/

namespace SwaggerPress

open Json (FollowsValue Halt Layout Reader ReadsAs TakesMembers isDigit isDigit_first
  isDigit_of_mem_decimalDigits printWith readColon readColon_readsAs readItems_arr readListOf
  readMapOf readMembers_obj readNumber readNumber_decimalDigits readString_escaped readText
  readValue readValueBy_printWith readValue_eq readWhole_print skipBlanks_cons takesMembers_put)
open Decimal (decimalDigits)

/-- The capture as it is read again: a request that is `null` is none. -/
def Capture.reread (c : Capture) : Capture := { c with request := c.request.filter (· ≠ .null) }

/-- The batch with every capture as it is read again. -/
def Batch.reread (b : Batch) : Batch := ⟨b.byPath.map fun cs => cs.map Capture.reread⟩

namespace Capture

variable {layout : Layout}

theorem readsAs_text (text : String) : ReadsAs layout readText (.str text) text := by
  intro s _
  have hread : readText ('"' :: (text.toList.flatMap Json.escapeChar ++ '"' :: s)) = .ok (text, s) :=
    readString_escaped text s
  rw [printWith, Json.printString, List.append_assoc]
  exact hread

/-- A status is printed as a number and read as one. -/
theorem readsAs_status (status : UInt16) :
    ReadsAs layout readStatus (.int status.toNat) status := by
  intro s hs
  have hsize : status.toNat < 65536 := status.toNat_lt
  have hword : status.toNat ≤ Json.maxWord := by unfold Json.maxWord; omega
  have hstatus : statusOf (.int status.toNat) = .ok status := by
    rw [statusOf, if_pos (by unfold maxStatus; omega)]
    simp
  have hprint : printWith layout (.int status.toNat) = decimalDigits status.toNat := by
    rw [printWith, Json.printInt, if_neg (by omega)]
    rfl
  have hnumber : readNumber false (decimalDigits status.toNat ++ s) = .ok (.int status.toNat, s) :=
    readNumber_decimalDigits false hword hs
  rw [hprint]
  cases hds : decimalDigits status.toNat with
  | nil => exact absurd hds Nat.toDigits_ne_nil
  | cons d ds =>
    have hd : isDigit d := isDigit_of_mem_decimalDigits (hds ▸ List.mem_cons_self)
    obtain ⟨hblank, -, -, -, -, -, -, -, hminus⟩ := isDigit_first hd
    rw [hds] at hnumber
    rw [readStatus, List.cons_append, skipBlanks_cons _ hblank]
    split
    next heq => cases heq
    next heq => exact absurd (List.cons.inj heq).1 hminus
    next heq =>
      cases heq
      rw [List.cons_append] at hnumber
      rw [if_pos hd, hnumber, ok_bind]
      simp only [hstatus]

/-- A request is read again unless it is `null`. -/
theorem readsAs_request {request : Option Json} (hint : ∀ v ∈ request, v.integral)
    (hcanonical : ∀ v ∈ request, v.IsCanonical)
    (hdepth : (request.getD .null).nestsWithin bodyNesting) :
    ReadsAs layout readRequest (request.getD .null) (request.filter (· ≠ .null)) := by
  intro s hs
  by_cases hnull : request.getD .null = .null
  · have hnone : request.filter (· ≠ .null) = none := by
      cases request with
      | none => rfl
      | some v =>
        rw [Option.getD_some] at hnull
        rw [hnull]
        rfl
    rw [hnull, hnone]
    rfl
  · cases request with
    | none => exact absurd rfl hnull
    | some v =>
      rw [Option.getD_some] at hnull hdepth ⊢
      have hsome : (some v).filter (· ≠ Json.null) = some v := by simp [hnull]
      have hread : readValue bodyNesting (printWith layout v ++ s) = .ok (v, s) := by
        have hvalue := readValueBy_printWith Json.Putting.gives_sorted layout hdepth (hint v rfl) s hs
        rwa [← readValue_eq, Json.canonical_of_isCanonical (hcanonical v rfl)] at hvalue
      obtain ⟨c, cs, hprint, hblank, -, hn⟩ := Json.printWith_head (hint v rfl) layout
      rw [hprint, List.cons_append] at hread ⊢
      rw [hsome, readRequest, skipBlanks_cons _ hblank]
      split
      next heq => exact absurd (List.cons.inj heq).1 (hn hnull)
      next => rw [hread]; rfl

/-- Behind a name the value is read, and what is made of it does not matter to the reading. -/
theorem bind_readsAs {α β : Type} {reader : Reader α} (hblank : ∀ s, reader (' ' :: s) = reader s)
    {v : Json} {a : α} (h : ReadsAs layout reader v a) {s : List Char} (hs : FollowsValue s)
    (k : α × List Char → Except Halt β) :
    (readColon (layout.colon ++ (printWith layout v ++ s)) >>= fun s => reader s >>= k) =
      k (a, s) := by
  rw [← bind_assoc, readColon_readsAs hblank h hs, ok_bind]

/-- Whether a capture can be read again from its text. -/
structure Readable (c : Capture) : Prop where
  integral : ∀ v ∈ c.request, v.integral
  canonical : ∀ v ∈ c.request, v.IsCanonical
  nesting : (c.request.getD .null).nestsWithin bodyNesting

/-- The five fields are taken in the order in which they are printed. -/
theorem takesMembers_fields {c : Capture} (hc : c.Readable) :
    TakesMembers layout readField {}
      [("method", .str c.method), ("status_code", .int c.status.toNat),
        ("content_type", .str c.contentType), ("response_body", .str c.response),
        ("request_body", c.request.getD .null)]
      { method := some c.method, status := some c.status, contentType := some c.contentType,
        response := some c.response, request := some (c.request.filter (· ≠ .null)) } :=
  .cons (fun _ hs => bind_readsAs (fun _ => rfl) (readsAs_text c.method) hs _) <|
  .cons (fun _ hs => bind_readsAs (fun _ => rfl) (readsAs_status c.status) hs _) <|
  .cons (fun _ hs => bind_readsAs (fun _ => rfl) (readsAs_text c.contentType) hs _) <|
  .cons (fun _ hs => bind_readsAs (fun _ => rfl) (readsAs_text c.response) hs _) <|
  .cons (fun _ hs => bind_readsAs (fun _ => rfl)
    (readsAs_request hc.integral hc.canonical hc.nesting) hs _) .nil

theorem integral_encode {c : Capture} (hc : c.Readable) : c.encode.integral := by
  have hstatus : (Json.int c.status.toNat).integral := by
    have hsize : c.status.toNat < 65536 := c.status.toNat_lt
    simp only [Json.integral, Json.everywhere, Json.isWhole, Bool.and_eq_true, decide_eq_true_eq]
    omega
  have hrequest : (c.request.getD .null).integral := by
    cases hr : c.request with
    | none => rfl
    | some v => exact hc.integral v hr
  rw [encode, Json.integral_obj]
  simp only [List.forall_mem_cons]
  exact ⟨rfl, hstatus, rfl, rfl, hrequest, List.forall_mem_nil _⟩

/-- What is printed for a capture is read as the capture. -/
theorem readsAs_encode {c : Capture} (hc : c.Readable) :
    ReadsAs layout Capture.read c.encode c.reread := by
  intro s _
  obtain ⟨t, ht, hread⟩ := readMembers_obj s (takesMembers_fields hc)
  rw [encode, ht]
  change (Json.readMembers {} readField t >>= _) = _
  rw [hread]
  rfl

theorem readsAs_list {cs : List Capture} (h : ∀ c ∈ cs, c.Readable) :
    ReadsAs layout (readListOf Capture.read) (.arr (cs.map encode)) (cs.map reread) := by
  intro s _
  have hint : ∀ v ∈ cs.map encode, v.integral :=
    List.forall_mem_map.2 fun c hc => integral_encode (h c hc)
  have hread : List.Forall₂ (ReadsAs layout.inner Capture.read) (cs.map encode)
      (cs.map reread) := by
    rw [List.forall₂_map_left_iff, List.forall₂_map_right_iff, List.forall₂_same]
    exact fun c hc => readsAs_encode (h c hc)
  obtain ⟨t, ht, hread⟩ := readItems_arr s hint hread
  rw [ht]
  exact hread

end Capture

namespace Batch

variable {b : Batch}

/-- Whether a batch can be read again from its text. -/
def Readable (b : Batch) : Prop := ∀ e ∈ b.toList, e.2.Readable

/-- A batch of whole numbers that nests no deeper than a text may can be read again. -/
theorem readable_of_nestsWithin (hcanonical : b.IsCanonical)
    (hint : ∀ e ∈ b.toList, ∀ v ∈ e.2.request, v.integral)
    (hdepth : b.encode.nestsWithin Json.maxNesting) : b.Readable := by
  rintro ⟨path, c⟩ he
  obtain ⟨⟨path, cs⟩, hentry, hc⟩ := List.mem_flatMap.1 he
  obtain ⟨c, hc, rfl, rfl⟩ := List.mem_map.1 hc
  have hlist : (Json.arr (cs.map Capture.encode)).nestsWithin 126 :=
    List.all_eq_true.1 hdepth (path, _) (List.mem_map.2 ⟨(path, cs), hentry, rfl⟩)
  have hcapture : c.encode.nestsWithin 125 :=
    List.all_eq_true.1 hlist _ (List.mem_map.2 ⟨c, hc, rfl⟩)
  exact ⟨hint _ he, hcanonical _ he,
    List.all_eq_true.1 hcapture ("request_body", c.request.getD .null) (by simp)⟩

/-- What is printed for a batch is read as the batch. -/
theorem readsAs_encode (h : b.Readable) (layout : Layout) :
    ReadsAs layout (readMapOf (readListOf Capture.read)) b.encode b.reread.byPath := by
  intro s _
  have hlists : ∀ e ∈ b.byPath.entries, ReadsAs layout.inner (readListOf Capture.read)
      (.arr (e.2.map Capture.encode)) (e.2.map Capture.reread) := fun e he =>
    Capture.readsAs_list fun c hc =>
      h (e.1, c) (List.mem_flatMap.2 ⟨e, he, List.mem_map.2 ⟨c, hc, rfl⟩⟩)
  have hread : List.Forall₂ (fun e f => e.1 = f.1 ∧
      ReadsAs layout.inner (readListOf Capture.read) e.2 f.2)
      (b.byPath.map fun cs => Json.arr (cs.map Capture.encode)).entries
      b.reread.byPath.entries := by
    simp only [reread, SortedMap.map, SortedMap.entries_mapWithKey]
    rw [List.forall₂_map_left_iff, List.forall₂_map_right_iff, List.forall₂_same]
    exact fun e he => ⟨rfl, hlists e he⟩
  obtain ⟨t, ht, hread⟩ := readMembers_obj s
    (takesMembers_put (fun _ => rfl) (fun (m : SortedMap (List Capture)) name v => m.insert name v)
      .empty hread)
  rw [encode, Json.ofMap, ht]
  exact hread.trans (congrArg (fun m => Except.ok (m, s)) b.reread.byPath.ofList_entries)

theorem parse_compact (h : b.Readable) : parse b.encode.compact = .ok b.reread := by
  rw [parse, Json.compact, readWhole_print (b.readsAs_encode h .compact)]
  rfl

end Batch

/-! ### What is changed -/

namespace Capture

theorem reread_of_ne {c : Capture} (h : c.request ≠ some .null) : c.reread = c := by
  have hkept : c.request.filter (· ≠ .null) = c.request := by
    cases hr : c.request with
    | none => rfl
    | some v =>
      have hv : v ≠ .null := fun hv => h (by rw [hr, hv])
      simp [hv]
  rw [reread, hkept]

/-- A request that is `null` carries nothing. -/
theorem alike_reread (c : Capture) : c.Alike c.reread where
  method := rfl
  status := rfl
  contentType := rfl
  response := rfl
  payload := by
    have hnull : ∀ v : Json, (decide (v ≠ .null) && isPayload v) = isPayload v := by
      intro v
      cases v <;> simp [isPayload]
    rw [payload?, payload?, reread, Option.filter_filter]
    simp only [hnull]

end Capture

namespace Batch

variable {b : Batch}

theorem get?_reread (b : Batch) (path : String) :
    b.reread.byPath.get? path = (b.byPath.get? path).map (·.map Capture.reread) :=
  b.byPath.get?_map _ path

/-- The captures stay where they are. -/
theorem toList_reread (b : Batch) : b.reread.toList = b.toList.map fun e => (e.1, e.2.reread) := by
  simp only [toList, reread, SortedMap.map, SortedMap.entries_mapWithKey, List.flatMap_map,
    List.map_flatMap, List.map_map]
  rfl

theorem mem_toList {path : String} {c : Capture} :
    (path, c) ∈ b.toList ↔ ∃ cs, b.byPath.get? path = some cs ∧ c ∈ cs := by
  simp [toList, SortedMap.get?_eq_some_iff]

theorem reread_of_ne (h : ∀ e ∈ b.toList, e.2.request ≠ some .null) : b.reread = b := by
  have hlists : b.byPath.map (fun cs => cs.map Capture.reread) = b.byPath := by
    refine SortedMap.ext_get? fun path => ?_
    rw [SortedMap.get?_map]
    cases hcs : b.byPath.get? path with
    | none => rfl
    | some cs =>
      have hsame : cs.map Capture.reread = cs := by
        refine (List.map_congr_left fun c hc => ?_).trans (List.map_id _)
        exact Capture.reread_of_ne (h (path, c) (mem_toList.2 ⟨cs, hcs, hc⟩))
      rw [Option.map_some, hsame]
  rw [reread, hlists]

theorem merge_reread (d : Document) (b : Batch) : d.merge b.reread = d.merge b :=
  Document.merge_alike Capture.alike_reread b.toList_reread d

/-! ### Recorded batches -/

/-- A batch as recordings leave it. -/
structure Recorded (b : Batch) : Prop where
  once : (b.toList.map occasion).Nodup
  listed : ∀ path, b.byPath.get? path ≠ some []
  lower : ∀ e ∈ b.toList, Text.lower e.2.method = e.2.method

/-- Recording captures whose methods are in lower case gives such a batch. -/
theorem recorded_recordAll {calls : List (String × Capture)}
    (h : ∀ e ∈ calls, ∃ method, e.2.method = Text.lower method) :
    (empty.recordAll calls).Recorded := by
  have hholds := holds_recordAll calls
  have hlatest : ∀ e, e ∈ (empty.recordAll calls).toList ↔ e ∈ latest calls :=
    fun _ => hholds.perm.mem_iff
  refine { once := ?_, listed := fun path hnone => ?_, lower := fun e he => ?_ }
  · rw [(hholds.perm.map occasion).nodup_iff, map_occasion_latest]
    exact List.nodup_dedup _
  · -- a path that has been recorded under keeps the latest recording of some occasion
    rw [hholds path] at hnone
    split at hnone
    next hpath =>
      obtain ⟨e, he, rfl⟩ := List.mem_map.1 hpath
      have hoccasion : occasion e ∈ (latest calls).map occasion := by
        rw [map_occasion_latest, List.mem_dedup]
        exact List.mem_map.2 ⟨e, he, rfl⟩
      obtain ⟨f, hf, hsame⟩ := List.mem_map.1 hoccasion
      have hunder : f.2 ∈ capturesUnder e.1 (latest calls) :=
        List.mem_map.2 ⟨f, List.mem_filter.2 ⟨hf, by simpa using (occasion_eq_iff.1 hsame).1⟩, rfl⟩
      rw [Option.some.inj hnone] at hunder
      exact List.not_mem_nil hunder
    next => cases hnone
  · obtain ⟨method, hmethod⟩ := h e ((latest_sublist calls).subset ((hlatest e).1 he))
    rw [hmethod, Text.lower_lower]

namespace Recorded

/-- Recording its captures gives the batch. -/
theorem recordAll_toList (h : b.Recorded) : empty.recordAll b.toList = b := by
  have hpath : ∀ path, path ∈ b.toList.map (·.1) ↔ ∃ cs, b.byPath.get? path = some cs := by
    intro path
    constructor
    · rw [List.mem_map]
      rintro ⟨⟨path, c⟩, he, rfl⟩
      obtain ⟨cs, hcs, -⟩ := mem_toList.1 he
      exact ⟨cs, hcs⟩
    · rintro ⟨cs, hcs⟩
      obtain ⟨c, hc⟩ := List.exists_mem_of_ne_nil cs fun hnil => h.listed path (hnil ▸ hcs)
      exact List.mem_map.2 ⟨(path, c), mem_toList.2 ⟨cs, hcs, hc⟩, rfl⟩
  have hunder : ∀ path, capturesUnder path b.toList = (b.byPath.get? path).getD [] := by
    intro path
    rw [capturesUnder, filter_path_toList, List.map_map]
    exact List.map_id _
  have hlists : (empty.recordAll b.toList).byPath = b.byPath := by
    refine SortedMap.ext_get? fun path => ?_
    rw [holds_recordAll b.toList path, latest_of_nodup h.once, hunder]
    cases hcs : b.byPath.get? path with
    | none => rw [if_neg (by simp [hpath, hcs])]
    | some cs => rw [if_pos ((hpath path).2 ⟨cs, hcs⟩), Option.getD_some]
  generalize empty.recordAll b.toList = b' at hlists
  cases b'
  cases hlists
  rfl

theorem reread (h : b.Recorded) : b.reread.Recorded where
  once := by
    rw [toList_reread, List.map_map]
    exact h.once
  listed path := by
    rw [get?_reread]
    intro hnone
    obtain ⟨cs, hcs, hnil⟩ := Option.map_eq_some_iff.1 hnone
    rw [List.map_eq_nil_iff.1 hnil] at hcs
    exact h.listed path hcs
  lower e hmem := by
    rw [toList_reread] at hmem
    obtain ⟨e, he, rfl⟩ := List.mem_map.1 hmem
    exact h.lower e he

/-- Putting its methods in lower case and recording its captures gives the batch. -/
theorem ofLists_byPath (h : b.Recorded) : ofLists b.byPath = b := by
  have hlower : b.toList.map (fun e => (e.1, { e.2 with method := Text.lower e.2.method })) =
      b.toList := by
    refine (List.map_congr_left fun e he => ?_).trans (List.map_id _)
    rw [h.lower e he]
    rfl
  rw [ofLists, hlower, h.recordAll_toList]

end Recorded

/-! ### Files -/

theorem ofFile_of_readText {t : FileTree} {path text : String} {lists : Batch}
    (htext : t.readText path = .ok text) (hparse : parse text = .ok lists) :
    ofFile t path = .ok (ofLists lists.byPath) := by
  rw [ofFile, FileTree.readConfiguration_eq_ok_iff.2 htext, ok_bind, load, hparse]
  rfl

/-- A batch that is written and read is the batch, but that a request that is `null` comes back as
none. If the batch is as recordings leave it, it is so, too, when the text is loaded from a file. A
merge does not tell the two batches apart. -/
theorem compact_reads_back (hcanonical : b.IsCanonical)
    (hint : ∀ e ∈ b.toList, ∀ v ∈ e.2.request, v.integral)
    (hdepth : b.encode.nestsWithin 127) :
    parse b.encode.compact = .ok b.reread ∧
    ((∀ e ∈ b.toList, e.2.request ≠ some .null) → b.reread = b) ∧
    b.reread.toList = b.toList.map (fun e => (e.1, e.2.reread)) ∧
    (∀ calls : List (String × Capture), (∀ e ∈ calls, ∃ method, e.2.method = Text.lower method) →
      b = empty.recordAll calls → b.Recorded) ∧
    (b.Recorded → ∀ (t : FileTree) (path : String),
      (t.readText path = .ok b.encode.compact → ofFile t path = .ok b.reread) ∧
      ∀ t', t.writeAtomically path b.encode.compact = (none, t') → ofFile t' path = .ok b.reread) ∧
    ∀ d : Document, d.merge b.reread = d.merge b := by
  have hparse := parse_compact (readable_of_nestsWithin hcanonical hint hdepth)
  have hfile : b.Recorded → ∀ (t : FileTree) (path : String),
      t.readText path = .ok b.encode.compact → ofFile t path = .ok b.reread := by
    intro hrecorded t path htext
    rw [ofFile_of_readText htext hparse, hrecorded.reread.ofLists_byPath]
  refine ⟨hparse, reread_of_ne, b.toList_reread, ?_, ?_, fun d => merge_reread d b⟩
  · rintro calls hlower rfl
    exact recorded_recordAll hlower
  · intro hrecorded t path
    exact ⟨hfile hrecorded t path, fun t' hwrite =>
      hfile hrecorded t' path (FileTree.readText_of_writeAtomically hwrite)⟩

/-- A request that is `null` and one that nests, under one path. -/
def pingCalls : List (String × Capture) := [
  ("/ping/", { method := "get", status := 200, contentType := "application/json",
               response := "\x7b\"ha\": true\x7d", request := some .null }),
  ("/ping/", { method := "post", status := 201,
               request := some (.obj [("né", .arr [.int (-7), .str "\n"])]) })]

theorem compact_reads_back_ping :
    (empty.recordAll pingCalls).Recorded ∧
    (empty.recordAll pingCalls).reread ≠ empty.recordAll pingCalls ∧
    parse (empty.recordAll pingCalls).encode.compact = .ok (empty.recordAll pingCalls).reread ∧
    ∃ t', FileTree.empty.writeAtomically "out/ping.json"
        (empty.recordAll pingCalls).encode.compact = (none, t') ∧
      ofFile t' "out/ping.json" = .ok (empty.recordAll pingCalls).reread := by
  have hcanonical : (empty.recordAll pingCalls).IsCanonical := by
    have hcheck : (empty.recordAll pingCalls).toList.all (fun e =>
        e.2.request.all fun v => decide (v.canonical = v)) = true := by decide +kernel
    intro e he v hv
    have hv : v.canonical = v :=
      of_decide_eq_true ((Option.all_eq_true _ _).1 (List.all_eq_true.1 hcheck e he) v hv)
    exact hv ▸ v.isCanonical_canonical
  have hint : ∀ e ∈ (empty.recordAll pingCalls).toList, ∀ v ∈ e.2.request, v.integral := by
    decide +kernel
  have hcalls : ∀ e ∈ pingCalls, ∃ method, e.2.method = Text.lower method := by
    have hlower : ∀ e ∈ pingCalls, e.2.method = Text.lower e.2.method := by decide +kernel
    exact fun e he => ⟨_, hlower e he⟩
  obtain ⟨hparse, -, -, hrecorded, hload, -⟩ :=
    compact_reads_back hcanonical hint (by decide +kernel)
  have hwrite : (FileTree.empty.writeAtomically "out/ping.json"
      (empty.recordAll pingCalls).encode.compact).1 = none := by decide +kernel
  exact ⟨hrecorded _ hcalls rfl, by decide +kernel, hparse, _, Prod.ext hwrite rfl,
    (hload (hrecorded _ hcalls rfl) _ _).2 _ (Prod.ext hwrite rfl)⟩

end Batch

end SwaggerPress
