import Mathlib.Data.List.Induction
import SwaggerPress.Merge
import SwaggerPress.Proofs.Lookup

/-!
    What an operation looks like after it has absorbed captures. Absorbing one can fail only at its
    body (`absorb_eq`), before anything is changed. Absorbing a list `cs` of them leaves

        produces      the old list, then the new content types of `cs` in order of appearance
        parameters    the old list, or without its body parameters and with the last payload of `cs`
        responses     under a status and a content type, the last value that `cs` keeps there

    and nothing else changed; `Shows` says so, and `shows_withCaptures` is the result. -/

namespace SwaggerPress

namespace Capture

/-- What is wrong with the body, if it is declared to be JSON and does not parse. -/
def bodyFault? (c : Capture) : Option Json.Fault :=
  if c.contentType = jsonMediaType ∧ c.response ≠ "" then
    match Json.parse c.response with
    | .ok _ => none
    | .error fault => some fault
  else none

/-- The value of the body as an example, if it is worth keeping. -/
def kept? (c : Capture) : Option Json :=
  if c.response = "" ∨ "text/html".isPrefixOf c.contentType then none
  else if c.contentType = jsonMediaType then (Json.parse c.response).toOption
  else some (.str c.response)

/-- The payload that becomes the body parameter: one that was sent, and successfully. -/
def shownPayload? (c : Capture) : Option Json := if c.isSuccess then c.payload? else none

/-- The value kept under a status and a content type. -/
def keptUnder? (status contentType : String) (c : Capture) : Option Json :=
  if c.statusText = status ∧ c.contentType = contentType then c.kept? else none

/-- The failure of a merge at a body that does not parse. -/
def refusal (c : Capture) (path : String) (fault : Json.Fault) : Failure :=
  .exampleBody path c.method c.statusText (.json fault)

theorem bodyFault?_eq_some_iff {c : Capture} {fault : Json.Fault} :
    c.bodyFault? = some fault ↔
      c.contentType = jsonMediaType ∧ c.response ≠ "" ∧ Json.parse c.response = .error fault := by
  unfold bodyFault?
  by_cases h : c.contentType = jsonMediaType ∧ c.response ≠ ""
  · rw [if_pos h]
    cases hp : Json.parse c.response with
    | ok v => simp
    | error f => simp [h.1, h.2]
  · rw [if_neg h]
    constructor
    · intro h'; exact nomatch h'
    · rintro ⟨hj, hne, -⟩; exact absurd ⟨hj, hne⟩ h

theorem example?_eq (c : Capture) (path : String) :
    c.example? path = match c.bodyFault? with
      | some fault => .error (c.refusal path fault)
      | none => .ok c.kept? := by
  have hjson : "text/html".isPrefixOf jsonMediaType = false := by decide +kernel
  unfold example? bodyFault? kept?
  by_cases hempty : c.response = ""
  · simp [hempty]
  · by_cases hj : c.contentType = jsonMediaType
    · rw [hj, hjson]
      cases hp : Json.parse c.response <;> simp [hempty, refusal, Except.toOption]
    · by_cases hh : "text/html".isPrefixOf c.contentType <;> simp [hempty, hj, hh]

end Capture

namespace Operation

/-- The operation after captures whose bodies are in order. -/
def withCaptures (o : Operation) (cs : List Capture) : Operation :=
  cs.foldl (fun o c => o.withCapture c c.kept?) o

@[simp] theorem withCaptures_nil (o : Operation) : o.withCaptures [] = o := rfl

theorem withCaptures_append (o : Operation) (cs ds : List Capture) :
    o.withCaptures (cs ++ ds) = (o.withCaptures cs).withCaptures ds :=
  List.foldl_append

theorem absorb_eq (o : Operation) (path : String) (c : Capture) :
    o.absorb path c = match c.bodyFault? with
      | some fault => .error (c.refusal path fault)
      | none => .ok (o.withCapture c c.kept?) := by
  rw [absorb, c.example?_eq path]
  cases c.bodyFault? <;> rfl

/-! ### One capture, field by field -/

/-- The example value under a status and a content type. -/
def exampleAt? (o : Operation) (status contentType : String) : Option Json :=
  (o.responses.get? status).bind (·.examples.get? contentType)

/-- The parameters that are not carried in the body. -/
def bodyless (o : Operation) : List Parameter := o.parameters.filter fun p => p.location ≠ .body

theorem withContentType_eq (o : Operation) (t : String) : o.withContentType t =
    { o with produces := if t = "" ∨ t ∈ o.produces then o.produces else o.produces ++ [t] } := by
  unfold withContentType
  by_cases h : t = "" ∨ t ∈ o.produces
  · rw [if_pos h, if_pos (by simpa using h)]
  · rw [if_neg h, if_neg (by simpa using h)]

/-- A capture has its own say in each of three fields; the others stay. -/
theorem withCapture_eq (o : Operation) (c : Capture) (v? : Option Json) : o.withCapture c v? =
    { o with
      produces := if c.contentType = "" ∨ c.contentType ∈ o.produces then o.produces
        else o.produces ++ [c.contentType]
      parameters := c.shownPayload?.elim o.parameters fun payload =>
        o.bodyless ++
          [{ name := "data", location := .body, schema := some (.obj [("example", payload)]) }]
      responses := (v?.elim o (o.withExample c.statusText c.contentType)).responses } := by
  rw [withCapture, withContentType_eq, Capture.shownPayload?]
  cases c.isSuccess with
  | false => cases v? <;> rfl
  | true => cases c.payload? <;> cases v? <;> rfl

theorem produces_withCapture (o : Operation) (c : Capture) (v? : Option Json) :
    (o.withCapture c v?).produces =
      if c.contentType = "" ∨ c.contentType ∈ o.produces then o.produces
      else o.produces ++ [c.contentType] := by
  rw [withCapture_eq]

theorem parameters_withCapture (o : Operation) (c : Capture) (v? : Option Json) :
    (o.withCapture c v?).parameters = c.shownPayload?.elim o.parameters fun payload =>
      o.bodyless ++
        [{ name := "data", location := .body, schema := some (.obj [("example", payload)]) }] := by
  rw [withCapture_eq]

theorem responses_withCapture (o : Operation) (c : Capture) (v? : Option Json) :
    (o.withCapture c v?).responses =
      (v?.elim o (o.withExample c.statusText c.contentType)).responses := by
  rw [withCapture_eq]

/-- What a merge never touches in an operation. -/
def frame (o : Operation) : Option String × Option (Wording Id) × Bool × SortedMap Json :=
  (o.summary, o.description, o.deprecated, o.extra)

theorem frame_withCapture (o : Operation) (c : Capture) (v? : Option Json) :
    (o.withCapture c v?).frame = o.frame := by
  rw [withCapture_eq]; rfl

/-- The response without its examples. -/
def bareResponse? (o : Operation) (status : String) : Option Response :=
  (o.responses.get? status).map fun r => { r with examples := .empty }

theorem exampleAt?_withExample (o : Operation) (s t : String) (v : Json)
    (status contentType : String) :
    (o.withExample s t v).exampleAt? status contentType =
      if s = status ∧ t = contentType then some v else o.exampleAt? status contentType := by
  unfold exampleAt? withExample
  by_cases hs : status = s
  · subst hs
    rw [SortedMap.get?_insert_self, Option.bind_some, SortedMap.get?_insert]
    by_cases ht : contentType = t
    · rw [if_pos ht, if_pos ⟨rfl, ht.symm⟩]
    · rw [if_neg ht, if_neg fun h => ht h.2.symm]
      cases o.responses.get? status <;> rfl
  · rw [SortedMap.get?_insert_of_ne _ _ hs, if_neg fun h => hs h.1.symm]

theorem bareResponse?_withExample (o : Operation) (s t : String) (v : Json) (status : String) :
    (o.withExample s t v).bareResponse? status =
      if s = status then some ((o.bareResponse? status).getD {}) else o.bareResponse? status := by
  unfold bareResponse? withExample
  by_cases hs : status = s
  · subst hs
    rw [SortedMap.get?_insert_self, if_pos rfl]
    cases o.responses.get? status <;> rfl
  · rw [SortedMap.get?_insert_of_ne _ _ hs, if_neg (Ne.symm hs)]

theorem exampleAt?_withCapture (o : Operation) (c : Capture) (status contentType : String) :
    (o.withCapture c c.kept?).exampleAt? status contentType =
      (c.keptUnder? status contentType).or (o.exampleAt? status contentType) := by
  rw [exampleAt?, responses_withCapture, ← exampleAt?, Capture.keptUnder?]
  cases c.kept? with
  | none => simp
  | some v =>
    rw [Option.elim_some, exampleAt?_withExample]
    split <;> rfl

theorem bareResponse?_withCapture (o : Operation) (c : Capture) (status : String) :
    (o.withCapture c c.kept?).bareResponse? status =
      if c.statusText = status ∧ c.kept?.isSome then some ((o.bareResponse? status).getD {})
      else o.bareResponse? status := by
  rw [bareResponse?, responses_withCapture, ← bareResponse?]
  cases c.kept? with
  | none => simp
  | some v => simp [bareResponse?_withExample]

/-! ### All captures -/

/-- The operation `o'` is `o` after the captures `cs`. -/
structure Shows (o : Operation) (cs : List Capture) (o' : Operation) : Prop where
  produces : o'.produces = o.produces ++
    ((cs.map (·.contentType)).filter fun t => t ≠ "" ∧ t ∉ o.produces).eraseDups
  /-- The last payload that is shown is the example of one parameter, `data`, in the body. -/
  parameters : o'.parameters = (cs.filterMap Capture.shownPayload?).getLast?.elim o.parameters
    fun payload => o.bodyless ++
      [{ name := "data", location := .body, schema := some (.obj [("example", payload)]) }]
  examples : ∀ status contentType, o'.exampleAt? status contentType =
    (cs.filterMap (Capture.keptUnder? status contentType)).getLast?.or
      (o.exampleAt? status contentType)
  responses : ∀ status, o'.bareResponse? status =
    if ∃ c ∈ cs, c.statusText = status ∧ c.kept?.isSome then
      some ((o.bareResponse? status).getD {})
    else o.bareResponse? status
  frame : o'.frame = o.frame

theorem filter_bodyless (o : Operation) {p : Parameter} (h : p.location = .body) :
    (o.bodyless ++ [p]).filter (fun p => p.location ≠ .body) = o.bodyless := by
  simp [bodyless, h]

/-- Captures leave the parameters that are not carried in the body. -/
theorem Shows.bodyless {o o' : Operation} {cs : List Capture} (h : Shows o cs o') :
    o'.bodyless = o.bodyless := by
  have hp := h.parameters
  cases hlast : (cs.filterMap Capture.shownPayload?).getLast? with
  | none =>
    rw [hlast, Option.elim_none] at hp
    simp only [Operation.bodyless, hp]
  | some payload =>
    rw [hlast, Option.elim_some] at hp
    rw [Operation.bodyless, hp, filter_bodyless o rfl]

theorem shows_nil (o : Operation) : Shows o [] o where
  produces := by simp
  parameters := rfl
  examples := by simp
  responses := by simp
  frame := rfl

/-- Erasing what came before from a list with one more element. -/
theorem eraseDups_concat (xs : List String) (x : String) :
    (xs ++ [x]).eraseDups = if x ∈ xs then xs.eraseDups else xs.eraseDups ++ [x] := by
  rw [List.eraseDups_append]
  by_cases h : x ∈ xs <;> simp [h, List.removeAll, List.eraseDups_cons]

/-- Listing one more content type: it is added if it counts and is not there yet. -/
theorem listed_concat (old types : List String) (t : String) :
    old ++ ((types ++ [t]).filter fun t => t ≠ "" ∧ t ∉ old).eraseDups =
      let listed := old ++ (types.filter fun t => t ≠ "" ∧ t ∉ old).eraseDups
      if t = "" ∨ t ∈ listed then listed else listed ++ [t] := by
  rw [List.filter_append]
  by_cases hnew : t ≠ "" ∧ t ∉ old
  · -- a type that may count: whether it does depends on the other types only
    rw [List.filter_cons_of_pos (by simpa using hnew), List.filter_nil, eraseDups_concat]
    by_cases hmem : t ∈ types.filter fun t => t ≠ "" ∧ t ∉ old
    · rw [if_pos hmem, if_pos]
      exact .inr (List.mem_append_right _ (List.mem_eraseDups.2 hmem))
    · rw [if_neg hmem, if_neg, List.append_assoc]
      rw [List.mem_append, List.mem_eraseDups]
      rintro (hempty | hold | hmem')
      exacts [hnew.1 hempty, hnew.2 hold, hmem hmem']
  · rw [List.filter_cons_of_neg (by simpa using hnew), List.filter_nil, List.append_nil, if_pos]
    by_cases hempty : t = ""
    · exact .inl hempty
    · exact .inr (List.mem_append_left _ (by simpa [hempty] using hnew))

theorem shows_step {o o' : Operation} {cs : List Capture} (h : Shows o cs o') (c : Capture) :
    Shows o (cs ++ [c]) (o'.withCapture c c.kept?) where
  produces := by
    rw [produces_withCapture, h.produces, List.map_append, List.map_singleton, listed_concat]
  parameters := by
    rw [parameters_withCapture, List.filterMap_append, List.getLast?_append, h.bodyless,
      h.parameters]
    cases hc : c.shownPayload? <;> simp [hc]
  examples := by
    intro status contentType
    rw [exampleAt?_withCapture, h.examples, List.filterMap_append, List.getLast?_append]
    cases hc : c.keptUnder? status contentType <;> simp [hc]
  responses := by
    intro status
    rw [bareResponse?_withCapture, h.responses]
    by_cases hc : c.statusText = status ∧ c.kept?.isSome
    · have hlast : ∃ d ∈ cs ++ [c], d.statusText = status ∧ d.kept?.isSome := ⟨c, by simp, hc⟩
      rw [if_pos hc, if_pos hlast]
      split <;> rfl
    · rw [if_neg hc]
      refine if_congr ?_ rfl rfl
      simp [hc]
  frame := by rw [frame_withCapture, h.frame]

/-- Absorbing captures one after another shows all of them. -/
theorem shows_withCaptures (o : Operation) (cs : List Capture) : Shows o cs (o.withCaptures cs) := by
  induction cs using List.reverseRecOn with
  | nil => exact shows_nil o
  | append_singleton cs c ih =>
    rw [withCaptures_append]
    exact shows_step ih c

end Operation

end SwaggerPress
