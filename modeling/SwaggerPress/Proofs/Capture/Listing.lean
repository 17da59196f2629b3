import SwaggerPress.Capture.Reader
import SwaggerPress.Proofs.Capture.Recording
import SwaggerPress.Proofs.Outcome

/-!
    Batches from texts. A text *lists* captures under paths, one list after another as they are
    written, and a path may be listed again. Reading the text as a map is reading the lists and
    letting the last one of each path count (`parse_eq_map_listing`). Loading then records, onto an
    empty batch, the paths ascending and each path's captures in their order with their methods in
    lower case; so of captures of one path that differ only in the case of their methods the last
    stays (`Loads`).

        listed     q: [GET 200 x, get 200 y] · p: [put 201 z] · q: [Get 200 v, GET 200 w] · r: []
        recorded   p put 201 z · q get 200 v · q get 200 w
        batch      p ↦ [put 201 z]    q ↦ [get 200 w] -/

namespace SwaggerPress

/-! ### Members as they are written -/

namespace Json

/-- Reads an object member by member. -/
def readObject {σ : Type} (start : σ)
    (member : σ → String → List Char → Except Halt (σ × List Char)) (s : List Char) :
    Except Halt (σ × List Char) :=
  match skipBlanks s with
  | '\x7b' :: rest => readMembers start member rest
  | s => haltKind "a map" s

/-- Reads an object as the list of its members, in the order they are written. -/
def readEntriesOf {α : Type} (value : Reader α) : Reader (List (String × α)) :=
  readObject [] fun taken name s => do
    let (v, s) ← value (← readColon s)
    return (taken ++ [(name, v)], s)

variable {α σ τ : Type}

/-- What is made of each member may be made at the end instead. -/
theorem readMembersFrom_map (g : σ → τ)
    {member : σ → String → List Char → Except Halt (σ × List Char)}
    {member' : τ → String → List Char → Except Halt (τ × List Char)}
    (hmember : ∀ state name s, member' (g state) name s = (member state name s).map (Prod.map g id)) :
    ∀ (fuel : Nat) (first : Bool) (state : σ) (s : List Char),
      readMembersFrom member' fuel first (g state) s =
        (readMembersFrom member fuel first state s).map (Prod.map g id)
  | 0, _, _, _ => rfl
  | fuel + 1, first, state, s => by
    unfold readMembersFrom
    cases nextName first s with
    | error e => rfl
    | ok next =>
      obtain ⟨more, s⟩ := next
      cases more with
      | false => rfl
      | true =>
        simp only [ok_bind, if_true]
        cases readString s with
        | error e => rfl
        | ok read =>
          obtain ⟨name, s⟩ := read
          simp only [ok_bind, hmember]
          cases member state name s with
          | error e => rfl
          | ok turn =>
            obtain ⟨next, s⟩ := turn
            exact readMembersFrom_map g hmember fuel false next s

/-- Where something else stands there is nothing to change. -/
theorem haltKind_map (f : α → σ) (expected : String) (s : List Char) :
    (haltKind expected s : Except Halt α).map f = haltKind expected s := by
  unfold haltKind
  split
  · rfl
  · cases readWord ['u', 'l', 'l'] _ <;> rfl
  · cases readWord ['r', 'u', 'e'] _ <;> rfl
  · cases readWord ['a', 'l', 's', 'e'] _ <;> rfl
  · cases readString _ <;> rfl
  · rfl
  · rfl
  · cases readNumber true _ with
    | error e => rfl
    | ok read =>
      obtain ⟨v, rest⟩ := read
      cases v <;> rfl
  · split
    · cases readNumber false _ with
      | error e => rfl
      | ok read =>
        obtain ⟨v, rest⟩ := read
        cases v <;> rfl
    · rfl

theorem readObject_brace {start : σ}
    {member : σ → String → List Char → Except Halt (σ × List Char)} {s rest : List Char}
    (h : skipBlanks s = '\x7b' :: rest) :
    readObject start member s = readMembers start member rest := by
  simp only [readObject, h]

theorem readObject_other {start : σ}
    {member : σ → String → List Char → Except Halt (σ × List Char)} {s : List Char}
    (h : ¬ ∃ rest, skipBlanks s = '\x7b' :: rest) :
    readObject start member s = haltKind "a map" (skipBlanks s) := by
  rw [readObject]
  split
  next rest hbrace => exact absurd ⟨rest, hbrace⟩ h
  next => rfl

/-- A map is the list of its members, of which the last under each name counts. -/
theorem readMapOf_eq (value : Reader α) (s : List Char) :
    readMapOf value s = (readEntriesOf value s).map (Prod.map SortedMap.ofList id) := by
  have hmap : readMapOf value s = readObject SortedMap.empty (fun m name s => do
      let (v, s) ← value (← readColon s)
      return (m.insert name v, s)) s := rfl
  rw [hmap, readEntriesOf]
  by_cases h : ∃ rest, skipBlanks s = '\x7b' :: rest
  · obtain ⟨rest, hrest⟩ := h
    rw [readObject_brace hrest, readObject_brace hrest]
    refine readMembersFrom_map SortedMap.ofList (fun taken name s => ?_) _ true [] rest
    cases readColon s with
    | error e => rfl
    | ok s =>
      simp only [ok_bind]
      cases value s with
      | error e => rfl
      | ok read =>
        obtain ⟨v, s⟩ := read
        have hlast : SortedMap.ofList (taken ++ [(name, v)]) =
            (SortedMap.ofList taken).insert name v := List.foldl_append
        simp only [ok_bind, pure, Except.pure, Except.map, Prod.map, hlast, id]
  · rw [readObject_other h, readObject_other h, haltKind_map]

theorem readWhole_map (g : σ → τ) {reader : Reader σ} {reader' : Reader τ}
    (h : ∀ s, reader' s = (reader s).map (Prod.map g id)) (text : String) :
    readWhole reader' text = (readWhole reader text).map g := by
  simp only [readWhole, h]
  cases reader text.toList with
  | error e => rfl
  | ok read =>
    obtain ⟨v, rest⟩ := read
    simp only [Except.map, ok_bind, Prod.map, id]
    cases skipBlanks rest <;> rfl

end Json

/-! ### Loading -/

/-- The capture with its method in lower case. -/
def Capture.lowered (c : Capture) : Capture := { c with method := Text.lower c.method }

namespace Batch

/-- The lists of captures in a text, each with its path, as they are written. -/
def listing (text : String) : Except Json.Fault (List (String × List Capture)) :=
  Json.readWhole (Json.readEntriesOf (Json.readListOf Capture.read)) text

/-- The last list of a path; a path that is not listed has an empty one. -/
def lastList (path : String) (listed : List (String × List Capture)) : List Capture :=
  (firstUnder? path listed.reverse).getD []

/-- What loading records of listed captures. -/
def recordings (listed : List (String × List Capture)) : List (String × Capture) :=
  (Batch.mk (.ofList listed)).toList.map fun e => (e.1, e.2.lowered)

theorem parse_eq_map_listing (text : String) :
    parse text = (listing text).map fun listed => ⟨.ofList listed⟩ := by
  rw [parse, Json.readWhole_map SortedMap.ofList (Json.readMapOf_eq _), ← listing]
  cases listing text <;> rfl

theorem load_eq_map_listing (text : String) :
    load text = (listing text).map fun listed => empty.recordAll (recordings listed) := by
  rw [load, parse_eq_map_listing]
  cases listing text <;> rfl

variable {listed : List (String × List Capture)}

theorem filter_path_recordings (listed : List (String × List Capture)) (path : String) :
    (recordings listed).filter (fun e => e.1 = path) =
      (lastList path listed).map fun c => (path, c.lowered) := by
  have hlist := filter_path_toList ⟨.ofList listed⟩ path
  rw [SortedMap.get?_ofList, ← lastList] at hlist
  rw [recordings, List.filter_map]
  simp only [Function.comp_def, hlist, List.map_map]

theorem ascending_recordings (listed : List (String × List Capture)) :
    (recordings listed).Pairwise fun e f => e.1 ≤ f.1 :=
  List.pairwise_map.2 (ascending_toList ⟨.ofList listed⟩)

theorem mem_paths_recordings {path : String} :
    path ∈ (recordings listed).map (·.1) ↔ lastList path listed ≠ [] := by
  have hmem : ∀ es : List (String × Capture),
      path ∈ es.map (·.1) ↔ es.filter (fun e => e.1 = path) ≠ [] := by
    intro es
    rw [ne_eq, List.filter_eq_nil_iff]
    simp
  rw [hmem, filter_path_recordings, ne_eq, List.map_eq_nil_iff]

/-- Loading listed captures is recording them, and of a path listed again only the last list. -/
structure Loads (listed : List (String × List Capture)) (b : Batch) : Prop where
  /-- Paths ascend, and each path's last list is recorded in its order with its methods in lower
  case. -/
  recorded : ∃ calls, b = empty.recordAll calls ∧ calls.Pairwise (fun e f => e.1 ≤ f.1) ∧
    ∀ path, calls.filter (fun e => e.1 = path) =
      (lastList path listed).map fun c => (path, c.lowered)
  /-- A path whose last list is empty leaves no trace. -/
  paths (path : String) : path ∈ b.byPath.keys ↔ lastList path listed ≠ []
  /-- Of captures of one path whose methods differ in case at most, and of one status, the last
  stays. -/
  folded (path method : String) (status : UInt16) :
    b.toList.filter (fun e => occasion e = (path, method, status)) =
      (((lastList path listed).filter fun c => Text.lower c.method = method ∧ c.status = status)
        |>.getLast?.toList.map fun c => (path, c.lowered))

theorem loads_recordings (listed : List (String × List Capture)) :
    Loads listed (empty.recordAll (recordings listed)) where
  recorded := ⟨recordings listed, rfl, ascending_recordings listed, filter_path_recordings listed⟩
  paths path := by
    rw [(holds_recordAll _).keeps.paths, mem_paths_recordings]
  folded path method status := by
    have hslot : ((fun e => decide (occasion e = (path, method, status))) ∘
        fun c : Capture => (path, c.lowered)) =
        fun c => decide (Text.lower c.method = method ∧ c.status = status) := by
      funext c
      simp [occasion, Capture.lowered]
    rw [(holds_recordAll _).keeps.held, filter_occasion, filter_path_recordings, List.filter_map,
      List.getLast?_map, Option.toList_map, hslot]

/-- A batch keeps of every occasion the last recording and nothing else; and a text is loaded by
recording what it lists. -/
theorem last_recording_kept :
    (∀ calls, Keeps calls (empty.recordAll calls)) ∧
    ∀ text, match listing text with
      | .ok listed => ∃ b, load text = .ok b ∧ Loads listed b
      | .error fault => load text = .error fault := by
  refine ⟨fun calls => (holds_recordAll calls).keeps, fun text => ?_⟩
  rw [load_eq_map_listing]
  cases listing text with
  | ok listed => exact ⟨_, rfl, loads_recordings listed⟩
  | error fault => rfl

example :
    (empty.recordAll (recordings [
      ("q", [{ method := "GET", status := 200 }]),
      ("p", [{ method := "put", status := 201 }]),
      ("q", [{ method := "Get", status := 200, response := "old" },
             { method := "get", status := 404 },
             { method := "GET", status := 200, response := "new" }]),
      ("r", [])])).byPath.entries =
    [("p", [{ method := "put", status := 201 }]),
     ("q", [{ method := "get", status := 404 },
            { method := "get", status := 200, response := "new" }])] := by
  decide +kernel

end Batch

end SwaggerPress
