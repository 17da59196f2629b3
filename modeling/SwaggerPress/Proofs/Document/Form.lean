import SwaggerPress.Document.Decode
import SwaggerPress.Document.Encode
import SwaggerPress.Proofs.Json.Canonical
import SwaggerPress.Proofs.Outcome

/-!
    What a raw schema looks like, as data. A *form* says which values may stand in a place and how
    they are written back. The form of a record is its list of typed fields, each with what becomes
    of it where it is absent or blank; members that are no typed field are written back as they are.

        field          present                     absent
        refused        its normal form             no record
        filled v       its normal form             written as v
        dropped v      its normal form, but v      not written
                       is not written

    `Info.form` … `Document.form` are the forms of the six records. `Describes` says that a decoder
    accepts exactly what a form admits, and that what it decodes is written as the form says; it
    passes from items to lists, maps and optional values. -/

namespace SwaggerPress

open Json (asText asBool asOption asListOf asMapOf decodeItems decodeMembers field? fieldOr
  otherMembers canonical_of_isCanonical isCanonical_arr isCanonical_obj)

/-- The values that may stand in a place, and the form in which they are written back. -/
structure Form where
  Admits : Json → Prop
  normal : Json → Json

/-- A value that need not be written. -/
inductive Blank where
  | null
  | no
  | noItems
  | noMembers
  deriving DecidableEq

def Blank.json : Blank → Json
  | .null => .null
  | .no => .bool false
  | .noItems => .arr []
  | .noMembers => .obj []

/-- What becomes of a field without a value. -/
inductive Absence where
  | refused
  | filled (v : Json)
  | dropped (blank : Blank)
  deriving DecidableEq

/-- A typed field of a record. -/
structure Field where
  name : String
  form : Form
  absence : Absence

namespace Field

/-- What is written for a value. -/
def written? (f : Field) (v : Json) : Option Json :=
  match f.absence with
  | .dropped blank => if v = blank.json then none else some v
  | _ => some v

/-- What may be found under the name. -/
def Admits (f : Field) : Option Json → Prop
  | some v => f.form.Admits v
  | none => f.absence ≠ .refused

/-- What is written back for what is found under the name. -/
def normal? (f : Field) : Option Json → Option Json
  | some v => f.written? (f.form.normal v)
  | none => match f.absence with
    | .filled v => some v
    | _ => none

/-- The members with this field as it is written back. -/
def settle (f : Field) (members : List (String × Json)) : List (String × Json) :=
  match f.normal? (firstUnder? f.name members) with
  | some v => insertEntry f.name v members
  | none => members.filter fun e => e.1 ≠ f.name

end Field

namespace Form

def any : Form := ⟨fun _ => True, id⟩

def text : Form := ⟨fun v => ∃ s, v = .str s, id⟩

def flag : Form := ⟨fun v => ∃ b, v = .bool b, id⟩

def nullable (form : Form) : Form where
  Admits v := v = .null ∨ form.Admits v
  normal v := if v = .null then .null else form.normal v

def listOf (form : Form) : Form where
  Admits v := ∃ items, v = .arr items ∧ ∀ w ∈ items, form.Admits w
  normal
    | .arr items => .arr (items.map form.normal)
    | v => v

def mapOf (form : Form) : Form where
  Admits v := ∃ members, v = .obj members ∧ ∀ e ∈ members, form.Admits e.2
  normal
    | .obj members => .obj (members.map fun e => (e.1, form.normal e.2))
    | v => v

/-- One of several names, as text or as the only member of an object, without content. -/
def choice (names : List String) : Form where
  Admits v := ∃ name ∈ names, v = .str name ∨ v = .obj [(name, .null)]
  normal
    | .obj [(name, .null)] => .str name
    | v => v

def record (typed : List Field) : Form where
  Admits v := ∃ members, v = .obj members ∧ ∀ f ∈ typed, f.Admits (firstUnder? f.name members)
  normal
    | .obj members => .obj (typed.foldl (fun ms f => f.settle ms) members)
    | v => v

end Form

/-! ### The six records -/

def Info.typed : List Field := [
  ⟨"title", .text, .filled (.str "")⟩,
  ⟨"version", .text, .filled (.str "")⟩,
  ⟨"description", .nullable .text, .dropped .null⟩]

def Info.form : Form := .record Info.typed

def Tag.typed : List Field := [
  ⟨"name", .text, .refused⟩,
  ⟨"description", .nullable .text, .dropped .null⟩]

def Tag.form : Form := .record Tag.typed

def Parameter.typed : List Field := [
  ⟨"name", .text, .refused⟩,
  ⟨"in", .choice ["path", "query", "header", "body", "formData"], .refused⟩,
  ⟨"schema", .nullable .any, .dropped .null⟩]

def Parameter.form : Form := .record Parameter.typed

def Response.typed : List Field := [
  ⟨"description", .text, .filled (.str "")⟩,
  ⟨"examples", .mapOf .any, .dropped .noMembers⟩]

def Response.form : Form := .record Response.typed

def Operation.typed : List Field := [
  ⟨"summary", .nullable .text, .dropped .null⟩,
  ⟨"description", .nullable .text, .dropped .null⟩,
  ⟨"parameters", .listOf Parameter.form, .filled (.arr [])⟩,
  ⟨"responses", .mapOf Response.form, .filled (.obj [])⟩,
  ⟨"produces", .listOf .text, .dropped .noItems⟩,
  ⟨"deprecated", .flag, .dropped .no⟩]

def Operation.form : Form := .record Operation.typed

def Document.typed : List Field := [
  ⟨"info", Info.form, .filled (.obj [("title", .str ""), ("version", .str "")])⟩,
  ⟨"host", .nullable .text, .filled .null⟩,
  ⟨"schemes", .listOf .text, .filled (.arr [])⟩,
  ⟨"consumes", .listOf .text, .filled (.arr [])⟩,
  ⟨"tags", .listOf Tag.form, .refused⟩,
  ⟨"paths", .mapOf (.mapOf Operation.form), .refused⟩]

def Document.form : Form := .record Document.typed

/-! ### Forms that describe a decoder -/

/-- An optional value, written as null where it is absent. -/
def encodeOption {α : Type} (encode : α → Json) (o : Option α) : Json := (o.map encode).getD .null

def encodeList {α : Type} (encode : α → Json) (xs : List α) : Json := .arr (xs.map encode)

/-- A decoder accepts what a form admits, and what it decodes is written as the form says. -/
structure Form.Describes {α : Type} (form : Form) (decode : Json → Except Mismatch α)
    (encode : α → Json) : Prop where
  accepts (v : Json) : (∃ a, decode v = .ok a) ↔ form.Admits v
  normal {v : Json} {a : α} : v.IsCanonical → decode v = .ok a →
    (encode a).canonical = form.normal v

theorem decodeItems_eq_ok_iff {α : Type} {decode : Json → Except Mismatch α} :
    ∀ {items : List Json} {xs : List α}, decodeItems decode items = .ok xs ↔
      List.Forall₂ (fun v x => decode v = .ok x) items xs
  | [], xs => by
    cases xs <;> simp [decodeItems]
  | v :: rest, xs => by
    rw [decodeItems, bind_eq_ok_iff]
    simp only [bind_eq_ok_iff, decodeItems_eq_ok_iff, pure, Except.pure, Except.ok.injEq,
      List.forall₂_cons_left_iff]
    constructor
    · rintro ⟨x, hx, ys, hys, rfl⟩; exact ⟨x, ys, hx, hys, rfl⟩
    · rintro ⟨x, ys, hx, hys, rfl⟩; exact ⟨x, hx, ys, hys, rfl⟩

theorem decodeMembers_eq_ok_iff {α : Type} {decode : Json → Except Mismatch α} :
    ∀ {members : List (String × Json)} {xs : List (String × α)},
      decodeMembers decode members = .ok xs ↔
        List.Forall₂ (fun e x => e.1 = x.1 ∧ decode e.2 = .ok x.2) members xs
  | [], xs => by
    cases xs <;> simp [decodeMembers]
  | (name, v) :: rest, xs => by
    rw [decodeMembers, bind_eq_ok_iff]
    simp only [bind_eq_ok_iff, decodeMembers_eq_ok_iff, pure, Except.pure, Except.ok.injEq,
      List.forall₂_cons_left_iff]
    constructor
    · rintro ⟨x, hx, ys, hys, rfl⟩; exact ⟨(name, x), ys, ⟨rfl, hx⟩, hys, rfl⟩
    · rintro ⟨⟨_, x⟩, ys, ⟨rfl, hx⟩, hys, rfl⟩; exact ⟨x, hx, ys, hys, rfl⟩

/-- Every item of a list has a partner exactly if a whole list of partners exists. -/
theorem exists_forall₂_iff {α β : Type} {R : α → β → Prop} :
    ∀ {xs : List α}, (∃ ys, List.Forall₂ R xs ys) ↔ ∀ x ∈ xs, ∃ y, R x y
  | [] => by simp
  | x :: xs => by
    rw [List.forall_mem_cons, ← exists_forall₂_iff]
    simp only [List.forall₂_cons_left_iff]
    constructor
    · rintro ⟨_, y, ys, hy, hys, -⟩; exact ⟨⟨y, hy⟩, ys, hys⟩
    · rintro ⟨⟨y, hy⟩, ys, hys⟩; exact ⟨_, y, ys, hy, hys, rfl⟩

theorem exists_partner {α β : Type} {R : α → β → Prop} {xs : List α} {ys : List β}
    (h : List.Forall₂ R xs ys) {y : β} (hy : y ∈ ys) : ∃ x ∈ xs, R x y := by
  induction h with
  | nil => exact absurd hy List.not_mem_nil
  | @cons x z xs ys hxz _ ih =>
    rcases List.mem_cons.1 hy with rfl | hy
    · exact ⟨x, List.mem_cons_self, hxz⟩
    · obtain ⟨w, hw, hwy⟩ := ih hy
      exact ⟨w, List.mem_cons_of_mem _ hw, hwy⟩

namespace Form

theorem describes_any : any.Describes .ok id where
  accepts v := by simp [any]
  normal := by
    intro v a hv h
    cases h
    exact canonical_of_isCanonical hv

theorem describes_text : text.Describes asText .str where
  accepts v := by cases v <;> simp [text, asText, Json.refuse]
  normal := by
    intro v a _ h
    cases v <;> cases h
    rfl

theorem describes_wording : text.Describes Wording.decode Wording.toJson where
  accepts v := by cases v <;> simp [text, Wording.decode, asText, Json.refuse, Except.map]
  normal := by
    intro v a _ h
    cases v <;> cases h
    rfl

theorem describes_flag : flag.Describes asBool .bool where
  accepts v := by cases v <;> simp [flag, asBool, Json.refuse]
  normal := by
    intro v a _ h
    cases v <;> cases h
    rfl

section
variable {α : Type} {form : Form} {decode : Json → Except Mismatch α} {encode : α → Json}

theorem asOption_eq_ok_iff {v : Json} {o : Option α} : asOption decode v = .ok o ↔
    if v = .null then o = none else ∃ a, decode v = .ok a ∧ o = some a := by
  cases v <;> simp [asOption, map_eq_ok_iff, eq_comm (a := o)]

theorem Describes.nullable (h : form.Describes decode encode) :
    form.nullable.Describes (asOption decode) (encodeOption encode) where
  accepts v := by
    by_cases hv : v = .null
    · simp [asOption_eq_ok_iff, hv, Form.nullable]
    · simp [asOption_eq_ok_iff, hv, Form.nullable, ← h.accepts v]
  normal := by
    intro v o hcan ho
    rw [asOption_eq_ok_iff] at ho
    by_cases hv : v = .null
    · rw [if_pos hv] at ho
      simp [ho, hv, Form.nullable, Json.canonical, encodeOption]
    · rw [if_neg hv] at ho
      obtain ⟨a, ha, rfl⟩ := ho
      simpa [Form.nullable, hv, encodeOption] using h.normal hcan ha

theorem Describes.listOf (h : form.Describes decode encode) :
    form.listOf.Describes (asListOf decode) (encodeList encode) where
  accepts v := by
    cases v with
    | arr items =>
      simp only [asListOf, decodeItems_eq_ok_iff, exists_forall₂_iff, h.accepts, Form.listOf,
        Json.arr.injEq, exists_eq_left']
    | _ => simp [asListOf, Json.refuse, Form.listOf]
  normal := by
    intro v xs hv hxs
    cases v with
    | arr items =>
      have hitems := decodeItems_eq_ok_iff.1 hxs
      have hcan := isCanonical_arr.1 hv
      simp only [encodeList, Json.canonical_arr, Form.listOf, Json.arr.injEq, List.map_map]
      clear hv hxs
      induction hitems with
      | nil => rfl
      | @cons v x items xs hvx _ ih =>
        rw [List.forall_mem_cons] at hcan
        rw [List.map_cons, List.map_cons, Function.comp_apply, h.normal hcan.1 hvx, ih hcan.2]
    | _ => simp [asListOf, Json.refuse] at hxs

theorem canonical_encodeMap (encode : α → Json) (m : SortedMap α) :
    (encodeMap encode m).canonical = encodeMap (fun a => (encode a).canonical) m := by
  have hasc : Ascending (m.entries.map fun e => (e.1, (encode e.2).canonical)) :=
    m.ascending.map fun _ a => (encode a).canonical
  rw [encodeMap, Json.ofMap, Json.canonical_obj, Json.ofMap]
  simp only [SortedMap.map, SortedMap.entries_mapWithKey, List.map_map, Function.comp_def]
  rw [SortedMap.entries_ofList_of_ascending hasc]
  rfl

theorem Describes.mapOf (h : form.Describes decode encode) :
    form.mapOf.Describes (asMapOf decode) (encodeMap encode) where
  accepts v := by
    cases v with
    | obj members =>
      simp only [asMapOf, map_eq_ok_iff, Form.mapOf, Json.obj.injEq, exists_eq_left']
      have hmembers : (∃ xs, decodeMembers decode members = .ok xs) ↔
          ∀ e ∈ members, form.Admits e.2 := by
        simp only [decodeMembers_eq_ok_iff, exists_forall₂_iff, ← h.accepts]
        refine forall₂_congr fun e _ => ⟨?_, ?_⟩
        · rintro ⟨x, -, hx⟩; exact ⟨x.2, hx⟩
        · rintro ⟨a, ha⟩; exact ⟨(e.1, a), rfl, ha⟩
      rw [← hmembers]
      constructor
      · rintro ⟨_, xs, hxs, -⟩; exact ⟨xs, hxs⟩
      · rintro ⟨xs, hxs⟩; exact ⟨_, xs, hxs, rfl⟩
    | _ => simp [asMapOf, Json.refuse, Form.mapOf]
  normal := by
    intro v m hv hm
    cases v with
    | obj members =>
      rw [asMapOf, map_eq_ok_iff] at hm
      obtain ⟨xs, hxs, rfl⟩ := hm
      have hmembers := decodeMembers_eq_ok_iff.1 hxs
      obtain ⟨hasc, hcan⟩ := isCanonical_obj.1 hv
      have hnames : xs.map (·.1) = members.map (·.1) := by
        clear hxs hasc hcan hv
        induction hmembers with
        | nil => rfl
        | cons hvx _ ih => rw [List.map_cons, List.map_cons, ih, hvx.1]
      have hxasc : Ascending xs := by
        rw [ascending_iff_names, hnames]
        exact ascending_iff_names.1 hasc
      rw [canonical_encodeMap, encodeMap, Json.ofMap]
      simp only [SortedMap.map, SortedMap.entries_mapWithKey, Form.mapOf, Json.obj.injEq,
        SortedMap.entries_ofList_of_ascending hxasc]
      clear hnames hxasc hasc hv hxs
      induction hmembers with
      | nil => rfl
      | @cons e x members xs hvx _ ih =>
        rw [List.forall_mem_cons] at hcan
        rw [List.map_cons, List.map_cons, h.normal hcan.1 hvx.2, hvx.1, ih hcan.2]
    | _ => simp [asMapOf, Json.refuse] at hm

end

end Form

end SwaggerPress
