import SwaggerPress.Proofs.Document.Decoding
import SwaggerPress.Proofs.Merge.Absorb

/-!
    Where in a raw schema something stands. A *place* is the names of the members that lead there,
    from the outside in. Records and maps are read from their members, so whatever a document holds
    stands in the raw schema it was read from, the value of an example under seven names
    (`Document.has_example`):

        paths ▸ template ▸ method ▸ responses ▸ status ▸ examples ▸ content type -/

namespace SwaggerPress

open Json (asMapOf field? fieldOr)

namespace Json

/-- A value has another at a place. -/
inductive Has : Json → List String → Json → Prop where
  | here (v : Json) : Has v [] v
  | under {members : List (String × Json)} {name : String} {v w : Json} {place : List String} :
    (name, v) ∈ members → v.Has place w → Has (.obj members) (name :: place) w

theorem Has.member {members : List (String × Json)} {name : String} {v : Json}
    (h : (name, v) ∈ members) : (obj members).Has [name] v :=
  .under h (.here v)

theorem Has.trans {u v w : Json} {place further : List String} (h : u.Has place v)
    (h' : v.Has further w) : u.Has (place ++ further) w := by
  induction h with
  | here v => exact h'
  | under hmem _ ih => exact .under hmem (ih h')

section
variable {α : Type} {decode : Json → Except Mismatch α} {a : α}

/-- What a map has under a name was decoded from the value there. -/
theorem has_of_asMapOf {v : Json} {m : SortedMap α} {name : String}
    (h : asMapOf decode v = .ok m) (hget : m.get? name = some a) :
    ∃ w, v.Has [name] w ∧ decode w = .ok a := by
  cases v with
  | obj members =>
    obtain ⟨entries, hentries, rfl⟩ := map_eq_ok_iff.1 h
    have hmem := SortedMap.mem_entries_ofList (SortedMap.get?_eq_some_iff.1 hget)
    obtain ⟨⟨_, w⟩, hw, rfl, hdecode⟩ := exists_partner (decodeMembers_eq_ok_iff.1 hentries) hmem
    exact ⟨w, .member hw, hdecode⟩
  | _ => nomatch h

variable {members : List (String × Json)} {name : String}

theorem has_of_field? (h : field? name decode members = .ok (some a)) :
    ∃ w, (obj members).Has [name] w ∧ decode w = .ok a := by
  obtain ⟨w, hget, hdecode⟩ := field?_eq_ok_some_iff.1 h
  exact ⟨w, .member (mem_of_firstUnder? hget), hdecode⟩

/-- A field that is not as if it were absent is there. -/
theorem has_of_fieldOr {absent : α} (h : fieldOr name absent decode members = .ok a)
    (hne : a ≠ absent) : ∃ w, (obj members).Has [name] w ∧ decode w = .ok a := by
  rw [fieldOr_eq_ok_iff] at h
  cases hget : firstUnder? name members with
  | none => rw [hget] at h; exact absurd h.symm hne
  | some w => rw [hget] at h; exact ⟨w, .member (mem_of_firstUnder? hget), h⟩

end

/-- A map with something under a name is not empty. -/
theorem has_of_mapField {α : Type} {decode : Json → Except Mismatch α} {a : α}
    {members : List (String × Json)} {field name : String} {m : SortedMap α}
    (h : fieldOr field .empty (asMapOf decode) members = .ok m) (hget : m.get? name = some a) :
    ∃ w, (obj members).Has [field, name] w ∧ decode w = .ok a := by
  have hne : m ≠ .empty := by
    rintro rfl
    exact nomatch hget
  obtain ⟨w, hw, hm⟩ := has_of_fieldOr h hne
  obtain ⟨x, hx, hdecode⟩ := has_of_asMapOf hm hget
  exact ⟨x, hw.trans hx, hdecode⟩

end Json

open Json (has_of_asMapOf has_of_field? has_of_mapField)

theorem Operation.has_example {v w : Json} {o : Operation} {status contentType : String}
    (h : Operation.decode v = .ok o) (hw : o.exampleAt? status contentType = some w) :
    v.Has ["responses", status, "examples", contentType] w := by
  obtain ⟨members, rfl, -, -, -, hresponses, -⟩ := Operation.decode_eq_ok_iff.1 h
  obtain ⟨r, hr, hexample⟩ := Option.bind_eq_some_iff.1 hw
  obtain ⟨response, hresponse, hdecode⟩ := has_of_mapField hresponses hr
  obtain ⟨members', rfl, -, hexamples, -⟩ := Response.decode_eq_ok_iff.1 hdecode
  obtain ⟨x, hx, hsame⟩ := has_of_mapField hexamples hexample
  cases hsame
  exact hresponse.trans hx

/-- The value of an example stands in the raw schema that the document was read from. -/
theorem Document.has_example {raw w : Json} {d : Document} {o : Operation}
    {template method status contentType : String} (h : Document.ofRaw raw = .ok d)
    (ho : d.operation? template method = some o)
    (hw : o.exampleAt? status contentType = some w) :
    raw.Has ["paths", template, method, "responses", status, "examples", contentType] w := by
  obtain ⟨members, rfl, -, -, -, -, -, hpaths, -⟩ :=
    Document.decode_eq_ok_iff.1 (Document.ofRaw_eq_ok_iff.1 h)
  obtain ⟨item, hitem, hmethod⟩ := Option.bind_eq_some_iff.1 ho
  obtain ⟨paths, hplace, hdecode⟩ := has_of_field? hpaths
  obtain ⟨operations, hoperations, hdecode⟩ := has_of_asMapOf hdecode hitem
  obtain ⟨operation, hoperation, hdecode⟩ := has_of_asMapOf hdecode hmethod
  exact hplace.trans (hoperations.trans (hoperation.trans (Operation.has_example hdecode hw)))

end SwaggerPress
