import SwaggerPress.Proofs.Json.Canonical

/-!
    Shapes of JSON values. A test is passed *everywhere* if the value and every value in it pass it.
    The two tests made of that are of numbers (`integral`: all of them whole and of 64 bits) and of
    names (`namesDistinct`: no object lists one twice); how deep containers enclose one another is
    `nestsWithin`.

        {"a": [1, {"b": 2}], "c": {}}     integral, namesDistinct, nestsWithin 3
        {"a": 0.5, "a": 1}                neither integral nor namesDistinct, nestsWithin 1      -/

namespace SwaggerPress.Json

mutual

/-- Whether a test holds of a value and of every value in it. -/
def everywhere (p : Json → Bool) : Json → Bool
  | .arr items => p (.arr items) && everywhereItems p items
  | .obj members => p (.obj members) && everywhereMembers p members
  | v => p v

def everywhereItems (p : Json → Bool) : List Json → Bool
  | [] => true
  | v :: rest => everywhere p v && everywhereItems p rest

def everywhereMembers (p : Json → Bool) : List (String × Json) → Bool
  | [] => true
  | (_, v) :: rest => everywhere p v && everywhereMembers p rest

end

/-- A number that is whole and fits 64 bits, with or without a sign; or no number. -/
def isWhole : Json → Bool
  | .int n => -0x8000000000000000 ≤ n && n ≤ 0xFFFFFFFFFFFFFFFF
  | .float _ => false
  | _ => true

/-- No name is listed twice by this object; or no object. -/
def listsOnce : Json → Bool
  | .obj members => (members.map (·.1)).Nodup
  | _ => true

/-- Whether all numbers in a value are whole and fit 64 bits. -/
def integral (v : Json) : Bool := v.everywhere isWhole

/-- Whether no object in a value lists a name twice. -/
def namesDistinct (v : Json) : Bool := v.everywhere listsOnce

/-- Whether no more than so many containers enclose one another. -/
def nestsWithin : Nat → Json → Bool
  | 0, .arr _ | 0, .obj _ => false
  | n + 1, .arr items => items.all (nestsWithin n)
  | n + 1, .obj members => members.all fun e => nestsWithin n e.2
  | _, _ => true

section
variable {p : Json → Bool}

theorem everywhereItems_iff {items : List Json} :
    everywhereItems p items ↔ ∀ v ∈ items, v.everywhere p := by
  induction items with
  | nil => simp [everywhereItems]
  | cons v rest ih => rw [everywhereItems, Bool.and_eq_true, ih, List.forall_mem_cons]

theorem everywhereMembers_iff {members : List (String × Json)} :
    everywhereMembers p members ↔ ∀ e ∈ members, e.2.everywhere p := by
  induction members with
  | nil => simp [everywhereMembers]
  | cons e rest ih => rw [everywhereMembers, Bool.and_eq_true, ih, List.forall_mem_cons]

theorem everywhere_arr {items : List Json} : (arr items).everywhere p ↔
    p (arr items) ∧ ∀ v ∈ items, v.everywhere p := by
  rw [everywhere, Bool.and_eq_true, everywhereItems_iff]

theorem everywhere_obj {members : List (String × Json)} : (obj members).everywhere p ↔
    p (obj members) ∧ ∀ e ∈ members, e.2.everywhere p := by
  rw [everywhere, Bool.and_eq_true, everywhereMembers_iff]

end

theorem integral_arr {items : List Json} : (arr items).integral ↔ ∀ v ∈ items, v.integral :=
  everywhere_arr.trans (and_iff_right rfl)

theorem integral_obj {members : List (String × Json)} :
    (obj members).integral ↔ ∀ e ∈ members, e.2.integral :=
  everywhere_obj.trans (and_iff_right rfl)

theorem namesDistinct_arr {items : List Json} :
    (arr items).namesDistinct ↔ ∀ v ∈ items, v.namesDistinct :=
  everywhere_arr.trans (and_iff_right rfl)

theorem namesDistinct_obj {members : List (String × Json)} : (obj members).namesDistinct ↔
    (members.map (·.1)).Nodup ∧ ∀ e ∈ members, e.2.namesDistinct :=
  everywhere_obj.trans (and_congr_left' (decide_eq_true_iff))

mutual

/-- A name cannot be listed twice in ascending order. -/
theorem namesDistinct_of_isCanonical : ∀ {v : Json}, v.IsCanonical → v.namesDistinct
  | .arr _, h => namesDistinct_arr.2 (namesDistinct_items (isCanonical_arr.1 h))
  | .obj _, h => by
    obtain ⟨hasc, hcan⟩ := isCanonical_obj.1 h
    have hnodup := SortedMap.nodup_keys ⟨_, hasc⟩
    exact namesDistinct_obj.2 ⟨hnodup, namesDistinct_members hcan⟩
  | .null, _ | .bool _, _ | .int _, _ | .float _, _ | .str _, _ => rfl

theorem namesDistinct_items : ∀ {items : List Json}, (∀ v ∈ items, v.IsCanonical) →
    ∀ v ∈ items, v.namesDistinct
  | [], _ => List.forall_mem_nil _
  | v :: rest, h => by
    rw [List.forall_mem_cons] at h ⊢
    exact ⟨namesDistinct_of_isCanonical h.1, namesDistinct_items h.2⟩

theorem namesDistinct_members : ∀ {members : List (String × Json)},
    (∀ e ∈ members, e.2.IsCanonical) → ∀ e ∈ members, e.2.namesDistinct
  | [], _ => List.forall_mem_nil _
  | (name, v) :: rest, h => by
    rw [List.forall_mem_cons] at h ⊢
    exact ⟨namesDistinct_of_isCanonical h.1, namesDistinct_members h.2⟩

end

end SwaggerPress.Json
