import SwaggerPress.Json.Basic
import SwaggerPress.Proofs.Lookup

/-!
    Canonical values. The members of a canonical object are the sorted map of the members as they
    were listed, each with its canonical value, the last of a name counting (`canonical_obj`). So
    `canonical` gives a canonical value, and leaves one that is canonical as it is: canonical values
    are the ones that stand for themselves. -/

namespace SwaggerPress.Json

theorem allCanonical_iff : ∀ {items : List Json},
    AllCanonical items ↔ ∀ v ∈ items, v.IsCanonical
  | [] => by simp [AllCanonical]
  | v :: rest => by rw [AllCanonical, allCanonical_iff, List.forall_mem_cons]

theorem allMembersCanonical_iff : ∀ {members : List (String × Json)},
    AllMembersCanonical members ↔ ∀ e ∈ members, e.2.IsCanonical
  | [] => by simp [AllMembersCanonical]
  | (name, v) :: rest => by
    rw [AllMembersCanonical, allMembersCanonical_iff, List.forall_mem_cons]

theorem isCanonical_arr {items : List Json} :
    (arr items).IsCanonical ↔ ∀ v ∈ items, v.IsCanonical := by
  rw [IsCanonical, allCanonical_iff]

theorem isCanonical_obj {members : List (String × Json)} :
    (obj members).IsCanonical ↔ Ascending members ∧ ∀ e ∈ members, e.2.IsCanonical := by
  rw [IsCanonical, allMembersCanonical_iff]

theorem canonicalItems_eq : ∀ items : List Json, canonicalItems items = items.map canonical
  | [] => rfl
  | v :: rest => by rw [canonicalItems, canonicalItems_eq rest, List.map_cons]

theorem canonicalMembers_eq : ∀ members : List (String × Json),
    canonicalMembers members = .ofList (members.map fun e => (e.1, e.2.canonical))
  | [] => rfl
  | (name, v) :: rest => by
    have hrest := canonicalMembers_eq rest
    have hlater : ∀ k, (canonicalMembers rest).get? k =
        firstUnder? k (rest.map fun e => (e.1, e.2.canonical)).reverse := by
      intro k; rw [hrest, SortedMap.get?_ofList]
    refine SortedMap.ext_get? fun k => ?_
    rw [SortedMap.get?_ofList, List.map_cons, List.reverse_cons, firstUnder?_append, ← hlater,
      canonicalMembers]
    by_cases hname : (canonicalMembers rest).contains name
    · rw [if_pos hname]
      by_cases hk : name = k
      · rw [SortedMap.contains, hk] at hname
        exact (Option.or_of_isSome hname).symm
      · rw [firstUnder?, if_neg hk]
        exact Option.or_none.symm
    · rw [if_neg hname, SortedMap.get?_insert]
      by_cases hk : k = name
      · rw [SortedMap.contains, ← hk, Option.not_isSome_iff_eq_none] at hname
        rw [if_pos hk, hname, firstUnder?, if_pos hk.symm, Option.none_or]
      · rw [if_neg hk, firstUnder?, if_neg (Ne.symm hk)]
        exact Option.or_none.symm

theorem canonical_arr (items : List Json) : (arr items).canonical = arr (items.map canonical) := by
  rw [canonical, canonicalItems_eq]

theorem canonical_obj (members : List (String × Json)) : (obj members).canonical =
    ofMap (.ofList (members.map fun e => (e.1, e.2.canonical))) := by
  rw [canonical, canonicalMembers_eq]; rfl

/-- What is found under a name of an object that lists no name twice. -/
theorem get?_canonicalMembers_of_nodup {members : List (String × Json)}
    (h : (members.map (·.1)).Nodup) (k : String) :
    (canonicalMembers members).get? k = (firstUnder? k members).map canonical := by
  have hnames : ((members.map fun e => (e.1, e.2.canonical)).map (·.1)).Nodup := by
    simpa [Function.comp_def] using h
  rw [canonicalMembers_eq, SortedMap.get?_ofList_of_nodup hnames]
  exact firstUnder?_map (fun _ => canonical) k members

mutual

theorem isCanonical_canonical : ∀ v : Json, v.canonical.IsCanonical
  | .arr items => by
    rw [canonical_arr, isCanonical_arr, List.forall_mem_map]
    exact isCanonical_items items
  | .obj members => by
    rw [canonical_obj, ofMap, isCanonical_obj]
    refine ⟨SortedMap.ascending _, fun e he => ?_⟩
    obtain ⟨e', he', rfl⟩ := List.mem_map.1 (SortedMap.mem_entries_ofList he)
    exact isCanonical_members members e' he'
  | .null | .bool _ | .int _ | .float _ | .str _ => trivial

theorem isCanonical_items : ∀ items : List Json, ∀ v ∈ items, v.canonical.IsCanonical
  | [] => by simp
  | v :: rest => by
    rw [List.forall_mem_cons]
    exact ⟨isCanonical_canonical v, isCanonical_items rest⟩

theorem isCanonical_members : ∀ members : List (String × Json),
    ∀ e ∈ members, e.2.canonical.IsCanonical
  | [] => by simp
  | (name, v) :: rest => by
    rw [List.forall_mem_cons]
    exact ⟨isCanonical_canonical v, isCanonical_members rest⟩

end

mutual

theorem canonical_of_isCanonical : ∀ {v : Json}, v.IsCanonical → v.canonical = v
  | .arr items, h => by
    rw [canonical_arr, map_canonical_items (isCanonical_arr.1 h)]
  | .obj members, h => by
    obtain ⟨hasc, hmembers⟩ := isCanonical_obj.1 h
    rw [canonical_obj, map_canonical_members hmembers, ofMap]
    exact congrArg (fun m => obj (SortedMap.entries m)) (SortedMap.ofList_entries ⟨members, hasc⟩)
  | .null, _ | .bool _, _ | .int _, _ | .float _, _ | .str _, _ => rfl

theorem map_canonical_items : ∀ {items : List Json}, (∀ v ∈ items, v.IsCanonical) →
    items.map canonical = items
  | [], _ => rfl
  | v :: rest, h => by
    rw [List.forall_mem_cons] at h
    rw [List.map_cons, canonical_of_isCanonical h.1, map_canonical_items h.2]

theorem map_canonical_members : ∀ {members : List (String × Json)},
    (∀ e ∈ members, e.2.IsCanonical) → members.map (fun e => (e.1, e.2.canonical)) = members
  | [], _ => rfl
  | (name, v) :: rest, h => by
    rw [List.forall_mem_cons] at h
    rw [List.map_cons, canonical_of_isCanonical h.1, map_canonical_members h.2]

end

end SwaggerPress.Json
