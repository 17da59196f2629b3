import Mathlib.Data.List.Induction
import Mathlib.Data.List.Nodup
import SwaggerPress.SortedMap

/-!
    A sorted map through its look-ups. A name is looked up as `some v` exactly when the entry is
    listed (`get?_eq_some_iff`), every operation is one equation on look-ups, and two maps with the
    same look-ups are the same map (`ext_get?`), so what is proved below a name holds of the map.

        (m.insert n v).get? k   =   some v     if k = n
                                    m.get? k   otherwise -/

namespace SwaggerPress

universe u v w

variable {α : Type u} {β : Type v}

theorem firstUnder?_insertEntry (name : String) (value : α) (k : String) :
    ∀ entries : List (String × α), firstUnder? k (insertEntry name value entries) =
      if k = name then some value else firstUnder? k entries
  | [] => by simp only [insertEntry, firstUnder?, eq_comm]
  | (n, v) :: rest => by
    have ih := firstUnder?_insertEntry name value k rest
    by_cases hlt : name < n
    · rw [insertEntry, if_pos hlt, firstUnder?]
      simp only [eq_comm]
    · by_cases heq : name = n
      · subst heq
        rw [insertEntry, if_neg hlt, if_pos rfl, firstUnder?, firstUnder?]
        by_cases hk : name = k
        · rw [if_pos hk, if_pos hk.symm]
        · rw [if_neg hk, if_neg hk, if_neg (Ne.symm hk)]
      · rw [insertEntry, if_neg hlt, if_neg heq, firstUnder?, firstUnder?, ih]
        by_cases hk : n = k
        · have hne : k ≠ name := fun h => heq (h.symm.trans hk.symm)
          rw [if_pos hk, if_pos hk, if_neg hne]
        · rw [if_neg hk, if_neg hk]

theorem firstUnder?_map (f : String → α → β) (k : String) :
    ∀ entries : List (String × α), firstUnder? k (entries.map fun e => (e.1, f e.1 e.2)) =
      (firstUnder? k entries).map (f k)
  | [] => rfl
  | (n, v) :: rest => by
    simp only [List.map_cons, firstUnder?, firstUnder?_map f k rest]
    by_cases hk : n = k
    · subst hk; simp
    · simp only [if_neg hk]

/-- A test of the names either keeps all that is listed under a name, or nothing. -/
theorem firstUnder?_filter_name (p : String → Bool) (k : String) :
    ∀ entries : List (String × α), firstUnder? k (entries.filter fun e => p e.1) =
      if p k then firstUnder? k entries else none
  | [] => by simp [firstUnder?]
  | (n, v) :: rest => by
    have ih := firstUnder?_filter_name p k rest
    by_cases hn : p n
    · rw [List.filter_cons_of_pos (by exact hn), firstUnder?, firstUnder?, ih]
      by_cases hk : n = k
      · rw [if_pos hk, if_pos hk, if_pos (hk ▸ hn)]
      · rw [if_neg hk, if_neg hk]
    · rw [List.filter_cons_of_neg (by exact hn), ih, firstUnder?]
      by_cases hk : n = k
      · rw [if_neg (hk ▸ hn), if_neg (hk ▸ hn)]
      · rw [if_neg hk]

theorem firstUnder?_filter (names : List String) (k : String) (entries : List (String × α)) :
    firstUnder? k (entries.filter fun e => !names.contains e.1) =
      if k ∈ names then none else firstUnder? k entries := by
  rw [firstUnder?_filter_name fun n => !names.contains n]
  by_cases hk : k ∈ names
  · rw [if_pos hk, if_neg (by simpa using hk)]
  · rw [if_neg hk, if_pos (by simpa using hk)]

theorem mem_of_firstUnder? {k : String} {value : α} :
    ∀ {entries : List (String × α)}, firstUnder? k entries = some value → (k, value) ∈ entries
  | (n, v) :: rest, h => by
    rw [firstUnder?] at h
    by_cases hk : n = k
    · rw [if_pos hk, Option.some.injEq] at h
      exact hk ▸ h ▸ List.mem_cons_self
    · rw [if_neg hk] at h
      exact List.mem_cons_of_mem _ (mem_of_firstUnder? h)

theorem firstUnder?_append (k : String) (ys : List (String × α)) :
    ∀ xs : List (String × α), firstUnder? k (xs ++ ys) = (firstUnder? k xs).or (firstUnder? k ys)
  | [] => rfl
  | (n, v) :: xs => by
    rw [List.cons_append, firstUnder?, firstUnder?, firstUnder?_append k ys xs]
    split <;> rfl

theorem firstUnder?_eq_none_iff {k : String} :
    ∀ {entries : List (String × α)}, firstUnder? k entries = none ↔ k ∉ entries.map (·.1)
  | [] => by simp [firstUnder?]
  | (n, v) :: rest => by
    rw [firstUnder?, List.map_cons, List.mem_cons, not_or, ← firstUnder?_eq_none_iff]
    by_cases hk : n = k
    · simp [hk]
    · simp [hk, Ne.symm hk]

/-- Where no name is listed twice, every listed entry is found. -/
theorem firstUnder?_of_mem_of_nodup {k : String} {value : α} :
    ∀ {entries : List (String × α)}, (entries.map (·.1)).Nodup → (k, value) ∈ entries →
      firstUnder? k entries = some value
  | (n, v) :: rest, h, hmem => by
    rw [List.map_cons, List.nodup_cons] at h
    rw [firstUnder?]
    rcases List.mem_cons.1 hmem with heq | hrest
    · cases heq; rw [if_pos rfl]
    · have hne : n ≠ k := fun heq => h.1 (heq ▸ List.mem_map.2 ⟨_, hrest, rfl⟩)
      rw [if_neg hne, firstUnder?_of_mem_of_nodup h.2 hrest]

/-- In ascending order no name is listed twice. -/
theorem Ascending.nodup_names {entries : List (String × α)} (h : Ascending entries) :
    (entries.map (·.1)).Nodup := by
  refine List.Pairwise.imp ?_ (List.pairwise_map.2 h)
  rintro a b hab rfl
  exact String.lt_irrefl _ hab

theorem Ascending.firstUnder?_of_mem {k : String} {value : α} {entries : List (String × α)}
    (h : Ascending entries) (hmem : (k, value) ∈ entries) : firstUnder? k entries = some value :=
  firstUnder?_of_mem_of_nodup h.nodup_names hmem

/-- Where no name is listed twice, the order of the entries does not matter. -/
theorem firstUnder?_perm (k : String) {xs ys : List (String × α)} (hperm : xs.Perm ys)
    (h : (xs.map (·.1)).Nodup) : firstUnder? k xs = firstUnder? k ys := by
  have hnames : (ys.map (·.1)).Nodup := (hperm.map _).nodup_iff.1 h
  cases hx : firstUnder? k xs with
  | some value =>
    exact (firstUnder?_of_mem_of_nodup hnames (hperm.subset (mem_of_firstUnder? hx))).symm
  | none =>
    rw [eq_comm, firstUnder?_eq_none_iff, ← (hperm.map (·.1)).mem_iff]
    exact firstUnder?_eq_none_iff.1 hx

theorem ascending_iff_names {entries : List (String × α)} :
    Ascending entries ↔ (entries.map (·.1)).Pairwise (· < ·) :=
  List.pairwise_map.symm

/-- Of the entries of an ascending list that get one name the last one counts. -/
theorem firstUnder?_reverse_rename (rename : String → String) (f : String × α → β) {k : String}
    {value : β} {entries : List (String × α)} (h : Ascending entries) :
    firstUnder? k (entries.map fun e => (rename e.1, f e)).reverse = some value ↔
      ∃ e ∈ entries, rename e.1 = k ∧ (∀ other ∈ entries, rename other.1 = k → other.1 ≤ e.1) ∧
        f e = value := by
  induction entries using List.reverseRecOn with
  | nil => simp [firstUnder?]
  | append_singleton entries e ih =>
    obtain ⟨hentries, -, hlast⟩ := List.pairwise_append.1 h
    have hle : ∀ other ∈ entries, other.1 < e.1 := fun other hother =>
      hlast other hother e List.mem_cons_self
    rw [List.map_append, List.map_singleton, List.reverse_append, List.reverse_singleton,
      List.singleton_append, firstUnder?]
    by_cases hk : rename e.1 = k
    · -- the last entry gets the name, so it is the greatest one that does
      rw [if_pos hk, Option.some.injEq]
      constructor
      · rintro rfl
        refine ⟨e, by simp, hk, fun other hother _ => ?_, rfl⟩
        rcases List.mem_append.1 hother with hother | hother
        · exact String.not_lt.1 (String.lt_asymm (hle other hother))
        · obtain rfl := List.mem_singleton.1 hother
          exact String.le_refl _
      · rintro ⟨e', he', -, hgreatest, rfl⟩
        rcases List.mem_append.1 he' with he' | he'
        · exact absurd (hle e' he') (String.not_lt.2 (hgreatest e (by simp) hk))
        · rw [List.mem_singleton.1 he']
    · rw [if_neg hk, ih hentries]
      constructor
      · rintro ⟨e', he', hname, hgreatest, rfl⟩
        refine ⟨e', List.mem_append_left _ he', hname, fun other hother hother' => ?_, rfl⟩
        rcases List.mem_append.1 hother with hother | hother
        · exact hgreatest other hother hother'
        · rw [List.mem_singleton.1 hother] at hother'
          exact absurd hother' hk
      · rintro ⟨e', he', hname, hgreatest, rfl⟩
        rcases List.mem_append.1 he' with he' | he'
        · exact ⟨e', he', hname, fun other hother => hgreatest other (List.mem_append_left _ hother),
            rfl⟩
        · rw [List.mem_singleton.1 he'] at hname
          exact absurd hname hk

theorem Ascending.nodup {entries : List (String × α)} (h : Ascending entries) : entries.Nodup :=
  h.nodup_names.of_map

/-- Ascending lists of the same entries are the same list. -/
theorem Ascending.eq_of_mem_iff {xs ys : List (String × α)} (hx : Ascending xs) (hy : Ascending ys)
    (h : ∀ e, e ∈ xs ↔ e ∈ ys) : xs = ys := by
  have hperm : xs.Perm ys := (List.perm_ext_iff_of_nodup hx.nodup hy.nodup).2 h
  refine List.Perm.eq_of_pairwise (fun a b _ _ hab hba => ?_) hx hy hperm
  exact absurd (String.lt_trans hab hba) (String.lt_irrefl _)

/-- In a list over distinct names that is empty but for one of them, only that one shows. -/
theorem flatMap_eq_of_nodup {f : String → List α} {name : String} :
    ∀ {names : List String}, names.Nodup → name ∈ names → (∀ n, n ≠ name → f n = []) →
      names.flatMap f = f name
  | n :: names, hnodup, hmem, hf => by
    rw [List.nodup_cons] at hnodup
    rw [List.flatMap_cons]
    have hrest : name ∉ names → names.flatMap f = [] := by
      intro h
      refine List.flatMap_eq_nil_iff.2 fun k hk => hf k ?_
      rintro rfl; exact h hk
    by_cases hn : n = name
    · subst hn; rw [hrest hnodup.1, List.append_nil]
    · have hmem' : name ∈ names := (List.mem_cons.1 hmem).resolve_left (Ne.symm hn)
      rw [hf n hn, List.nil_append, flatMap_eq_of_nodup hnodup.2 hmem' hf]

namespace SortedMap

theorem get?_insert (m : SortedMap α) (name : String) (value : α) (k : String) :
    (m.insert name value).get? k = if k = name then some value else m.get? k :=
  firstUnder?_insertEntry name value k m.entries

@[simp] theorem get?_insert_self (m : SortedMap α) (name : String) (value : α) :
    (m.insert name value).get? name = some value := by
  rw [get?_insert, if_pos rfl]

theorem get?_insert_of_ne (m : SortedMap α) {name k : String} (value : α) (h : k ≠ name) :
    (m.insert name value).get? k = m.get? k := by
  rw [get?_insert, if_neg h]

@[simp] theorem get?_mapWithKey (m : SortedMap α) (f : String → α → β) (k : String) :
    (m.mapWithKey f).get? k = (m.get? k).map (f k) :=
  firstUnder?_map f k m.entries

@[simp] theorem get?_map (m : SortedMap α) (f : α → β) (k : String) :
    (m.map f).get? k = (m.get? k).map f :=
  m.get?_mapWithKey (fun _ => f) k

theorem get?_filter (m : SortedMap α) (p : String → Bool) (k : String) :
    (m.filter fun n _ => p n).get? k = if p k then m.get? k else none :=
  firstUnder?_filter_name p k m.entries

theorem get?_eq_some_iff {m : SortedMap α} {k : String} {value : α} :
    m.get? k = some value ↔ (k, value) ∈ m.entries :=
  ⟨mem_of_firstUnder?, m.ascending.firstUnder?_of_mem⟩

theorem mem_keys_iff {m : SortedMap α} {k : String} : k ∈ m.keys ↔ ∃ a, m.get? k = some a := by
  constructor
  · intro h
    obtain ⟨⟨n, a⟩, hmem, rfl⟩ := List.mem_map.1 h
    exact ⟨a, get?_eq_some_iff.2 hmem⟩
  · rintro ⟨a, ha⟩
    exact List.mem_map.2 ⟨(k, a), get?_eq_some_iff.1 ha, rfl⟩

theorem nodup_keys (m : SortedMap α) : m.keys.Nodup := m.ascending.nodup_names

/-- A map is what is looked up in it. -/
theorem ext_get? {m n : SortedMap α} (h : ∀ k, m.get? k = n.get? k) : m = n := by
  refine ext (m.ascending.eq_of_mem_iff n.ascending fun e => ?_)
  obtain ⟨k, value⟩ := e
  rw [← get?_eq_some_iff, ← get?_eq_some_iff, h k]

/-- Of all entries under a name the last counts. -/
theorem get?_insertAll (k : String) : ∀ (entries : List (String × α)) (m : SortedMap α),
    (m.insertAll entries).get? k = (firstUnder? k entries.reverse).or (m.get? k)
  | [], _ => rfl
  | (n, v) :: rest, m => by
    have hrest := get?_insertAll k rest (m.insert n v)
    rw [insertAll, List.foldl_cons, ← insertAll, hrest, get?_insert, List.reverse_cons,
      firstUnder?_append, Option.or_assoc, firstUnder?]
    by_cases hk : n = k
    · rw [if_pos hk, if_pos hk.symm, Option.some_or]
    · rw [if_neg hk, if_neg (Ne.symm hk)]; rfl

theorem entries_insertAll : ∀ (entries : List (String × α)) (m : SortedMap α),
    (m.insertAll entries).entries =
      entries.foldl (fun taken e => insertEntry e.1 e.2 taken) m.entries
  | [], _ => rfl
  | (n, v) :: rest, m => entries_insertAll rest (m.insert n v)

theorem get?_ofList (entries : List (String × α)) (k : String) :
    (ofList entries).get? k = firstUnder? k entries.reverse := by
  rw [ofList, get?_insertAll]
  exact Option.or_none

theorem get?_ofList_of_nodup {entries : List (String × α)} (h : (entries.map (·.1)).Nodup)
    (k : String) : (ofList entries).get? k = firstUnder? k entries := by
  rw [get?_ofList]
  exact (firstUnder?_perm k entries.reverse_perm.symm h).symm

theorem mem_keys_ofList {entries : List (String × α)} {k : String} :
    k ∈ (ofList entries).keys ↔ k ∈ entries.map (·.1) := by
  rw [mem_keys_iff, ← Option.isSome_iff_exists, get?_ofList, Option.isSome_iff_ne_none, ne_eq,
    firstUnder?_eq_none_iff, not_not, List.map_reverse, List.mem_reverse]

/-- The entries of a map that is made of a list are listed there. -/
theorem mem_entries_ofList {entries : List (String × α)} {e : String × α}
    (h : e ∈ (ofList entries).entries) : e ∈ entries := by
  have hget := get?_eq_some_iff.2 h
  rw [get?_ofList] at hget
  exact List.mem_reverse.1 (mem_of_firstUnder? hget)

theorem ofList_entries (m : SortedMap α) : ofList m.entries = m :=
  ext_get? fun k => get?_ofList_of_nodup m.nodup_keys k

theorem entries_ofList_of_ascending {entries : List (String × α)} (h : Ascending entries) :
    (ofList entries).entries = entries :=
  congrArg SortedMap.entries (ofList_entries ⟨entries, h⟩)

/-- Every value passes a test. -/
def All (P : α → Prop) (m : SortedMap α) : Prop := ∀ e ∈ m.entries, P e.2

section
variable {P : α → Prop} {Q : β → Prop} {m : SortedMap α}

theorem all_empty : (empty : SortedMap α).All P := fun _ he => absurd he List.not_mem_nil

theorem All.get? (h : m.All P) {k : String} {value : α} (hk : m.get? k = some value) : P value :=
  h (k, value) (get?_eq_some_iff.1 hk)

theorem All.insert (h : m.All P) (name : String) {value : α} (hvalue : P value) :
    (m.insert name value).All P := by
  intro e he
  rcases mem_insertEntry he with rfl | he
  · exact hvalue
  · exact h e he

theorem All.mapWithKey (h : m.All P) {f : String → α → β}
    (hf : ∀ k a, (k, a) ∈ m.entries → P a → Q (f k a)) : (m.mapWithKey f).All Q := by
  intro e he
  obtain ⟨⟨k, a⟩, hmem, rfl⟩ := List.mem_map.1 he
  exact hf k a hmem (h _ hmem)

theorem all_ofList {entries : List (String × α)} (h : ∀ e ∈ entries, P e.2) :
    (ofList entries).All P :=
  fun e he => h e (mem_entries_ofList he)

end

theorem mapWithKey_id (m : SortedMap α) : (m.mapWithKey fun _ a => a) = m :=
  ext (by simp)

/-- Only what is in the map is changed. -/
theorem mapWithKey_congr {m : SortedMap α} {f g : String → α → β}
    (h : ∀ k a, m.get? k = some a → f k a = g k a) : m.mapWithKey f = m.mapWithKey g := by
  refine ext_get? fun k => ?_
  rw [get?_mapWithKey, get?_mapWithKey]
  cases hk : m.get? k with
  | none => rfl
  | some a => rw [Option.map_some, Option.map_some, h k a hk]

theorem mapWithKey_mapWithKey {γ : Type w} (m : SortedMap α) (f : String → α → β)
    (g : String → β → γ) : (m.mapWithKey f).mapWithKey g = m.mapWithKey fun k a => g k (f k a) :=
  ext (by simp [Function.comp_def])

end SortedMap

end SwaggerPress
