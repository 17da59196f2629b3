/-!
    A *sorted map* is the finite map that a Swagger document is made of: names to values, listed in
    ascending code-point order of the names. The order lives in the type, so two maps with the same
    look-ups are the same map and every traversal is the published order.

        insert "b" y   [a ↦ x, c ↦ z]   =   [a ↦ x, b ↦ y, c ↦ z]
        insert "a" y   [a ↦ x, c ↦ z]   =   [a ↦ y, c ↦ z]

    `insertEntry` is the same operation on a bare list of entries; it is total on any list and keeps
    ascending ones ascending (`Ascending.insertEntry`). -/

namespace SwaggerPress

universe u v

/-- The names of the entries strictly ascend. -/
def Ascending {α : Type u} (entries : List (String × α)) : Prop :=
  entries.Pairwise (fun a b => a.1 < b.1)

instance {α : Type u} (entries : List (String × α)) : Decidable (Ascending entries) :=
  inferInstanceAs (Decidable (entries.Pairwise _))

/-- Puts a value under a name at its place, over an older value of that name. -/
def insertEntry {α : Type u} (name : String) (value : α) :
    List (String × α) → List (String × α)
  | [] => [(name, value)]
  | (n, v) :: rest =>
    if name < n then (name, value) :: (n, v) :: rest
    else if name = n then (name, value) :: rest
    else (n, v) :: insertEntry name value rest

/-- The first value under a name. -/
def firstUnder? {α : Type u} (name : String) : List (String × α) → Option α
  | [] => none
  | (n, v) :: rest => if n = name then some v else firstUnder? name rest

theorem mem_insertEntry {α : Type u} {name : String} {value : α} {e : String × α} :
    ∀ {entries : List (String × α)},
      e ∈ insertEntry name value entries → e = (name, value) ∨ e ∈ entries
  | [], h => by simpa [insertEntry] using h
  | (n, v) :: rest, h => by
    unfold insertEntry at h
    split at h
    · simpa using h
    · split at h
      · rcases List.mem_cons.1 h with h | h
        · exact .inl h
        · exact .inr (List.mem_cons_of_mem _ h)
      · rcases List.mem_cons.1 h with h | h
        · exact .inr (h ▸ List.mem_cons_self)
        · exact (mem_insertEntry h).imp id (List.mem_cons_of_mem _)

theorem Ascending.nil {α : Type u} : Ascending ([] : List (String × α)) := List.Pairwise.nil

theorem Ascending.insertEntry {α : Type u} {name : String} {value : α} :
    ∀ {entries : List (String × α)},
      Ascending entries → Ascending (insertEntry name value entries)
  | [], _ => List.pairwise_singleton _ _
  | (n, v) :: rest, h => by
    have hrest : Ascending rest := List.Pairwise.of_cons h
    have hhead : ∀ e ∈ rest, n < e.1 := fun e he => List.rel_of_pairwise_cons h he
    unfold SwaggerPress.insertEntry
    split
    next hlt =>
      refine List.Pairwise.cons (fun e he => ?_) h
      rcases List.mem_cons.1 he with he | he
      · exact he ▸ hlt
      · exact String.lt_trans hlt (hhead e he)
    next hlt =>
      split
      next heq =>
        subst heq
        exact List.Pairwise.cons (fun e he => hhead e he) hrest
      next hne =>
        refine List.Pairwise.cons (fun e he => ?_) (Ascending.insertEntry hrest)
        rcases mem_insertEntry he with he | he
        · subst he
          have hle : n ≤ name := String.not_lt.1 hlt
          exact Decidable.byContradiction fun hn =>
            hne (String.le_antisymm (String.not_lt.1 hn) hle)
        · exact hhead e he

theorem Ascending.map {α : Type u} {β : Type v} (f : String → α → β)
    {entries : List (String × α)} (h : Ascending entries) :
    Ascending (entries.map fun e => (e.1, f e.1 e.2)) :=
  List.Pairwise.map _ (fun _ _ hab => hab) h

theorem Ascending.filter {α : Type u} (p : String × α → Bool)
    {entries : List (String × α)} (h : Ascending entries) : Ascending (entries.filter p) :=
  List.Pairwise.filter p h

/-- A finite map from names to values, in ascending order of the names. -/
structure SortedMap (α : Type u) where
  entries : List (String × α)
  ascending : Ascending entries

namespace SortedMap

variable {α : Type u} {β : Type v}

theorem ext {m n : SortedMap α} (h : m.entries = n.entries) : m = n := by
  cases m; cases n; cases h; rfl

instance [DecidableEq α] : DecidableEq (SortedMap α) := fun m n =>
  decidable_of_iff (m.entries = n.entries) ⟨ext, fun h => h ▸ rfl⟩

/-- The map without entries. -/
def empty : SortedMap α := ⟨[], Ascending.nil⟩

instance : EmptyCollection (SortedMap α) := ⟨empty⟩
instance : Inhabited (SortedMap α) := ⟨empty⟩

def isEmpty (m : SortedMap α) : Bool := m.entries.isEmpty

/-- The number of names. -/
def size (m : SortedMap α) : Nat := m.entries.length

def keys (m : SortedMap α) : List String := m.entries.map (·.1)

def get? (m : SortedMap α) (name : String) : Option α := firstUnder? name m.entries

def contains (m : SortedMap α) (name : String) : Bool := (m.get? name).isSome

/-- Puts a value under a name; the latest value of a name counts. -/
def insert (m : SortedMap α) (name : String) (value : α) : SortedMap α :=
  ⟨insertEntry name value m.entries, m.ascending.insertEntry⟩

/-- Inserts entries one after another, so that of two under one name the later counts. -/
def insertAll (m : SortedMap α) (entries : List (String × α)) : SortedMap α :=
  entries.foldl (fun m e => m.insert e.1 e.2) m

/-- The map of a list of entries; of two under one name the later counts. -/
def ofList (entries : List (String × α)) : SortedMap α := empty.insertAll entries

/-- Changes every value, told its name. -/
def mapWithKey (m : SortedMap α) (f : String → α → β) : SortedMap β :=
  ⟨m.entries.map fun e => (e.1, f e.1 e.2), m.ascending.map f⟩

def map (m : SortedMap α) (f : α → β) : SortedMap β := m.mapWithKey fun _ => f

/-- Keeps the entries that pass a test. -/
def filter (m : SortedMap α) (p : String → α → Bool) : SortedMap α :=
  ⟨m.entries.filter fun e => p e.1 e.2, m.ascending.filter _⟩

@[simp] theorem entries_empty : (empty : SortedMap α).entries = [] := rfl

@[simp] theorem entries_insert (m : SortedMap α) (name : String) (value : α) :
    (m.insert name value).entries = insertEntry name value m.entries := rfl

@[simp] theorem entries_mapWithKey (m : SortedMap α) (f : String → α → β) :
    (m.mapWithKey f).entries = m.entries.map fun e => (e.1, f e.1 e.2) := rfl

@[simp] theorem keys_mapWithKey (m : SortedMap α) (f : String → α → β) :
    (m.mapWithKey f).keys = m.keys := by
  simp [keys, Function.comp_def]

end SortedMap

end SwaggerPress
