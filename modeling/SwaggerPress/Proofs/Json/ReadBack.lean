import SwaggerPress.Json.Reader
import SwaggerPress.Proofs.Json.Canonical
import SwaggerPress.Proofs.Json.Lexeme
import SwaggerPress.Proofs.Json.Shape
import SwaggerPress.Proofs.Outcome

/-!
    Printed values read back. A value is printed with its members as it lists them, a name twice if
    it is listed twice; what a reader makes of them depends on how it puts a member to the ones
    before it. `readValueBy` reads with any such way of putting: `readValue` puts a member in its
    place and over an older one, `transcript` behind all others, so that it misses none.

        text          {"b": 1, "a": 2, "b": 3}
        transcript     b ↦ 1,  a ↦ 2,  b ↦ 3
        parse          a ↦ 2,  b ↦ 3

    For every way of putting, in every layout and with any text behind it, the text of a value of
    whole numbers is read as that value with the members of its objects put together
    (`readValueBy_printWith`). So the transcript of a printed value is the value (`transcript_pretty`)
    and parsing gives its canonical form (`parse_pretty`). -/

namespace SwaggerPress.Json

open Decimal (decimalDigits)

/-! ### Readers by how members are put together -/

/-- What a member makes of the members before it. -/
abbrev Putting := List (String × Json) → String → Json → List (String × Json)

/-- In its place, over an older member of the name. -/
def Putting.sorted : Putting := fun members name v => insertEntry name v members

/-- Behind all others. -/
def Putting.listed : Putting := fun members name v => members ++ [(name, v)]

/-- Reads one value, putting members together in a given way. -/
def readValueBy (put : Putting) : (nesting : Nat) → List Char → Except Halt (Json × List Char)
  | nesting, s =>
    match skipBlanks s with
    | [] => haltPast .endInValue []
    | 'n' :: rest => do return (.null, ← readWord ['u', 'l', 'l'] rest)
    | 't' :: rest => do return (.bool true, ← readWord ['r', 'u', 'e'] rest)
    | 'f' :: rest => do return (.bool false, ← readWord ['a', 'l', 's', 'e'] rest)
    | '"' :: rest => do
      let (s, rest) ← readString rest
      return (.str s, rest)
    | '[' :: rest =>
      match nesting with
      | 0 => haltPast .tooDeep ('[' :: rest)
      | inner + 1 => do
        let (items, rest) ← readItems (readValueBy put inner) rest
        return (.arr items, rest)
    | '\x7b' :: rest =>
      match nesting with
      | 0 => haltPast .tooDeep ('\x7b' :: rest)
      | inner + 1 => do
        let (members, rest) ← readMembers [] (fun members name s => do
          let (v, s) ← readValueBy put inner (← readColon s)
          return (put members name v, s)) rest
        return (.obj members, rest)
    | '-' :: rest => readNumber true rest
    | c :: rest =>
      if isDigit c then readNumber false (c :: rest) else haltPast .valueExpected (c :: rest)

theorem readValue_eq : ∀ nesting : Nat, readValue nesting = readValueBy .sorted nesting
  | 0 => by
    funext s
    unfold readValue readValueBy
    rfl
  | nesting + 1 => by
    funext s
    unfold readValue readValueBy
    simp only [readValue_eq nesting]
    rfl

/-- The value of a text with every member that the text lists. -/
def transcript (text : String) : Except Fault Json :=
  readWhole (readValueBy .listed maxNesting) text

/-! ### Between the values of a container -/

theorem followsValue_newLine (layout : Layout) {c : Char} (s : List Char)
    (h : c ∈ [',', ']', '\x7d', '\n']) : FollowsValue (layout.newLine ++ c :: s) := by
  cases layout with
  | compact => exact followsValue_cons s h
  | lines level => exact followsValue_cons _ (by decide)

theorem isDigit_first {c : Char} (h : isDigit c) :
    isJsonBlank c = false ∧ c ≠ ']' ∧ c ≠ 'n' ∧ c ≠ 't' ∧ c ≠ 'f' ∧ c ≠ '"' ∧ c ≠ '[' ∧
      c ≠ '\x7b' ∧ c ≠ '-' := by
  have hblank : isJsonBlank c = false := by
    by_contra hblank
    simp only [isJsonBlank, Bool.not_eq_false, Bool.or_eq_true, decide_eq_true_eq] at hblank
    rcases hblank with ((rfl | rfl) | rfl) | rfl <;> revert h <;> decide
  refine ⟨hblank, ?_, ?_, ?_, ?_, ?_, ?_, ?_, ?_⟩ <;> rintro rfl <;> revert h <;> decide

/-- A printed value begins with a character that no blank and no closing bracket is, and only `null`
begins with its letter. -/
theorem printWith_head {v : Json} (h : v.integral) (layout : Layout) : ∃ c cs,
    printWith layout v = c :: cs ∧ isJsonBlank c = false ∧ c ≠ ']' ∧ (v ≠ null → c ≠ 'n') := by
  cases v with
  | null => exact ⟨_, _, rfl, by decide, by decide, fun h => absurd rfl h⟩
  | bool b => cases b <;> exact ⟨_, _, rfl, by decide, by decide, fun _ => by decide⟩
  | int n =>
    by_cases hn : n < 0
    · exact ⟨'-', _, by rw [printWith, printInt, if_pos hn], by decide, by decide,
        fun _ => by decide⟩
    · cases hds : decimalDigits n.natAbs with
      | nil => exact absurd hds Nat.toDigits_ne_nil
      | cons d ds =>
        have hd : isDigit d := isDigit_of_mem_decimalDigits (hds ▸ List.mem_cons_self)
        obtain ⟨hblank, hclose, hn', -⟩ := isDigit_first hd
        exact ⟨d, ds, by rw [printWith, printInt, if_neg hn, hds], hblank, hclose, fun _ => hn'⟩
  | float x => cases h
  | str s => exact ⟨'"', _, rfl, by decide, by decide, fun _ => by decide⟩
  | arr items => cases items <;> exact ⟨'[', _, rfl, by decide, by decide, fun _ => by decide⟩
  | obj members =>
    cases members <;> exact ⟨'\x7b', _, rfl, by decide, by decide, fun _ => by decide⟩

/-- Behind a comma an item has to follow. -/
theorem nextItem_comma (s : List Char) : nextItem false (',' :: s) =
    match skipBlanks s with
    | [] => haltPast .endInValue []
    | ']' :: rest => haltPast .trailingComma (']' :: rest)
    | rest => .ok (true, rest) := rfl

/-- Behind a comma a name has to follow. -/
theorem nextName_comma (s : List Char) : nextName false (',' :: s) =
    match skipBlanks s with
    | [] => haltPast .endInValue []
    | '"' :: rest => .ok (true, rest)
    | '\x7d' :: rest => haltPast .trailingComma ('\x7d' :: rest)
    | rest => haltPast .nameNotString rest := rfl

section
variable {v : Json} (layout : Layout) (s : List Char)

theorem nextItem_first (h : v.integral) :
    nextItem true (layout.newLine ++ (printWith layout v ++ s)) =
      .ok (true, printWith layout v ++ s) := by
  obtain ⟨c, cs, hprint, hblank, hclose, -⟩ := printWith_head h layout
  rw [nextItem, skipBlanks_newLine, hprint, List.cons_append, skipBlanks_cons _ hblank]
  split
  next heq => cases heq
  next heq => exact absurd (List.cons.inj heq).1 hclose
  next heq => cases heq; rfl

theorem nextItem_next (h : v.integral) :
    nextItem false (',' :: (layout.newLine ++ (printWith layout v ++ s))) =
      .ok (true, printWith layout v ++ s) := by
  obtain ⟨c, cs, hprint, hblank, hclose, -⟩ := printWith_head h layout
  have hrest : skipBlanks (layout.newLine ++ (printWith layout v ++ s)) = c :: (cs ++ s) := by
    rw [skipBlanks_newLine, hprint, List.cons_append, skipBlanks_cons _ hblank]
  rw [nextItem_comma, hrest, hprint, List.cons_append]
  split
  next heq => cases heq
  next heq => exact absurd (List.cons.inj heq).1 hclose
  next => rfl

theorem nextItem_close (first : Bool) :
    nextItem first (layout.newLine ++ ']' :: s) = .ok (false, ']' :: s) := by
  rw [nextItem, skipBlanks_newLine, skipBlanks_cons _ (by decide)]
  rfl

theorem nextName_first :
    nextName true (layout.newLine ++ '"' :: s) = .ok (true, s) := by
  rw [nextName, skipBlanks_newLine, skipBlanks_cons _ (by decide)]
  rfl

theorem nextName_next :
    nextName false (',' :: (layout.newLine ++ '"' :: s)) = .ok (true, s) := by
  rw [nextName_comma, skipBlanks_newLine, skipBlanks_cons _ (by decide)]
  rfl

theorem nextName_close (first : Bool) :
    nextName first (layout.newLine ++ '\x7d' :: s) = .ok (false, '\x7d' :: s) := by
  rw [nextName, skipBlanks_newLine, skipBlanks_cons _ (by decide)]
  rfl

end

/-! ### Containers -/

/-- A reader takes what is printed for a value as something. -/
def ReadsAs {α : Type} (layout : Layout) (reader : Reader α) (v : Json) (a : α) : Prop :=
  ∀ s, FollowsValue s → reader (printWith layout v ++ s) = .ok (a, s)

/-- Members are taken one after another, each behind its name, from one state to another. -/
inductive TakesMembers {σ : Type} (layout : Layout)
    (member : σ → String → List Char → Except Halt (σ × List Char)) :
    σ → List (String × Json) → σ → Prop
  | nil {state : σ} : TakesMembers layout member state [] state
  | cons {state next last : σ} {name : String} {v : Json} {rest : List (String × Json)}
    (first : ∀ s, FollowsValue s →
      member state name (layout.colon ++ (printWith layout v ++ s)) = .ok (next, s))
    (later : TakesMembers layout member next rest last) :
    TakesMembers layout member state ((name, v) :: rest) last

theorem followsValue_printItems (layout : Layout) (items : List Json) {s : List Char}
    (h : FollowsValue s) : FollowsValue (printItems layout items ++ s) := by
  cases items with
  | nil => exact h
  | cons v rest => exact followsValue_cons _ (by decide)

theorem followsValue_printMembers (layout : Layout) (members : List (String × Json))
    {s : List Char} (h : FollowsValue s) : FollowsValue (printMembers layout members ++ s) := by
  cases members with
  | nil => exact h
  | cons e rest => exact followsValue_cons _ (by decide)

theorem length_le_printItems (layout : Layout) (items : List Json) :
    items.length ≤ (printItems layout items).length := by
  induction items with
  | nil => exact Nat.zero_le _
  | cons v rest ih =>
    simp only [printItems, List.length_cons, List.length_append]
    omega

theorem length_le_printMembers (layout : Layout) (members : List (String × Json)) :
    members.length ≤ (printMembers layout members).length := by
  induction members with
  | nil => exact Nat.zero_le _
  | cons e rest ih =>
    simp only [printMembers, List.length_cons, List.length_append]
    omega

section
variable {α σ : Type} {item : Reader α} {inner : Layout} (outer : Layout) (s : List Char)

/-- The loop over the items after the first, up to the closing bracket. -/
theorem readItemsFrom_printItems : ∀ {items : List Json} {as : List α} {fuel : Nat}
    (taken : List α), (∀ v ∈ items, v.integral) → List.Forall₂ (ReadsAs inner item) items as →
    items.length < fuel →
    readItemsFrom item fuel false taken (printItems inner items ++ (outer.newLine ++ ']' :: s)) =
      .ok (taken.reverse ++ as, s)
  | [], [], fuel + 1, taken, _, _, _ => by
    rw [printItems, List.nil_append, readItemsFrom, nextItem_close]
    simp [ok_bind]
  | v :: rest, a :: as, fuel + 1, taken, hint, hread, hfuel => by
    rw [List.forall_mem_cons] at hint
    obtain ⟨hfirst, hread⟩ := List.forall₂_cons.1 hread
    have hfollows : FollowsValue (printItems inner rest ++ (outer.newLine ++ ']' :: s)) :=
      followsValue_printItems inner rest (followsValue_newLine outer s (by decide))
    have hrest := readItemsFrom_printItems (a :: taken) hint.2 hread
      (Nat.lt_of_succ_lt_succ hfuel)
    rw [printItems, readItemsFrom]
    simp only [List.cons_append, List.append_assoc]
    rw [nextItem_next inner _ hint.1]
    simp only [ok_bind, if_true]
    rw [hfirst _ hfollows]
    simp only [ok_bind, hrest, List.reverse_cons, List.append_assoc]
    rfl

/-- A list is read behind its opening bracket. -/
theorem readItems_arr {layout : Layout} {items : List Json} {as : List α}
    (hint : ∀ v ∈ items, v.integral)
    (hread : List.Forall₂ (ReadsAs layout.inner item) items as) :
    ∃ t, printWith layout (.arr items) ++ s = '[' :: t ∧ readItems item t = .ok (as, s) := by
  cases hread with
  | nil => exact ⟨_, rfl, rfl⟩
  | @cons v a rest as hfirst hread =>
    rw [List.forall_mem_cons] at hint
    have hfollows : FollowsValue (printItems layout.inner rest ++ (layout.newLine ++ ']' :: s)) :=
      followsValue_printItems layout.inner rest (followsValue_newLine layout s (by decide))
    -- one turn for every item and one for the bracket
    have hfuel := length_le_printItems layout.inner rest
    refine ⟨layout.inner.newLine ++ (printWith layout.inner v ++
      (printItems layout.inner rest ++ (layout.newLine ++ ']' :: s))), ?_, ?_⟩
    · rw [printWith]
      simp only [List.cons_append, List.append_assoc, List.nil_append]
    · rw [readItems, readItemsFrom, nextItem_first layout.inner _ hint.1]
      simp only [ok_bind, if_true]
      rw [hfirst _ hfollows]
      refine readItemsFrom_printItems layout s [a] hint.2 hread ?_
      simp only [List.length_append, List.length_cons]
      omega

variable {member : σ → String → List Char → Except Halt (σ × List Char)}

/-- The loop over the members after the first, up to the closing brace. -/
theorem readMembersFrom_printMembers {state last : σ} {members : List (String × Json)}
    (h : TakesMembers inner member state members last) : ∀ {fuel : Nat}, members.length < fuel →
    readMembersFrom member fuel false state
        (printMembers inner members ++ (outer.newLine ++ '\x7d' :: s)) = .ok (last, s) := by
  induction h with
  | nil =>
    intro fuel hfuel
    obtain ⟨fuel, rfl⟩ := Nat.exists_eq_add_of_lt hfuel
    rw [printMembers, List.nil_append, readMembersFrom, nextName_close]
    simp [ok_bind]
  | @cons state next last name v rest first later ih =>
    intro fuel hfuel
    obtain ⟨fuel, rfl⟩ := Nat.exists_eq_succ_of_ne_zero (Nat.ne_of_gt (Nat.zero_lt_of_lt hfuel))
    have hfollows : FollowsValue (printMembers inner rest ++ (outer.newLine ++ '\x7d' :: s)) :=
      followsValue_printMembers inner rest (followsValue_newLine outer s (by decide))
    rw [printMembers, readMembersFrom, printString]
    simp only [List.cons_append, List.append_assoc]
    rw [nextName_next]
    simp only [ok_bind, if_true, List.nil_append]
    rw [readString_escaped]
    simp only [ok_bind]
    rw [first _ hfollows]
    exact ih (Nat.lt_of_succ_lt_succ hfuel)

/-- An object is read behind its opening brace. -/
theorem readMembers_obj {layout : Layout} {start last : σ} {members : List (String × Json)}
    (h : TakesMembers layout.inner member start members last) :
    ∃ t, printWith layout (.obj members) ++ s = '\x7b' :: t ∧
      readMembers start member t = .ok (last, s) := by
  cases h with
  | nil => exact ⟨_, rfl, rfl⟩
  | @cons _ next _ name v rest first later =>
    have hfollows : FollowsValue (printMembers layout.inner rest ++
        (layout.newLine ++ '\x7d' :: s)) :=
      followsValue_printMembers layout.inner rest (followsValue_newLine layout s (by decide))
    have hfuel := length_le_printMembers layout.inner rest
    have hcolon : layout.colon = layout.inner.colon := by cases layout <;> rfl
    refine ⟨layout.inner.newLine ++ (printString name ++ (layout.inner.colon ++
      (printWith layout.inner v ++ (printMembers layout.inner rest ++
        (layout.newLine ++ '\x7d' :: s))))), ?_, ?_⟩
    · rw [printWith, hcolon]
      simp only [List.cons_append, List.append_assoc, List.nil_append]
    · rw [readMembers, readMembersFrom, printString]
      simp only [List.cons_append, List.append_assoc]
      rw [nextName_first]
      simp only [ok_bind, if_true, List.nil_append]
      rw [readString_escaped]
      simp only [ok_bind]
      rw [first _ hfollows]
      refine readMembersFrom_printMembers layout s later ?_
      simp only [List.length_append, List.length_cons]
      omega

/-- Behind a colon a reader that passes over blanks finds its value. -/
theorem readColon_readsAs {reader : Reader α} (hblank : ∀ s, reader (' ' :: s) = reader s)
    {layout : Layout} {v : Json} {a : α} (h : ReadsAs layout reader v a) {s : List Char}
    (hs : FollowsValue s) :
    (readColon (layout.colon ++ (printWith layout v ++ s)) >>= reader) = .ok (a, s) := by
  cases layout with
  | compact => exact h s hs
  | lines level => exact (hblank _).trans (h s hs)

/-- Members whose values are read alike are put to the state one after another. -/
theorem takesMembers_put {reader : Reader α} (hblank : ∀ s, reader (' ' :: s) = reader s)
    (put : σ → String → α → σ) {layout : Layout} : ∀ {members : List (String × Json)}
    {named : List (String × α)} (state : σ),
    List.Forall₂ (fun e f => e.1 = f.1 ∧ ReadsAs layout reader e.2 f.2) members named →
      TakesMembers layout (fun state name s => do
        let (v, s) ← reader (← readColon s)
        return (put state name v, s)) state members
          (named.foldl (fun state f => put state f.1 f.2) state)
  | [], [], _, _ => .nil
  | (name, v) :: members, (name', a) :: named, state, h => by
    obtain ⟨⟨hname, hfirst⟩, hrest⟩ := List.forall₂_cons.1 h
    obtain rfl : name = name' := hname
    have hlater := takesMembers_put hblank put (put state name a) hrest
    refine .cons (fun s hs => ?_) hlater
    have hvalue := readColon_readsAs hblank hfirst hs
    simp only [← bind_assoc, hvalue]
    rfl

end

/-! ### Values -/

/-- What becomes of a value when its members are put together: nothing changes but the members of
objects, which are put together one after another. -/
structure Putting.Gives (put : Putting) (g : Json → Json) : Prop where
  null : g null = null
  bool (b : Bool) : g (bool b) = bool b
  int (n : Int) : g (int n) = int n
  str (s : String) : g (str s) = str s
  arr (items : List Json) : g (arr items) = arr (items.map g)
  obj (members : List (String × Json)) :
    g (obj members) = obj (members.foldl (fun taken e => put taken e.1 (g e.2)) [])

theorem Putting.gives_listed : Putting.listed.Gives id where
  null := rfl
  bool _ := rfl
  int _ := rfl
  str _ := rfl
  arr items := by simp
  obj members := by
    have hlisted : ∀ taken : List (String × Json),
        members.foldl (fun taken e => Putting.listed taken e.1 e.2) taken = taken ++ members := by
      induction members with
      | nil => simp
      | cons e rest ih =>
        intro taken
        rw [List.foldl_cons, ih, Putting.listed, List.append_assoc]
        rfl
    simp [hlisted]

theorem Putting.gives_sorted : Putting.sorted.Gives canonical where
  null := rfl
  bool _ := rfl
  int _ := rfl
  str _ := rfl
  arr := canonical_arr
  obj members := by
    rw [canonical_obj, ofMap, SortedMap.ofList, SortedMap.entries_insertAll, List.foldl_map]
    rfl

section
variable {put : Putting} {g : Json → Json} {nesting : Nat}

theorem readValueBy_blank (s : List Char) :
    readValueBy put nesting (' ' :: s) = readValueBy put nesting s := by
  rw [readValueBy, readValueBy]
  rfl

theorem readValueBy_quote (s : List Char) : readValueBy put nesting ('"' :: s) = do
    let (text, rest) ← readString s
    return (.str text, rest) := by
  rw [readValueBy]; rfl

theorem readValueBy_bracket (s : List Char) : readValueBy put (nesting + 1) ('[' :: s) = do
    let (items, rest) ← readItems (readValueBy put nesting) s
    return (.arr items, rest) := by
  rw [readValueBy]; rfl

theorem readValueBy_brace (s : List Char) : readValueBy put (nesting + 1) ('\x7b' :: s) = do
    let (members, rest) ← readMembers [] (fun members name s => do
      let (v, s) ← readValueBy put nesting (← readColon s)
      return (put members name v, s)) s
    return (.obj members, rest) := by
  rw [readValueBy]; rfl

theorem readValueBy_digit {c : Char} (h : isDigit c) (s : List Char) :
    readValueBy put nesting (c :: s) = readNumber false (c :: s) := by
  obtain ⟨hblank, -, hn, ht, hf, hquote, hlist, hobject, hminus⟩ := isDigit_first h
  rw [readValueBy, skipBlanks_cons s hblank]
  split <;> simp_all

theorem readValueBy_printInt {n : Int} (h : (int n).integral) {s : List Char}
    (hs : FollowsValue s) : readValueBy put nesting (printInt n ++ s) = .ok (.int n, s) := by
  obtain ⟨hlow, hhigh⟩ : -0x8000000000000000 ≤ n ∧ n ≤ 0xFFFFFFFFFFFFFFFF := by
    simpa [integral, everywhere, isWhole] using h
  have hword : n.natAbs ≤ maxWord := by unfold maxWord; omega
  by_cases hn : n < 0
  · have hneg : -(n.natAbs : Int) = n := by omega
    have hread : readValueBy put nesting ('-' :: (decimalDigits n.natAbs ++ s)) =
        readNumber true (decimalDigits n.natAbs ++ s) := by
      rw [readValueBy]; rfl
    rw [printInt, if_pos hn, List.cons_append, hread, readNumber_decimalDigits true hword hs,
      wholeNumber, if_pos rfl, if_pos (by omega), hneg]
  · have hpos : (n.natAbs : Int) = n := by omega
    rw [printInt, if_neg hn]
    cases hds : decimalDigits n.natAbs with
    | nil => exact absurd hds Nat.toDigits_ne_nil
    | cons d ds =>
      have hd : isDigit d := isDigit_of_mem_decimalDigits (hds ▸ List.mem_cons_self)
      rw [List.cons_append, readValueBy_digit hd, ← List.cons_append, ← hds,
        readNumber_decimalDigits false hword hs, wholeNumber, if_neg (by decide), hpos]

/-- The text of a value of whole numbers is read as the value, its members put together. -/
theorem readValueBy_printWith (hg : put.Gives g) : ∀ {nesting : Nat} {v : Json} (layout : Layout),
    v.nestsWithin nesting → v.integral → ReadsAs layout (readValueBy put nesting) v (g v)
  | nesting, .null, _, _, _ => fun s _ => by rw [hg.null, readValueBy]; rfl
  | nesting, .bool b, _, _, _ => fun s _ => by
    cases b <;> rw [hg.bool, readValueBy] <;> rfl
  | nesting, .int n, _, _, hint => fun s hs => by
    rw [hg.int]; exact readValueBy_printInt hint hs
  | nesting, .str text, _, _, _ => fun s _ => by
    rw [hg.str, printWith, printString, List.append_assoc, List.cons_append, readValueBy_quote]
    simp only [List.cons_append, List.nil_append, readString_escaped]
    rfl
  | nesting + 1, .arr items, layout, hdepth, hint => fun s _ => by
    have hitems : ∀ w ∈ items, w.integral := integral_arr.1 hint
    have hread : List.Forall₂ (ReadsAs layout.inner (readValueBy put nesting)) items
        (items.map g) := by
      rw [List.forall₂_map_right_iff, List.forall₂_same]
      exact fun w hw => readValueBy_printWith hg _ (List.all_eq_true.1 hdepth w hw) (hitems w hw)
    obtain ⟨t, ht, hread⟩ := readItems_arr s hitems hread
    rw [hg.arr, ht, readValueBy_bracket, hread]
    rfl
  | nesting + 1, .obj members, layout, hdepth, hint => fun s _ => by
    have hread : List.Forall₂ (fun e f => e.1 = f.1 ∧
        ReadsAs layout.inner (readValueBy put nesting) e.2 f.2) members
          (members.map fun e => (e.1, g e.2)) := by
      rw [List.forall₂_map_right_iff, List.forall₂_same]
      exact fun e he => ⟨rfl, readValueBy_printWith hg _ (List.all_eq_true.1 hdepth e he)
        (integral_obj.1 hint e he)⟩
    obtain ⟨t, ht, hread⟩ := readMembers_obj s (takesMembers_put readValueBy_blank put [] hread)
    rw [hg.obj, ht, readValueBy_brace, hread, List.foldl_map]
    rfl

end

/-! ### Whole texts -/

theorem readWhole_print {α : Type} {layout : Layout} {reader : Reader α} {v : Json} {a : α}
    (h : ReadsAs layout reader v a) :
    readWhole reader (String.ofList (printWith layout v)) = .ok a := by
  have hread := h [] followsValue_nil
  rw [List.append_nil] at hread
  rw [readWhole, String.toList_ofList, hread]
  rfl

/-- The transcript of a printed value is the value. -/
theorem transcript_pretty {v : Json} (hdepth : v.nestsWithin maxNesting) (hint : v.integral) :
    transcript v.pretty = .ok v :=
  readWhole_print (readValueBy_printWith Putting.gives_listed _ hdepth hint)

/-- Parsing a printed value gives its canonical form. -/
theorem parse_pretty {v : Json} (hdepth : v.nestsWithin maxNesting) (hint : v.integral) :
    parse v.pretty = .ok v.canonical := by
  rw [parse, readValue_eq]
  exact readWhole_print (readValueBy_printWith Putting.gives_sorted _ hdepth hint)

end SwaggerPress.Json
