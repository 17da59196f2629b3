import SwaggerPress.Json.Reader
import SwaggerPress.Proofs.Json.Canonical
import SwaggerPress.Proofs.Outcome

/-!
    What is read is canonical. A loop over items or members keeps what one turn keeps
    (`readItemsFrom_keeps`, `readMembersFrom_keeps`); putting a member in its place keeps the members
    ascending, so every object that is read lists each name once and in order
    (`isCanonical_of_parse`). -/

namespace SwaggerPress.Json

/-! ### Numbers -/

theorem isCanonical_readFloat {negative : Bool} {digits : Nat} {power : Int} {s rest : List Char}
    {v : Json} (h : readFloat negative digits power s = .ok (v, rest)) : v.IsCanonical := by
  unfold readFloat at h
  split at h <;> cases h
  trivial

theorem isCanonical_readPower {negative : Bool} {digits : Nat} {power : Int} {up : Bool} :
    ∀ {s : List Char} {n : Nat} {rest : List Char} {v : Json},
      readPower negative digits power up n s = .ok (v, rest) → v.IsCanonical
  | [], _, _, _, h => isCanonical_readFloat h
  | c :: s, n, rest, v, h => by
    unfold readPower at h
    split at h
    · split at h
      · split at h <;> cases h
        trivial
      · exact isCanonical_readPower h
    · exact isCanonical_readFloat h

theorem isCanonical_readExponent {negative : Bool} {digits : Nat} {power : Int} {s rest : List Char}
    {v : Json} (h : readExponent negative digits power s = .ok (v, rest)) : v.IsCanonical := by
  unfold readExponent at h
  simp only at h
  split at h
  · cases h
  · split at h
    · exact isCanonical_readPower h
    · cases h

theorem isCanonical_readFraction {negative : Bool} {digits : Nat} {power : Int} {s rest : List Char}
    {v : Json} (h : readFraction negative digits power s = .ok (v, rest)) : v.IsCanonical := by
  unfold readFraction at h
  simp only at h
  split at h
  · cases h
  · cases h
  · split at h
    · exact isCanonical_readExponent h
    · exact isCanonical_readFloat h
  · exact isCanonical_readFloat h

theorem isCanonical_wholeNumber {negative : Bool} {n : Nat} {s rest : List Char} {v : Json}
    (h : wholeNumber negative n s = .ok (v, rest)) : v.IsCanonical := by
  unfold wholeNumber at h
  split at h
  · split at h
    · cases h; trivial
    · exact isCanonical_readFloat h
  · cases h; trivial

theorem isCanonical_readNumber {negative : Bool} {s rest : List Char} {v : Json}
    (h : readNumber negative s = .ok (v, rest)) : v.IsCanonical := by
  cases s with
  | nil => cases h
  | cons c tail =>
    rw [readNumber] at h
    split at h
    · cases h
    · split at h
      · simp only at h
        generalize (if c = '0' then [c] else (c :: tail).takeWhile isDigit) = digits at h
        generalize (if c = '0' then tail else (c :: tail).dropWhile isDigit) = after at h
        split at h
        · exact isCanonical_readFraction h
        · exact isCanonical_readExponent h
        · exact isCanonical_readExponent h
        · split at h
          · exact isCanonical_wholeNumber h
          · exact isCanonical_readFloat h
      · cases h

/-! ### Containers -/

/-- Every item that is read is what one turn reads. -/
theorem readItemsFrom_keeps {α : Type} {P : α → Prop} {item : Reader α}
    (hitem : ∀ {s rest a}, item s = .ok (a, rest) → P a) :
    ∀ {fuel : Nat} {first : Bool} {taken : List α} {s rest : List Char} {items : List α},
      readItemsFrom item fuel first taken s = .ok (items, rest) → (∀ a ∈ taken, P a) →
        ∀ a ∈ items, P a
  | 0, _, _, _, _, _, h, _ => by cases h
  | fuel + 1, first, taken, s, rest, items, h, htaken => by
    rw [readItemsFrom, bind_eq_ok_iff] at h
    obtain ⟨⟨more, t⟩, -, h⟩ := h
    cases more with
    | false =>
      cases h
      exact fun a ha => htaken a (List.mem_reverse.1 ha)
    | true =>
      obtain ⟨⟨a, u⟩, hread, h⟩ := bind_eq_ok_iff.1 h
      exact readItemsFrom_keeps hitem h (List.forall_mem_cons.2 ⟨hitem hread, htaken⟩)

/-- What every member keeps is kept to the closing brace. -/
theorem readMembersFrom_keeps {σ : Type} {P : σ → Prop}
    {member : σ → String → List Char → Except Halt (σ × List Char)}
    (hmember : ∀ {state name s rest next}, P state → member state name s = .ok (next, rest) → P next) :
    ∀ {fuel : Nat} {first : Bool} {state : σ} {s rest : List Char} {last : σ},
      readMembersFrom member fuel first state s = .ok (last, rest) → P state → P last
  | 0, _, _, _, _, _, h, _ => by cases h
  | fuel + 1, first, state, s, rest, last, h, hstate => by
    rw [readMembersFrom, bind_eq_ok_iff] at h
    obtain ⟨⟨more, t⟩, -, h⟩ := h
    cases more with
    | false => cases h; exact hstate
    | true =>
      obtain ⟨⟨name, u⟩, -, h⟩ := bind_eq_ok_iff.1 h
      obtain ⟨⟨next, w⟩, hread, h⟩ := bind_eq_ok_iff.1 h
      exact readMembersFrom_keeps hmember h (hmember hstate hread)

/-! ### Values -/

theorem isCanonical_readItems {item : Reader Json}
    (hitem : ∀ {s rest v}, item s = .ok (v, rest) → v.IsCanonical) {s rest : List Char}
    {items : List Json} (h : readItems item s = .ok (items, rest)) : (arr items).IsCanonical :=
  isCanonical_arr.2 (readItemsFrom_keeps hitem h (List.forall_mem_nil _))

/-- A member that is put in its place leaves the members of a canonical object. -/
theorem isCanonical_insertEntry {members : List (String × Json)} (h : (obj members).IsCanonical)
    (name : String) {v : Json} (hv : v.IsCanonical) :
    (obj (insertEntry name v members)).IsCanonical := by
  obtain ⟨hasc, hcan⟩ := isCanonical_obj.1 h
  refine isCanonical_obj.2 ⟨hasc.insertEntry, fun e he => ?_⟩
  rcases mem_insertEntry he with rfl | he
  · exact hv
  · exact hcan e he

theorem isCanonical_readMembers {value : Reader Json}
    (hvalue : ∀ {s rest v}, value s = .ok (v, rest) → v.IsCanonical) {s rest : List Char}
    {members : List (String × Json)}
    (h : readMembers [] (fun members name s => do
      let (v, s) ← value (← readColon s)
      return (insertEntry name v members, s)) s = .ok (members, rest)) :
    (obj members).IsCanonical := by
  refine readMembersFrom_keeps (P := fun members => (obj members).IsCanonical) ?_ h
    (isCanonical_obj.2 ⟨Ascending.nil, List.forall_mem_nil _⟩)
  intro members name s rest next hmembers hnext
  obtain ⟨t, -, hnext⟩ := bind_eq_ok_iff.1 hnext
  obtain ⟨⟨v, u⟩, hread, hnext⟩ := bind_eq_ok_iff.1 hnext
  cases hnext
  exact isCanonical_insertEntry hmembers name (hvalue hread)

theorem isCanonical_readValue : ∀ {nesting : Nat} {s rest : List Char} {v : Json},
    readValue nesting s = .ok (v, rest) → v.IsCanonical
  | nesting, s, rest, v, h => by
    rw [readValue] at h
    split at h
    · cases h
    · obtain ⟨_, -, h⟩ := bind_eq_ok_iff.1 h; cases h; trivial
    · obtain ⟨_, -, h⟩ := bind_eq_ok_iff.1 h; cases h; trivial
    · obtain ⟨_, -, h⟩ := bind_eq_ok_iff.1 h; cases h; trivial
    · obtain ⟨_, -, h⟩ := bind_eq_ok_iff.1 h; cases h; trivial
    · match nesting, h with
      | inner + 1, h =>
        obtain ⟨_, hitems, h⟩ := bind_eq_ok_iff.1 h
        cases h
        exact isCanonical_readItems isCanonical_readValue hitems
    · match nesting, h with
      | inner + 1, h =>
        obtain ⟨_, hmembers, h⟩ := bind_eq_ok_iff.1 h
        cases h
        exact isCanonical_readMembers isCanonical_readValue hmembers
    · exact isCanonical_readNumber h
    · split at h
      · exact isCanonical_readNumber h
      · cases h

/-- A parsed value lists each name of an object once and in ascending order. -/
theorem isCanonical_of_parse {text : String} {v : Json} (h : parse text = .ok v) :
    v.IsCanonical := by
  rw [parse, readWhole] at h
  simp only at h
  split at h
  next result heq =>
    cases h
    obtain ⟨⟨w, rest⟩, hread, hrest⟩ := bind_eq_ok_iff.1 heq
    have hw := isCanonical_readValue hread
    simp only at hrest
    split at hrest <;> cases hrest
    exact hw
  next => cases h

end SwaggerPress.Json
