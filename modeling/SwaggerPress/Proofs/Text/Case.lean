import SwaggerPress.Text.Case

/-!
    Lower case stays. A character is *settled* if it is its own lower case and no sigma. The code
    points that a run of the table is taken to are in no run (`settles_lowerRuns`), so whatever a
    character becomes in lower case is settled (`settled_of_mem_lowerChar`), and a text in lower case
    is left as it is (`lower_lower`).

        run       Ā  ·  Ă  ·  Ą  ·            every second code point, by 1
        image        ā     ă     ą            between them, in no run -/

namespace SwaggerPress.Text

/-! ### Runs and their images -/

namespace CaseRun

/-- Whether a code point is one of the run. -/
def contains (r : CaseRun) (n : Nat) : Bool :=
  r.first ≤ n && n ≤ r.last && (n - r.first) % r.step == 0

/-- The code points that the run is taken to; a single one counts as every second one. -/
def image (r : CaseRun) : CaseRun where
  first := (r.first + r.shift).toNat
  last := (r.last + r.shift).toNat
  step := if r.first = r.last then 2 else r.step
  shift := 0

/-- Whether two runs are seen to have no code point in common: one ends before the other begins, or
the code points of the first stand between those of the second. -/
def apart (r s : CaseRun) : Bool :=
  (Nat.blt r.last s.first).or <| (Nat.blt s.last r.first).or <| (Nat.ble s.first r.first).and <|
    (Nat.beq (r.step % s.step) 0).and <| (Nat.beq ((r.first - s.first) % s.step) 0).not

/-- Whether the run is taken to characters, none of which is the dotted capital I. -/
def lands (r : CaseRun) : Bool :=
  0 ≤ r.first + r.shift && (r.image.last < 0x130 || 0x130 < r.image.first) &&
    (r.image.last < 0xD800 || (0xDFFF < r.image.first && r.image.last < 0x110000))

variable {r s : CaseRun} {n : Nat}

theorem contains_iff :
    r.contains n ↔ r.first ≤ n ∧ n ≤ r.last ∧ (n - r.first) % r.step = 0 := by
  simp [contains, and_assoc]

theorem contains_image (h : r.contains n) (hlands : r.lands) :
    r.image.contains (n + r.shift).toNat := by
  simp only [lands, Bool.and_eq_true, decide_eq_true_eq] at hlands
  obtain ⟨hfirst, hlast, hstep⟩ := contains_iff.1 h
  have hnonneg := hlands.1.1
  have hshift : (n + r.shift).toNat = (r.first + r.shift).toNat + (n - r.first) := by omega
  have hend : (n + r.shift).toNat ≤ (r.last + r.shift).toNat := by omega
  refine contains_iff.2 ⟨hshift ▸ Nat.le_add_right _ _, hend, ?_⟩
  simp only [image]
  rw [hshift, Nat.add_sub_cancel_left]
  split
  next hsingle =>
    have hn : n - r.first = 0 := by omega
    rw [hn, Nat.zero_mod]
  next => exact hstep

theorem not_contains_of_apart (h : r.apart s) (hn : r.contains n) : s.contains n = false := by
  obtain ⟨hfirst, hlast, hstep⟩ := contains_iff.1 hn
  rw [← Bool.not_eq_true, contains_iff]
  rintro ⟨hfirst', hlast', hstep'⟩
  simp only [apart, Bool.or_eq_true, Bool.and_eq_true, Bool.not_eq_true', ← Bool.not_eq_true,
    Nat.blt_eq, Nat.ble_eq, Nat.beq_eq] at h
  rcases h with h | h | ⟨hle, hdvd, hbetween⟩
  · omega
  · omega
  · -- both are a whole number of steps away, so the first code points are, too
    have hstepdvd : s.step ∣ n - r.first :=
      Nat.dvd_trans (Nat.dvd_of_mod_eq_zero hdvd) (Nat.dvd_of_mod_eq_zero hstep)
    have hsum : n - s.first = (n - r.first) + (r.first - s.first) := by omega
    have hfirstdvd := Nat.dvd_of_mod_eq_zero hstep'
    rw [hsum, Nat.dvd_add_right hstepdvd] at hfirstdvd
    exact hbetween (Nat.mod_eq_zero_of_dvd hfirstdvd)

end CaseRun

/-- Whether a run is taken out of all runs. -/
def settles (runs : List CaseRun) (r : CaseRun) : Bool := runs.all r.image.apart

theorem settles_lowerRuns : lowerRuns.all (settles lowerRuns) = true := by decide +kernel

theorem lands_lowerRuns : lowerRuns.all CaseRun.lands = true := by decide +kernel

/-! ### Settled characters -/

/-- The character is its own lower case, wherever it stands. -/
def Settled (c : Char) : Prop := c ≠ capitalSigma ∧ lowerChar c = [c]

theorem shiftCase_eq (runs : List CaseRun) (n : Nat) : shiftCase runs n =
    match runs.find? (·.contains n) with
    | some r => (n + r.shift).toNat
    | none => n := rfl

/-- Of the runs only the capitals of ASCII are in ASCII. -/
theorem find?_ascii {n : Nat} (hn : n < 0x80) (hcapital : ¬(0x41 ≤ n ∧ n ≤ 0x5A)) :
    lowerRuns.find? (·.contains n) = none := by
  have hbeyond : lowerRuns.tail.all (fun r => Nat.ble 0x80 r.first) = true := by decide +kernel
  have hruns : lowerRuns = ⟨0x41, 0x5A, 1, 32⟩ :: lowerRuns.tail := rfl
  rw [List.find?_eq_none, hruns]
  intro r hr hcontains
  obtain ⟨hfirst, hlast, -⟩ := CaseRun.contains_iff.1 hcontains
  rcases List.mem_cons.1 hr with rfl | hr
  · exact hcapital ⟨hfirst, hlast⟩
  · have hle := Nat.le_of_ble_eq_true (List.all_eq_true.1 hbeyond r hr)
    omega

/-- The capital sigma is in a run, and so are the capitals of ASCII. -/
theorem find?_capital : (lowerRuns.find? (·.contains capitalSigma.toNat)).isSome ∧
    ∀ n < 0x80, 0x41 ≤ n → n ≤ 0x5A → (lowerRuns.find? (·.contains n)).isSome := by
  decide +kernel

theorem toLower_ascii : ∀ n < 0x80,
    (¬(0x41 ≤ n ∧ n ≤ 0x5A) → (Char.ofNat n).toLower = Char.ofNat n) ∧
      (Char.ofNat n).toLower.toNat < 0x80 ∧
      ¬(0x41 ≤ (Char.ofNat n).toLower.toNat ∧ (Char.ofNat n).toLower.toNat ≤ 0x5A) := by
  decide +kernel

/-- Only the dotted capital I becomes several characters. -/
theorem lookup_lowerExpansions {n : Nat} (h : n ≠ 0x130) : lowerExpansions.lookup n = none := by
  rw [lowerExpansions, List.lookup_cons, beq_false_of_ne h]
  rfl

/-- A character in no run is settled. -/
theorem settled_of_find?_eq_none {c : Char} (h : lowerRuns.find? (·.contains c.toNat) = none)
    (hdotted : c.toNat ≠ 0x130) : Settled c := by
  refine ⟨?_, ?_⟩
  · rintro rfl
    have hsome := find?_capital.1
    rw [h] at hsome
    cases hsome
  · rw [lowerChar]
    split
    next hascii =>
      have hcapital : ¬(0x41 ≤ c.toNat ∧ c.toNat ≤ 0x5A) := by
        rintro ⟨hfirst, hlast⟩
        have hsome := find?_capital.2 c.toNat hascii hfirst hlast
        rw [h] at hsome
        cases hsome
      have hlower := (toLower_ascii c.toNat hascii).1 hcapital
      rw [Char.ofNat_toNat] at hlower
      rw [hlower]
    next =>
      rw [changeCase, lookup_lowerExpansions hdotted, shiftCase_eq, h]
      simp only [Char.ofNat_toNat]

/-- Where a run is taken there is no run. -/
theorem find?_shift {r : CaseRun} {n : Nat} (hr : lowerRuns.find? (·.contains n) = some r) :
    lowerRuns.find? (·.contains (n + r.shift).toNat) = none ∧ r.lands ∧
      r.image.contains (n + r.shift).toNat := by
  have hmem : r ∈ lowerRuns := List.mem_of_find?_eq_some hr
  have hn : r.contains n := by simpa using List.find?_some hr
  have hlands : r.lands := List.all_eq_true.1 lands_lowerRuns r hmem
  have himage := CaseRun.contains_image hn hlands
  refine ⟨List.find?_eq_none.2 fun s hs => ?_, hlands, himage⟩
  have hapart : r.image.apart s :=
    List.all_eq_true.1 (List.all_eq_true.1 settles_lowerRuns r hmem) s hs
  simp [CaseRun.not_contains_of_apart hapart himage]

theorem CaseRun.isValidChar_of_lands {r : CaseRun} {n : Nat} (h : r.lands) (hn : r.image.contains n) :
    n.isValidChar ∧ n ≠ 0x130 := by
  obtain ⟨hfirst, hlast, -⟩ := CaseRun.contains_iff.1 hn
  simp only [lands, Bool.and_eq_true, Bool.or_eq_true, decide_eq_true_eq] at h
  rw [Nat.isValidChar]
  omega

/-- The settled sigmas, and what the dotted capital I becomes. -/
theorem settled_of_mem {c : Char} (h : c ∈ ['σ', 'ς', 'i', '\u0307']) : Settled c := by
  have hcheck : ['σ', 'ς', 'i', '\u0307'].all (fun c =>
      (lowerRuns.find? (·.contains c.toNat)).isNone && !(Nat.beq c.toNat 0x130)) = true := by
    decide +kernel
  have hc := List.all_eq_true.1 hcheck c h
  rw [Bool.and_eq_true, Bool.not_eq_true', ← Bool.not_eq_true, Nat.beq_eq] at hc
  exact settled_of_find?_eq_none (Option.isNone_iff_eq_none.1 hc.1) hc.2

/-- What becomes of a character in lower case is settled. -/
theorem settled_of_mem_lowerChar {c d : Char} (hd : d ∈ lowerChar c) : Settled d := by
  rw [lowerChar] at hd
  split at hd
  next hascii =>
    obtain rfl := List.mem_singleton.1 hd
    obtain ⟨-, hlower, hcapital⟩ := toLower_ascii c.toNat hascii
    rw [Char.ofNat_toNat] at hlower hcapital
    exact settled_of_find?_eq_none (find?_ascii hlower hcapital) (by omega)
  next =>
    by_cases hdotted : c.toNat = 0x130
    · have hbecomes : changeCase lowerRuns lowerExpansions c = ['i', '\u0307'] := by
        rw [changeCase, hdotted]
        rfl
      rw [hbecomes] at hd
      exact settled_of_mem (List.mem_append_right ['σ', 'ς'] hd)
    · rw [changeCase, lookup_lowerExpansions hdotted, shiftCase_eq] at hd
      obtain rfl := List.mem_singleton.1 hd
      cases hr : lowerRuns.find? (·.contains c.toNat) with
      | none =>
        simp only [Char.ofNat_toNat]
        exact settled_of_find?_eq_none hr hdotted
      | some r =>
        obtain ⟨hnone, hlands, himage⟩ := find?_shift hr
        obtain ⟨hvalid, hne⟩ := CaseRun.isValidChar_of_lands hlands himage
        have htoNat : (Char.ofNat (c.toNat + r.shift).toNat).toNat = (c.toNat + r.shift).toNat := by
          rw [Char.ofNat, dif_pos hvalid]
          rfl
        exact settled_of_find?_eq_none (by rw [htoNat]; exact hnone) (by rw [htoNat]; exact hne)

/-! ### Texts -/

theorem settled_of_mem_lowerFrom : ∀ (cs before : List Char), ∀ d ∈ lowerFrom before cs, Settled d
  | [], _, d, hd => by cases hd
  | c :: rest, before, d, hd => by
    rw [lowerFrom, List.mem_append] at hd
    rcases hd with hd | hd
    · split at hd
      next =>
        refine settled_of_mem ?_
        rw [List.mem_singleton] at hd
        split at hd <;> simp [hd]
      next => exact settled_of_mem_lowerChar hd
    · exact settled_of_mem_lowerFrom rest (c :: before) d hd

/-- Settled characters are left alone. -/
theorem lowerFrom_of_settled : ∀ {cs : List Char}, (∀ c ∈ cs, Settled c) → ∀ before : List Char,
    lowerFrom before cs = cs
  | [], _, _ => rfl
  | c :: rest, h, before => by
    rw [List.forall_mem_cons] at h
    obtain ⟨⟨hsigma, hlower⟩, hrest⟩ := h
    rw [lowerFrom, if_neg hsigma, hlower, lowerFrom_of_settled hrest, List.singleton_append]

/-- A text in lower case is its own lower case. -/
theorem lower_lower (s : String) : lower (lower s) = lower s := by
  have hsettled := settled_of_mem_lowerFrom s.toList []
  rw [lower, lower, String.toList_ofList, lowerFrom_of_settled hsettled]

end SwaggerPress.Text
