import SwaggerPress.Json.Lexeme
import SwaggerPress.Json.Printer

/-!
    The parts of a JSON text read back as they were printed. Each lemma is about a part with any text
    behind it: the reader of the part takes exactly the part and leaves that text. Only a number
    needs to know what stands there, since a digit, a point or a power would go on with it
    (`FollowsValue`).

        "a\nb"‸, …        ▶  the three characters, and , … is left
        -12‸ ⏎ …          ▶  -12, and ⏎ … is left
        -12‸ 5 …          is no such place -/

namespace SwaggerPress.Json

open Decimal (decimalDigits)
open Text (hexValue?)

/-- What stands behind a value in a printed text. -/
def FollowsValue (s : List Char) : Prop := ∀ c ∈ s.head?, c ∈ [',', ']', '\x7d', '\n']

theorem followsValue_nil : FollowsValue [] := by simp [FollowsValue]

theorem followsValue_cons {c : Char} (s : List Char) (h : c ∈ [',', ']', '\x7d', '\n']) :
    FollowsValue (c :: s) := by
  simpa [FollowsValue] using h

/-! ### Blanks -/

theorem skipBlanks_newLine (layout : Layout) (s : List Char) :
    skipBlanks (layout.newLine ++ s) = skipBlanks s := by
  cases layout with
  | compact => rfl
  | lines level =>
    refine List.dropWhile_append_of_pos fun c hc => ?_
    rcases List.mem_cons.1 hc with rfl | hc
    · decide
    · rw [List.eq_of_mem_replicate hc]; decide

theorem skipBlanks_cons {c : Char} (s : List Char) (h : isJsonBlank c = false) :
    skipBlanks (c :: s) = c :: s := by
  rw [skipBlanks, List.dropWhile_cons_of_neg (by simp [h])]

/-! ### Strings -/

theorem hexValue?_hexDigit : ∀ n < 16, hexValue? (hexDigit n) = some n := by decide

/-- The escape of a control character is its code unit. -/
theorem readEscape_control {n : Nat} (h : n < 0x20) (s : List Char) :
    (readEscape ('u' :: '0' :: '0' :: hexDigit (n / 16) :: hexDigit (n % 16) :: s)).map
      (fun r => (r.1, r.2.1)) = .ok (Char.ofNat n, s) := by
  have hhigh := hexValue?_hexDigit (n / 16) (by omega)
  have hlow := hexValue?_hexDigit (n % 16) (by omega)
  have hzero : hexValue? '0' = some 0 := by decide
  have hsum : 0 * 4096 + 0 * 256 + n / 16 * 16 + n % 16 = n := by omega
  rw [readEscape, readUnit, hzero, hhigh, hlow]
  simp only [hsum]
  rw [if_neg (by omega), if_neg (by omega)]
  rfl

theorem readStringFrom_backslash {s after : List Char} {c : Char} (taken : List Char)
    (h : (readEscape s).map (fun r => (r.1, r.2.1)) = .ok (c, after)) :
    readStringFrom taken ('\\' :: s) = readStringFrom (c :: taken) after := by
  rw [readStringFrom]
  cases he : readEscape s with
  | error e => rw [he] at h; cases h
  | ok r => rw [he] at h; cases h; rfl

/-- What is printed for a character is read as that character. -/
theorem readStringFrom_escapeChar (c : Char) (taken s : List Char) :
    readStringFrom taken (escapeChar c ++ s) = readStringFrom (c :: taken) s := by
  unfold escapeChar
  -- the seven characters with an escape of their own
  iterate 7
    split
    next h => subst h; exact readStringFrom_backslash taken rfl
  split
  next hcontrol =>
    have hescape := readEscape_control hcontrol s
    rw [Char.ofNat_toNat] at hescape
    exact readStringFrom_backslash taken hescape
  next hquote hbackslash _ _ _ _ _ hplain =>
    rw [List.cons_append, List.nil_append, readStringFrom, if_neg hplain]
    · exact hquote
    · exact hbackslash

theorem readStringFrom_escaped (s : List Char) : ∀ cs taken : List Char,
    readStringFrom taken (cs.flatMap escapeChar ++ '"' :: s) =
      .ok (String.ofList (taken.reverse ++ cs), s)
  | [], taken => by rw [List.flatMap_nil, List.nil_append, readStringFrom, List.append_nil]
  | c :: cs, taken => by
    rw [List.flatMap_cons, List.append_assoc, readStringFrom_escapeChar,
      readStringFrom_escaped s cs, List.reverse_cons, List.append_assoc]
    rfl

/-- A printed string is read behind its opening quote. -/
theorem readString_escaped (text : String) (s : List Char) :
    readString (text.toList.flatMap escapeChar ++ '"' :: s) = .ok (text, s) := by
  rw [readString, readStringFrom_escaped, List.reverse_nil, List.nil_append, String.ofList_toList]

/-! ### Whole numbers -/

theorem isDigit_of_mem_decimalDigits {n : Nat} {c : Char} (h : c ∈ decimalDigits n) :
    isDigit c := by
  have hc := Nat.isDigit_of_mem_toDigits (by decide) (by decide) h
  simp only [Char.isDigit, Bool.and_eq_true, decide_eq_true_eq] at hc
  simp only [isDigit, Bool.and_eq_true, decide_eq_true_eq]
  exact hc

theorem le_ofDigitChars : ∀ (ds : List Char) (n : Nat), n ≤ Nat.ofDigitChars 10 ds n
  | [], _ => Nat.le_refl _
  | d :: ds, n => by
    rw [Nat.ofDigitChars_cons]
    have hrest := le_ofDigitChars ds (10 * n + (d.toNat - '0'.toNat))
    omega

/-- Digits are absorbed whole if their number fits. -/
theorem absorb_eq : ∀ {ds : List Char} {n : Nat}, Nat.ofDigitChars 10 ds n ≤ maxWord →
    absorb n ds = (Nat.ofDigitChars 10 ds n, [])
  | [], _, _ => rfl
  | d :: ds, n, h => by
    have hd : 10 * n + (d.toNat - '0'.toNat) = n * 10 + digitValue d := by
      rw [digitValue, Nat.mul_comm]; rfl
    rw [Nat.ofDigitChars_cons, hd] at h
    have hle := le_ofDigitChars ds (n * 10 + digitValue d)
    rw [absorb, if_pos (Nat.le_trans hle h), absorb_eq h, Nat.ofDigitChars_cons, hd]

theorem absorb_decimalDigits {n : Nat} (h : n ≤ maxWord) : absorb 0 (decimalDigits n) = (n, []) := by
  have hvalue : Nat.ofDigitChars 10 (decimalDigits n) 0 = n :=
    Nat.ofDigitChars_toDigits (by decide) (by decide)
  rw [absorb_eq (by rw [hvalue]; exact h), hvalue]

/-- The digits of a positive number do not begin with a zero. -/
theorem head?_decimalDigits {n : Nat} (hn : 0 < n) : (decimalDigits n).head? ≠ some '0' := by
  induction n using Nat.strongRecOn with
  | _ n ih =>
    rw [decimalDigits, Nat.toDigits_eq_if (by decide)]
    split
    next hlt =>
      have hdigit : ∀ k < 10, 0 < k → [Nat.digitChar k].head? ≠ some '0' := by decide
      exact hdigit n hlt hn
    next hge =>
      have hhead := ih (n / 10) (by omega) (by omega)
      cases hds : decimalDigits (n / 10) with
      | nil => exact absurd hds Nat.toDigits_ne_nil
      | cons d ds =>
        rw [decimalDigits] at hds
        rw [hds, List.cons_append]
        rw [decimalDigits, hds] at hhead
        exact hhead

/-- Only zero itself begins with a zero. -/
theorem eq_nil_of_decimalDigits_eq {n : Nat} {ds : List Char} (h : decimalDigits n = '0' :: ds) :
    ds = [] := by
  by_cases hpos : 0 < n
  · exact absurd (congrArg List.head? h) (head?_decimalDigits hpos)
  · rw [Nat.eq_zero_of_not_pos hpos] at h
    exact (List.cons.inj h).2.symm

theorem FollowsValue.takeWhile_isDigit {s : List Char} (h : FollowsValue s) :
    s.takeWhile isDigit = [] ∧ s.dropWhile isDigit = s ∧ s.head?.any isDigit = false := by
  cases s with
  | nil => exact ⟨rfl, rfl, rfl⟩
  | cons c s =>
    have hc : isDigit c = false := by
      have hc : c = ',' ∨ c = ']' ∨ c = '\x7d' ∨ c = '\n' := by simpa using h c rfl
      rcases hc with rfl | rfl | rfl | rfl <;> decide
    simp [hc]

/-- A number that no digit, point or power goes on is read as its digits. -/
theorem readNumber_decimalDigits (negative : Bool) {n : Nat} (hn : n ≤ maxWord) {s : List Char}
    (hs : FollowsValue s) :
    readNumber negative (decimalDigits n ++ s) = wholeNumber negative n s := by
  obtain ⟨htake, hdrop, hhead⟩ := hs.takeWhile_isDigit
  have hdigits : ∀ c ∈ decimalDigits n, isDigit c := fun c => isDigit_of_mem_decimalDigits
  have hspan : (decimalDigits n ++ s).takeWhile isDigit = decimalDigits n ∧
      (decimalDigits n ++ s).dropWhile isDigit = s := by
    rw [List.takeWhile_append_of_pos hdigits, List.dropWhile_append_of_pos hdigits, htake, hdrop]
    exact ⟨List.append_nil _, rfl⟩
  have habsorb := absorb_decimalDigits hn
  cases hds : decimalDigits n with
  | nil => exact absurd hds Nat.toDigits_ne_nil
  | cons d ds =>
    rw [hds] at hspan habsorb hdigits
    have hzero : d = '0' → ds = [] := fun h => eq_nil_of_decimalDigits_eq (h ▸ hds)
    have hnoMore : ¬(d = '0' ∧ (ds ++ s).head?.any isDigit = true) := by
      rintro ⟨h, hmore⟩
      rw [hzero h, List.nil_append, hhead] at hmore
      cases hmore
    have htaken : (if d = '0' then [d] else (d :: ds ++ s).takeWhile isDigit) = d :: ds := by
      split
      next h => rw [hzero h]
      next => exact hspan.1
    have hleft : (if d = '0' then ds ++ s else (d :: ds ++ s).dropWhile isDigit) = s := by
      split
      next h => rw [hzero h, List.nil_append]
      next => exact hspan.2
    rw [List.cons_append] at htaken hleft
    rw [List.cons_append, readNumber, if_neg hnoMore, if_pos (hdigits d List.mem_cons_self)]
    simp only [htaken, hleft, habsorb]
    cases s with
    | nil => rfl
    | cons c s =>
      have hc : c = ',' ∨ c = ']' ∨ c = '\x7d' ∨ c = '\n' := by simpa using hs c rfl
      rcases hc with rfl | rfl | rfl | rfl <;> rfl

end SwaggerPress.Json
