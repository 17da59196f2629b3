import Mathlib.Data.List.DropRight
import SwaggerPress.Proofs.Text.Split
import SwaggerPress.Text.Blank

/-!
    Lines, and what becomes of the ends of lines. The first line of a text ends before the first
    newline, or before the carriage return just in front of it (`FirstLine`); what comes after the
    newline has the other lines (`FirstLine.lines_eq`). Put together again the lines are the text with
    every carriage return in front of a newline taken out, and without its last newline
    (`unlines_lines`):

        a\r\nb\r\r\n\nc\r      lines   "a"  "b\r"  ""  "c\r"      together   a\nb\r\n\nc\r -/

namespace SwaggerPress.Text

/-- The text with every carriage return before a newline taken out. -/
def plainNewlines : List Char → List Char
  | '\r' :: '\n' :: rest => '\n' :: plainNewlines rest
  | c :: rest => c :: plainNewlines rest
  | [] => []

/-- The text without the newline that may end it. -/
def dropNewline (cs : List Char) : List Char :=
  if cs.getLast? = some '\n' then cs.dropLast else cs

/-- A line is the first of a text, and the rest is what comes after its end. -/
inductive FirstLine : (text line rest : List Char) → Prop
  | only {line : List Char} : '\n' ∉ line → FirstLine line line []
  | ended {line rest : List Char} : '\n' ∉ line → line.getLast? ≠ some '\r' →
      FirstLine (line ++ '\n' :: rest) line rest
  | returned {line rest : List Char} : '\n' ∉ line →
      FirstLine (line ++ '\r' :: '\n' :: rest) line rest

/-- The texts are the same but for a newline at the end of one of them. -/
def SameButNewline (xs ys : List Char) : Prop :=
  xs = ys ∨ xs ++ ['\n'] = ys ∨ xs = ys ++ ['\n']

variable {text line rest : List Char}

/-! ### The lines of a text -/

theorem lines_of_not_mem (h : '\n' ∉ text) (hne : text ≠ []) : lines text = [text] := by
  simp only [lines, splitOn_eq, splitOn_of_not_mem h]
  cases text with
  | nil => exact absurd rfl hne
  | cons c cs => rfl

theorem lines_append_newline (h : '\n' ∉ line) (rest : List Char) :
    lines (line ++ '\n' :: rest) = dropReturn line :: lines rest := by
  obtain ⟨part, parts, hrest⟩ := List.exists_cons_of_ne_nil (List.splitOn_ne_nil '\n' rest)
  simp only [lines, splitOn_eq, splitOn_first h, hrest, List.dropLast_cons_cons, List.getLast?_cons_cons,
    List.map_cons]
  split <;> rfl

theorem dropReturn_of_ne (h : line.getLast? ≠ some '\r') : dropReturn line = line := if_neg h

theorem dropReturn_concat (line : List Char) : dropReturn (line ++ ['\r']) = line := by
  rw [dropReturn, if_pos List.getLast?_concat, List.dropLast_concat]

/-- The first line of a text that is not empty is followed by the lines of the rest. -/
theorem FirstLine.lines_eq (h : FirstLine text line rest) (hne : text ≠ []) :
    lines text = line :: lines rest := by
  cases h with
  | only hline => exact lines_of_not_mem hline hne
  | ended hline hreturn => rw [lines_append_newline hline, dropReturn_of_ne hreturn]
  | @returned _ rest hline =>
    have hfront : '\n' ∉ line ++ ['\r'] := by simpa using hline
    have hlines := lines_append_newline hfront rest
    rw [dropReturn_concat, List.append_assoc] at hlines
    exact hlines

theorem exists_firstLine (text : List Char) : ∃ line rest, FirstLine text line rest := by
  by_cases h : '\n' ∈ text
  · obtain ⟨front, rest, rfl, hfront⟩ := List.eq_append_cons_of_mem h
    by_cases hreturn : front.getLast? = some '\r'
    · obtain ⟨line, rfl⟩ := List.getLast?_eq_some_iff.1 hreturn
      refine ⟨line, rest, ?_⟩
      rw [List.append_assoc]
      exact .returned fun hmem => hfront (List.mem_append_left _ hmem)
    · exact ⟨front, rest, .ended hfront hreturn⟩
  · exact ⟨text, [], .only h⟩

/-! ### Lines put together -/

theorem plainNewlines_of_not_mem : ∀ {text : List Char}, '\n' ∉ text → plainNewlines text = text
  | [], _ => rfl
  | [c], _ => by simp [plainNewlines]
  | c :: d :: rest, h => by
    rw [List.mem_cons, not_or] at h
    have hd : d ≠ '\n' := fun hd => h.2 (hd ▸ List.mem_cons_self)
    rw [plainNewlines, plainNewlines_of_not_mem h.2]
    rintro rest' - heq
    exact hd (List.cons.inj heq).1

theorem plainNewlines_append_newline (rest : List Char) : ∀ {line : List Char}, '\n' ∉ line →
    plainNewlines (line ++ '\n' :: rest) = dropReturn line ++ '\n' :: plainNewlines rest
  | [], _ => by
    rw [List.nil_append, plainNewlines]
    · rfl
    · nofun
  | [c], _ => by
    by_cases hc : c = '\r'
    · subst hc; rfl
    · rw [List.singleton_append, plainNewlines, plainNewlines, dropReturn_of_ne (by simpa using hc)]
      · rfl
      · nofun
      · exact fun _ heq => absurd heq hc
  | c :: d :: line, h => by
    rw [List.mem_cons, not_or] at h
    have hd : d ≠ '\n' := fun hd => h.2 (hd ▸ List.mem_cons_self)
    have hreturn : dropReturn (c :: d :: line) = c :: dropReturn (d :: line) := by
      rw [dropReturn, dropReturn, List.getLast?_cons_cons, List.dropLast_cons_cons]
      split <;> rfl
    rw [List.cons_append, plainNewlines, plainNewlines_append_newline rest h.2, hreturn,
      List.cons_append]
    rintro rest' - heq
    exact hd (List.cons.inj heq).1

theorem dropNewline_append {xs ys : List Char} (h : ys ≠ []) :
    dropNewline (xs ++ ys) = xs ++ dropNewline ys := by
  rw [dropNewline, dropNewline, List.getLast?_append_of_ne_nil _ h]
  split
  · rw [List.dropLast_append_of_ne_nil h]
  · rfl

theorem dropNewline_cases (cs : List Char) : cs = dropNewline cs ∨ cs = dropNewline cs ++ ['\n'] := by
  by_cases h : cs.getLast? = some '\n'
  · obtain ⟨front, rfl⟩ := List.getLast?_eq_some_iff.1 h
    rw [dropNewline, if_pos h, List.dropLast_concat]
    exact .inr rfl
  · rw [dropNewline, if_neg h]
    exact .inl rfl

/-- A first line and what is left of the rest make the text again. -/
theorem FirstLine.sameButNewline (h : FirstLine text line rest) :
    SameButNewline (plainNewlines text) (line ++ '\n' :: dropNewline (plainNewlines rest)) := by
  have hbehind : plainNewlines text = line ++ '\n' :: plainNewlines rest →
      SameButNewline (plainNewlines text) (line ++ '\n' :: dropNewline (plainNewlines rest)) := by
    intro heq
    rw [heq]
    rcases dropNewline_cases (plainNewlines rest) with hkept | hdropped
    · exact .inl (by rw [← hkept])
    · exact .inr (.inr (by rw [List.append_assoc, List.cons_append, ← hdropped]))
  cases h with
  | only hline => exact .inr (.inl (by rw [plainNewlines_of_not_mem hline]; rfl))
  | ended hline hreturn =>
    exact hbehind (by rw [plainNewlines_append_newline rest hline, dropReturn_of_ne hreturn])
  | @returned _ rest hline =>
    have hfront : '\n' ∉ line ++ ['\r'] := by simpa using hline
    have hplain := plainNewlines_append_newline rest hfront
    rw [dropReturn_concat, List.append_assoc] at hplain
    exact hbehind hplain

theorem plainNewlines_ne_nil (h : text ≠ []) : plainNewlines text ≠ [] := by
  unfold plainNewlines
  split
  · nofun
  · nofun
  · exact absurd rfl h

/-- Lines put together are the text but for carriage returns before newlines and its last newline. -/
theorem unlines_lines (text : List Char) :
    unlines (lines text) = dropNewline (plainNewlines text) := by
  induction text using parts_induction '\n' with
  | last text h =>
    rw [plainNewlines_of_not_mem h]
    by_cases hne : text = []
    · subst hne; rfl
    · have hlast : text.getLast? ≠ some '\n' := fun hlast => h (List.mem_of_getLast? hlast)
      rw [lines_of_not_mem h hne, dropNewline, if_neg hlast]
      rfl
  | more line rest h ih =>
    rw [lines_append_newline h, plainNewlines_append_newline rest h]
    by_cases hne : rest = []
    · -- the newline opens no further line
      subst hne
      rw [dropNewline, if_pos (by simp [plainNewlines]), plainNewlines, List.dropLast_concat]
      rfl
    · obtain ⟨first, more, hfirst⟩ := exists_firstLine rest
      have hlines := hfirst.lines_eq hne
      calc unlines (dropReturn line :: lines rest)
          = dropReturn line ++ '\n' :: unlines (lines rest) := by
            rw [hlines, unlines]
            exact nofun
        _ = (dropReturn line ++ ['\n']) ++ dropNewline (plainNewlines rest) := by
            rw [ih, List.append_cons]
        _ = dropNewline ((dropReturn line ++ ['\n']) ++ plainNewlines rest) :=
            (dropNewline_append (plainNewlines_ne_nil hne)).symm
        _ = dropNewline (dropReturn line ++ '\n' :: plainNewlines rest) := by
            rw [← List.append_cons]

end SwaggerPress.Text
