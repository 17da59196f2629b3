import SwaggerPress.Assembly
import SwaggerPress.Proofs.Text.Lines

/-!
    Summaries. The first line of a description becomes the summary, less the marks in front of it and
    the blanks behind it (`heading_trimHeading`); the other lines become the description. What is
    left out is marks, blanks, carriage returns before newlines and one newline at the end, so what
    the operation says is still there, in two places (`summarized_splits`):

        #: Run a job \r\n\r\nIt may take a while.\n
        ↑  ↑        ↑    └─────────────────────┘
        marks │     blanks     description  \nIt may take a while.
              summary -/

namespace SwaggerPress

/-- A line is marks, a summary and blanks, and the summary begins with no mark and ends in no
blank. -/
structure Heading (line marks summary blanks : List Char) : Prop where
  line_eq : line = marks ++ summary ++ blanks
  marks : ∀ c ∈ marks, c = '#' ∨ c = ':' ∨ Text.isBlank c
  blanks : ∀ c ∈ blanks, Text.isBlank c
  first : ∀ c ∈ summary.head?, c ≠ '#' ∧ c ≠ ':' ∧ ¬ Text.isBlank c
  last : ∀ c ∈ summary.getLast?, ¬ Text.isBlank c

theorem isHeadingMark_iff {c : Char} :
    isHeadingMark c = true ↔ c = '#' ∨ c = ':' ∨ Text.isBlank c := by
  simp [isHeadingMark, or_assoc]

/-- A line is put together again from what is trimmed off it and what is left. -/
theorem heading_trimHeading (line : List Char) : Heading line (line.takeWhile isHeadingMark)
    (trimHeading line) ((line.dropWhile isHeadingMark).rtakeWhile Text.isBlank) := by
  have htrim : trimHeading line = (line.dropWhile isHeadingMark).rdropWhile Text.isBlank := rfl
  refine ⟨?_, fun c hc => ?_, fun c hc => ?_, fun c hc => ?_, fun c hc => ?_⟩
  · rw [htrim, List.append_assoc, List.rdropWhile_append_rtakeWhile,
      List.takeWhile_append_dropWhile]
  · exact isHeadingMark_iff.1 (List.mem_takeWhile_imp hc)
  · exact List.mem_rtakeWhile_imp hc
  · -- what is left begins as the line without its marks does
    obtain ⟨behind, hbehind⟩ := List.rdropWhile_prefix Text.isBlank (line.dropWhile isHeadingMark)
    rw [← htrim] at hbehind
    have hhead : (line.dropWhile isHeadingMark).head? = some c := by
      rw [← hbehind, List.head?_append, hc, Option.some_or]
    have hmark := List.head?_dropWhile_not isHeadingMark line
    rw [hhead] at hmark
    have hnot : ¬ (c = '#' ∨ c = ':' ∨ Text.isBlank c) := by
      rw [← isHeadingMark_iff]
      exact Bool.eq_false_iff.1 hmark
    rwa [not_or, not_or] at hnot
  · have hne : trimHeading line ≠ [] := by
      rintro hnil
      rw [hnil] at hc
      cases hc
    obtain rfl : (trimHeading line).getLast hne = c := by
      rw [List.getLast?_eq_some_getLast hne] at hc
      exact Option.some.inj hc
    exact List.rdropWhile_last_not Text.isBlank _ hne

namespace Operation

/-- The operation with a text taken apart. -/
theorem summarized_of_firstLine {o : Operation} {w : Wording Id} {line rest : List Char}
    (hw : o.description = some w) (hne : w.text ≠ "")
    (h : Text.FirstLine w.text.toList line rest) : o.summarized = { o with
      summary := some (String.ofList (trimHeading line))
      description := some (.plain (String.ofList (Text.dropNewline (Text.plainNewlines rest)))) } := by
  have hlines := h.lines_eq (by simpa using hne)
  simp only [summarized, hw, if_neg hne, hlines, List.headD_cons, List.tail_cons, Text.unlines_lines]

/-- An operation that is described is summarized by its first line, and described by the others: the
two make the description again, but for carriage returns before newlines and a newline at the end.
An operation that is not described is left alone. -/
theorem summarized_splits (o : Operation) :
    (∀ w, o.description = some w → w.text ≠ "" → ∃ line rest marks summary blanks,
      Text.FirstLine w.text.toList line rest ∧ Heading line marks summary blanks ∧
      o.summarized = { o with
        summary := some (String.ofList summary)
        description := some (.plain (String.ofList (Text.dropNewline (Text.plainNewlines rest)))) } ∧
      Text.SameButNewline (Text.plainNewlines w.text.toList)
        (marks ++ summary ++ blanks ++ '\n' :: Text.dropNewline (Text.plainNewlines rest))) ∧
    ((∀ w, o.description = some w → w.text = "") → o.summarized = o) := by
  constructor
  · intro w hw hne
    obtain ⟨line, rest, hfirst⟩ := Text.exists_firstLine w.text.toList
    have hheading := heading_trimHeading line
    refine ⟨line, rest, _, _, _, hfirst, hheading, summarized_of_firstLine hw hne hfirst, ?_⟩
    rw [← hheading.line_eq]
    exact hfirst.sameButNewline
  · intro hnone
    unfold summarized
    cases hw : o.description with
    | none => rfl
    | some w => exact if_pos (hnone w hw)

/-- A heading with marks and a wide blank, both kinds of line end, and an empty line. -/
example : ({ description := some (.plain "#: Run it\u00a0\r\n\nslowly\r\n") } : Operation).summarized =
    { summary := some "Run it", description := some (.plain "\nslowly") } := by
  rfl

end Operation

end SwaggerPress
