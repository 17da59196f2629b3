import SwaggerPress.Proofs.Merge.Skeleton
import SwaggerPress.Proofs.Pipeline.Run

/-!
    What a pipeline answers to a batch. The documents of a run all have the skeleton of the one that
    was assembled first, whichever batches were accepted or refused in between, so the answer to a
    batch is the one that the first document would have given (`step_merge_answer`). Taken together
    with documents of one skeleton: `merge_result_of_skeleton`.

        d₀ ── b₁ ✓ ──▶ d₁ ── b₂ ✗ ──▶ d₁ ── b₃ ✓ ──▶ d₂        skeleton d₀ = d₁ = d₂
        └─ b₃ ✓ ──▶ same report -/

namespace SwaggerPress

/-- What batches lead to answers as the document they started from. -/
theorem Document.Leads.merge_fst {d₀ d : Document} {accepted : List (Batch × MergeReport)}
    (h : d₀.Leads accepted d) (b : Batch) : (d.merge b).1 = (d₀.merge b).1 := by
  have hd : d = (d₀.mergeAll (accepted.map (·.1))).2 := by rw [h]
  rw [hd, merge_fst_mergeAll]

namespace Pipeline

/-- After any calls a batch is answered from the document that was assembled first, or from the
source and the files of the call if none could be. -/
theorem step_merge_answer (settings : Settings) (calls : List Call) (b : Batch) (source : Source)
    (files : FileTree) :
    ((({ settings } : Pipeline).run calls).2.step ⟨.merge b, source, files⟩).1 =
      .merge (match firstAssembly? settings calls with
        | some d₀ => (d₀.merge b).1
        | none => (Document.assemble source settings files).bind fun d => (d.merge b).1) := by
  have hreflects := reflects_run calls (reflects_start settings)
  have hbase : History.base? settings (({ settings } : Pipeline).run calls).1 =
      firstAssembly? settings calls := by
    rw [History.base?, map_fst_run]
  rw [List.nil_append] at hreflects
  rw [step_answer, ← hbase]
  generalize ({ settings } : Pipeline).run calls = outcome at hreflects ⊢
  obtain ⟨h, p⟩ := outcome
  cases hreflects with
  | new base accepted =>
    rw [base]
    rfl
  | assembled base leads =>
    rw [base]
    simp only [Request.answer, document, Except.bind, leads.merge_fst b]

/-- What comes of a batch depends on the skeleton of the document alone; a merge keeps it; and so a
run answers a batch as it would have without the batches before. -/
theorem merge_result_of_skeleton :
    (∀ d d' : Document, (∀ pair, pair ∈ d.skeleton ↔ pair ∈ d'.skeleton) →
      ∀ b, (d.merge b).1 = (d'.merge b).1) ∧
    (∀ (d : Document) (b : Batch), (d.merge b).2.skeleton = d.skeleton) ∧
    ∀ settings calls b source files,
      ((({ settings } : Pipeline).run calls).2.step ⟨.merge b, source, files⟩).1 =
        .merge (match firstAssembly? settings calls with
          | some d₀ => (d₀.merge b).1
          | none => (Document.assemble source settings files).bind fun d => (d.merge b).1) :=
  ⟨fun _ _ h b => Document.merge_fst_congr h b, Document.skeleton_merge, step_merge_answer⟩

/-- A document of the skeleton of `widgets` with other contents, and a template without operations. -/
def bareWidgets : Document where
  host := some "widgets.test"
  paths := .ofList [
    ("/v/", .empty), ("/w/\x7bid\x7d/", .ofList [("put", { deprecated := true })])]

theorem merge_result_of_skeleton_widgets :
    (∀ pair, pair ∈ Document.widgets.skeleton ↔ pair ∈ bareWidgets.skeleton) ∧
    (Document.widgets.merge Document.firstWidgets).1 =
      (bareWidgets.merge Document.firstWidgets).1 := by
  have hskeleton : Document.widgets.skeleton = bareWidgets.skeleton := by decide +kernel
  have h : ∀ pair, pair ∈ Document.widgets.skeleton ↔ pair ∈ bareWidgets.skeleton := by
    intro pair
    rw [hskeleton]
  exact ⟨h, merge_result_of_skeleton.1 _ _ h _⟩

end Pipeline

end SwaggerPress
