import NotebookGoto.Proofs.Kernel.Output

/-!
# Outcomes that a report can tell

A report has no place for the kind of a failure, and a definition without a line is on line one. So
not every outcome comes back when it is printed as a report and looked for in the kernel's output
again (`Outcome.reread`). Those that do are the ones that a report can tell (`Outcome.IsTold`), and
all others become the outcome of the same file or message that can be told (`Outcome.told`).

* **`Kernel.report_toText`**: a report that is written is found in the output.
* **`Report.isTold_of_outcome`**: what a report tells can be told.
* **`Outcome.reread_eq`**: what becomes of any outcome.
* **`outcome_survives_iff_told`**: exactly what a report can tell survives.
-/

namespace NotebookGoto

open Text Json

/-! ## A report by itself -/

namespace Kernel

/-- A report is written without white space around it. -/
theorem trim_toText (r : Report) : ∃ s, Wire.report.toText r = '\x7b' :: s ∧
    trim (Wire.report.toText r) = '\x7b' :: s := by
  obtain ⟨s, hs⟩ : ∃ s, Wire.report.toText r = '\x7b' :: s ++ '\x7d' :: [] :=
    ⟨_, writeRecord_eq _ _⟩
  have hstart : ('\x7b' :: s ++ '\x7d' :: []).dropWhile isBlank = '\x7b' :: s ++ '\x7d' :: [] :=
    dropWhile_eq_self fun c hc => by cases hc; decide
  refine ⟨s ++ ['\x7d'], hs, ?_⟩
  rw [hs, trim, trimBy, hstart, trimEndBy_append_cons (by decide)]
  rfl

/-- **A report that is all the output is found.** -/
theorem report_toText (r : Report) :
    report (String.ofList (Wire.report.toText r)) = .ok r := by
  obtain ⟨s, hs, htrim⟩ := trim_toText r
  have hread : report? ('\x7b' :: s) = some r := by
    rw [← hs]
    exact Format.ofText?_toText Wire.sound_report r
  have hline : '\n' ∉ '\x7b' :: s := by
    rw [← hs]
    exact newline_not_mem_of_all_isPrinted (all_isPrinted_writeRecord _)
  refine report_of_lines hline hread (.inl ?_)
  rw [String.toList_ofList, htrim]

end Kernel

/-! ## Kinds of failure -/

/-- The message of a lookup that failed itself is none of the fixed ones. -/
theorem Failure.classify_unexpectedStart (rest : String) :
    classify (Template.unexpectedStart ++ rest) = .unexpected := by
  have hother (message : String)
      (h : ¬ Template.unexpectedStart.toList <+: message.toList) :
      Template.unexpectedStart ++ rest ≠ message := by
    rintro rfl
    exact h ⟨rest.toList, (String.toList_append).symm⟩
  rw [classify, if_neg (hother _ (by decide)), if_neg (hother _ (by decide)),
    if_neg (hother _ (by decide))]

/-! ## Outcomes as reports -/

namespace Outcome

/-- Whether a report can tell an outcome: a definition is on a line, and a failure is of the kind
that its message tells. -/
def IsTold : Outcome → Prop
  | .definition _ line => 1 ≤ line
  | .failed kind message => kind = Failure.classify message

/-- The outcome of the same file or message that a report can tell. -/
def told : Outcome → Outcome
  | .definition file line => .definition file (if line = 0 then 1 else line)
  | .failed _ message => .failed (Failure.classify message) message

/-- The outcome that is found when one is printed as a report. -/
def reread (o : Outcome) : Except Error Outcome := do
  let r ← Kernel.report (String.ofList (Wire.report.toText o.report))
  r.outcome

theorem told_eq_self_iff {o : Outcome} : o.told = o ↔ o.IsTold := by
  cases o with
  | definition file line =>
    rw [IsTold, one_le_line_iff, told]
    by_cases hline : line = 0
    · rw [if_pos hline, hline]
      simp
    · rw [if_neg hline]
      simp [hline]
  | failed kind message =>
    rw [told, IsTold]
    simp [eq_comm]

theorem getD_filter_some (line : UInt32) :
    ((some line).filter (· ≠ 0)).getD 1 = if line = 0 then 1 else line := by
  by_cases hline : line = 0
  · rw [if_pos hline, hline]
    rfl
  · rw [if_neg hline, Option.filter_some, if_pos (decide_eq_true hline)]
    rfl

/-- A report of an outcome tells the one next to it. -/
theorem outcome_report (o : Outcome) : o.report.outcome = .ok o.told := by
  cases o with
  | definition file line =>
    show Except.ok (Outcome.definition file (((some line).filter (· ≠ 0)).getD 1)) = _
    rw [getD_filter_some, told]
  | failed kind message => rfl

/-- **What becomes of an outcome**: nothing but the line zero and the kind can change. -/
theorem reread_eq (o : Outcome) : o.reread = .ok o.told := by
  rw [reread, Kernel.report_toText]
  exact outcome_report o

end Outcome

namespace Report

variable {r : Report}

theorem outcome_eq_inconsistent_iff {file message : String} :
    r.outcome = .error (.inconsistentReport file message) ↔
      r.file = some file ∧ r.message = some message := by
  obtain ⟨file', line, message'⟩ := r
  cases file' <;> cases message' <;> simp [outcome]

theorem outcome_eq_incomplete_iff :
    r.outcome = .error .incompleteReport ↔ r.file = none ∧ r.message = none := by
  obtain ⟨file', line, message'⟩ := r
  cases file' <;> cases message' <;> simp [outcome]

/-- A report with just one of file and message has an outcome. -/
theorem exists_outcome_iff :
    (∃ o, r.outcome = .ok o) ↔ r.file.isSome ≠ r.message.isSome := by
  obtain ⟨file', line, message'⟩ := r
  cases file' <;> cases message' <;> simp [outcome]

/-- **What a report tells can be told.** Its line is never zero, and the kind of a failure comes
from the message. -/
theorem isTold_of_outcome {o : Outcome} (h : r.outcome = .ok o) : o.IsTold := by
  obtain ⟨file', line, message'⟩ := r
  cases file' with
  | some file =>
    cases message' with
    | some message => cases h
    | none =>
      cases h
      cases line with
      | none => exact UInt32.le_refl 1
      | some line =>
        show 1 ≤ ((some line).filter (· ≠ 0)).getD 1
        rw [Outcome.getD_filter_some]
        split
        · exact UInt32.le_refl 1
        · exact one_le_line_iff.2 ‹_›
  | none =>
    cases message' with
    | some message =>
      cases h
      rfl
    | none => cases h

end Report

/-- **Exactly the outcomes that a report can tell survive.** A report has no outcome if it has both
a file and a message or neither, and what every other report tells comes back when it is printed and
read again. Of all outcomes those come back that can be told; the others become a definition on line
one, or a failure of the kind that their message tells, with file and message as they are. -/
theorem outcome_survives_iff_told :
    (∀ r : Report,
      (∀ file message, r.outcome = .error (.inconsistentReport file message) ↔
        r.file = some file ∧ r.message = some message) ∧
      (r.outcome = .error .incompleteReport ↔ r.file = none ∧ r.message = none) ∧
      ((∃ o, r.outcome = .ok o ∧ o.reread = .ok o) ↔ r.file.isSome ≠ r.message.isSome)) ∧
    (∀ o : Outcome, o.reread = .ok o ↔ o.IsTold) ∧
    (∀ file line, (Outcome.definition file line).reread =
      .ok (.definition file (if line = 0 then 1 else line))) ∧
    (∀ kind message, (Outcome.failed kind message).reread =
      .ok (.failed (Failure.classify message) message)) ∧
    ∀ rest, Failure.classify (Template.unexpectedStart ++ rest) = .unexpected := by
  have hsurvives (o : Outcome) : o.reread = .ok o ↔ o.IsTold := by
    rw [Outcome.reread_eq, Except.ok.injEq, Outcome.told_eq_self_iff]
  refine ⟨fun r => ⟨fun _ _ => Report.outcome_eq_inconsistent_iff,
    Report.outcome_eq_incomplete_iff, ?_⟩, hsurvives, fun _ _ => Outcome.reread_eq _,
    fun _ _ => Outcome.reread_eq _, Failure.classify_unexpectedStart⟩
  rw [← Report.exists_outcome_iff]
  constructor
  · rintro ⟨o, ho, -⟩
    exact ⟨o, ho⟩
  · rintro ⟨o, ho⟩
    exact ⟨o, ho, (hsurvives o).2 (Report.isTold_of_outcome ho)⟩

end NotebookGoto
