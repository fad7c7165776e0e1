import Mathlib.Data.List.TakeWhile
import NotebookGoto.Proofs.Kernel.Lines
import NotebookGoto.Proofs.Wire

/-!
# Output before a report

What the code in a kernel prints comes last, on a line of its own. Whatever was written before it,
`Kernel.report` finds it: the whole output is no report, because nothing before a record makes it
part of another one, and the last line is the first to be looked at.

* **`report_of_lines`**: the lines of a trimmed output, of which the last is a report.
* **`report_after_output`**: the statement for outputs as they come, with white space around them.
-/

namespace NotebookGoto.Kernel

open Text Json

/-! ## Trimming -/

/-- What trimming leaves of a report with other output before it: the report alone where only white
space stands before it, and otherwise what was printed, with nothing lost in between. -/
theorem trim_output {t ws : List Char} (noise : List Char) (hws : ws.all isBlank = true) :
    trim (noise ++ '\n' :: ('\x7b' :: t ++ ws)) = trimEndBy isBlank ('\x7b' :: t) ∨
      ∃ c before, isBlank c = false ∧ trim (noise ++ '\n' :: ('\x7b' :: t ++ ws)) =
        c :: before ++ '\n' :: trimEndBy isBlank ('\x7b' :: t) := by
  have hend (s : List Char) : trimEndBy isBlank (s ++ '\x7b' :: (t ++ ws)) =
      s ++ '\x7b' :: trimEndBy isBlank t := by
    rw [trimEndBy_append_cons (by decide), trimEndBy_append_of_all hws]
  have hbrace : trimEndBy isBlank ('\x7b' :: t) = '\x7b' :: trimEndBy isBlank t :=
    trimEndBy_append_cons (by decide) [] t
  rw [hbrace, List.cons_append]
  cases hrest : noise.dropWhile isBlank with
  | nil =>
    left
    have hnoise : (noise ++ ['\n']).all isBlank = true := by
      rw [List.all_append, Bool.and_eq_true]
      refine ⟨?_, by decide⟩
      rw [List.all_eq_true]
      exact List.dropWhile_eq_nil_iff.1 hrest
    have hsplit : noise ++ '\n' :: '\x7b' :: (t ++ ws) =
        (noise ++ ['\n']) ++ '\x7b' :: (t ++ ws) := by
      simp
    rw [trim, hsplit, trimBy_append_of_all hnoise, trimBy,
      dropWhile_eq_self (fun c hc => by cases hc; decide)]
    exact hend []
  | cons c before =>
    right
    have hc : isBlank c = false := by
      have := List.head_dropWhile_not isBlank (hrest ▸ List.cons_ne_nil c before)
      simpa [hrest] using this
    refine ⟨c, before, hc, ?_⟩
    have hdrop : (noise ++ '\n' :: '\x7b' :: (t ++ ws)).dropWhile isBlank =
        (c :: before ++ ['\n']) ++ '\x7b' :: (t ++ ws) := by
      rw [List.dropWhile_append, hrest]
      simp
    rw [trim, trimBy, hdrop, hend]
    simp

/-! ## Lines -/

/-- A line is found if it starts with a brace and is a report. -/
theorem lineReport?_eq_some {s : List Char} {r : Report}
    (h : report? ('\x7b' :: s) = some r) : lineReport? ('\x7b' :: s) = some r := by
  have htrim : trim ('\x7b' :: s) = trimEndBy isBlank ('\x7b' :: s) := by
    rw [trim, trimBy, dropWhile_eq_self (fun c hc => by cases hc; decide)]
  have hhead : (trimEndBy isBlank ('\x7b' :: s)).head? = some '\x7b' := by
    rw [← List.nil_append ('\x7b' :: s), trimEndBy_append_cons (by decide)]
    rfl
  rw [lineReport?, htrim, if_pos hhead]
  exact Format.ofText?_trimEnd h

/-- **The last line of an output is its report**, if it is one at all. -/
theorem report_of_lines {s : List Char} {r : Report} {output : String}
    (hs : '\n' ∉ '\x7b' :: s) (h : report? ('\x7b' :: s) = some r)
    (houtput : trim output.toList = '\x7b' :: s ∨
      ∃ c before, isBlank c = false ∧ trim output.toList = c :: before ++ '\n' :: '\x7b' :: s) :
    report output = .ok r := by
  rw [report_eq_ok_iff, found?]
  rcases houtput with hall | ⟨c, before, hc, hlast⟩
  -- The report alone is found at once; behind other output it is the first line that is tried.
  · rw [hall, h]
    rfl
  · have hwhole : report? (trim output.toList) = none := by
      rw [hlast]
      exact Format.ofText?_after_line hc h
    rw [hwhole, Option.none_or, ← scan_trim, hlast, scan_line, scan_of_not_mem hs,
      lineReport?_eq_some h]
    rfl

/-! ## Outputs -/

/-- **Earlier output never hides a report.** A text on the last line of an output that starts with a
brace and is the text of a report is what is found, whatever was written before it and whatever
white space follows. So in particular every report is found as it is written. -/
theorem report_after_output :
    (∀ (noise t ws : String) (r : Report), '\n' ∉ t.toList → t.toList.head? = some '\x7b' →
      Wire.report.ofText? t.toList = some r → ws.toList.all isBlank = true →
        report (noise ++ "\n" ++ t ++ ws) = .ok r) ∧
    ∀ (noise ws : String) (r : Report), ws.toList.all isBlank = true →
      report (noise ++ "\n" ++ String.ofList (Wire.report.toText r) ++ ws) = .ok r := by
  have hfound (noise t ws : String) (r : Report) (hline : '\n' ∉ t.toList)
      (hhead : t.toList.head? = some '\x7b') (hread : Wire.report.ofText? t.toList = some r)
      (hws : ws.toList.all isBlank = true) : report (noise ++ "\n" ++ t ++ ws) = .ok r := by
    obtain ⟨s, hs⟩ := List.head?_eq_some_iff.1 hhead
    rw [hs] at hline hread
    -- What is read is the trimmed text, which is still a report and still one line.
    have hbrace : trimEndBy isBlank ('\x7b' :: s) = '\x7b' :: trimEndBy isBlank s :=
      trimEndBy_append_cons (by decide) [] s
    have hread' : report? ('\x7b' :: trimEndBy isBlank s) = some r := by
      rw [← hbrace]
      exact Format.ofText?_trimEnd hread
    have hline' : '\n' ∉ '\x7b' :: trimEndBy isBlank s := by
      rw [← hbrace]
      exact fun h => hline (mem_of_mem_trimEndBy h)
    have houtput : (noise ++ "\n" ++ t ++ ws).toList =
        noise.toList ++ '\n' :: ('\x7b' :: s ++ ws.toList) := by
      simp [hs]
    have htrim := trim_output (t := s) noise.toList hws
    rw [← houtput, hbrace] at htrim
    exact report_of_lines hline' hread' htrim
  refine ⟨hfound, fun noise ws r hws => hfound noise _ ws r ?_ ?_ ?_ hws⟩
  · rw [String.toList_ofList]
    exact newline_not_mem_of_all_isPrinted (all_isPrinted_writeRecord _)
  · rw [String.toList_ofList]
    rfl
  · rw [String.toList_ofList]
    exact Format.ofText?_toText Wire.sound_report r

/-- Neither an object that was left open nor a string without its end takes a report with it. -/
theorem report_after_open_object :
    report ("[1]\r\n\x7b\"file\": \"/a" ++ "\n" ++
      "\x7b\"file\": \"/m.py\", \"line\": 3, \"error\": null\x7d" ++ "\u00a0\n") =
        .ok ⟨some "/m.py", some 3, none⟩ ∧
    report ("\x7b" ++ "\n" ++ String.ofList (Wire.report.toText ⟨none, none, some "No"⟩) ++ " ") =
      .ok ⟨none, none, some "No"⟩ :=
  ⟨report_after_output.1 _ _ _ _ (by decide) (by decide) (by decide +kernel) (by decide),
    report_after_output.2 _ _ _ (by decide)⟩

end NotebookGoto.Kernel
