import NotebookGoto.Kernel.Output
import NotebookGoto.Proofs.Json.Record
import NotebookGoto.Proofs.Text.LineEnd

/-!
# The lines of an output

Where the whole of what a kernel wrote is no report, its lines are looked at from the last to the
first. `scan` is that search over the lines of any text. It is settled by two facts: the lines
behind a line feed come before those in front of it (`scan_line`), and white space at either end of
a text changes nothing, since each line is trimmed by itself (`scan_trim`).

* **`report_of_last_telling_line`**: the report that is found is the one of the last line that holds
  one, and further lines without a report leave it as it is.
* **`report_of_line_ends`**: how lines end, and what white space stands around them, does not
  matter.
-/

namespace NotebookGoto.Kernel

open Text Json

/-! ## Lines that tell a report -/

/-- A line that starts with a brace and is a report's text, where white space around it does not
count. -/
def Tells (line : List Char) (r : Report) : Prop :=
  (trim line).head? = some '\x7b' ∧ Wire.report.ofText? (trim line) = some r

theorem lineReport?_eq_some_iff {line : List Char} {r : Report} :
    lineReport? line = some r ↔ Tells line r := by
  rw [lineReport?, Tells]
  split
  · rename_i hbrace
    rw [and_iff_right hbrace, report?]
  · rename_i hbrace
    exact iff_of_false nofun fun h => hbrace h.1

theorem lineReport?_eq_none_iff {line : List Char} :
    lineReport? line = none ↔ ∀ r, ¬ Tells line r := by
  simp only [Option.eq_none_iff_forall_ne_some, ne_eq, lineReport?_eq_some_iff]

theorem lineReport?_congr {l l' : List Char} (h : trim l = trim l') :
    lineReport? l = lineReport? l' := by
  rw [lineReport?, lineReport?, h]

/-! ## The search -/

/-- The report of the last line of a text that tells one. -/
def scan (s : List Char) : Option Report :=
  (s.splitOn '\n').reverse.findSome? lineReport?

theorem scan_eq_some_iff {s : List Char} {r : Report} :
    scan s = some r ↔ ∃ before line after, s.splitOn '\n' = before ++ line :: after ∧
      Tells line r ∧ ∀ later ∈ after, ∀ r', ¬ Tells later r' := by
  rw [scan, List.findSome?_eq_some_iff]
  constructor
  · rintro ⟨after, line, before, hlines, hline, hafter⟩
    have hreverse := congrArg List.reverse hlines
    refine ⟨before.reverse, line, after.reverse, by simpa using hreverse,
      lineReport?_eq_some_iff.1 hline, fun later hlater => ?_⟩
    exact lineReport?_eq_none_iff.1 (hafter later (List.mem_reverse.1 hlater))
  · rintro ⟨before, line, after, hlines, hline, hafter⟩
    refine ⟨after.reverse, line, before.reverse, by simp [hlines],
      lineReport?_eq_some_iff.2 hline, fun later hlater => ?_⟩
    exact lineReport?_eq_none_iff.2 (hafter later (List.mem_reverse.1 hlater))

theorem scan_eq_none_iff {s : List Char} :
    scan s = none ↔ ∀ line ∈ s.splitOn '\n', ∀ r, ¬ Tells line r := by
  simp only [scan, List.findSome?_eq_none_iff, List.mem_reverse, lineReport?_eq_none_iff]

theorem scan_of_not_mem {l : List Char} (h : '\n' ∉ l) : scan l = lineReport? l := by
  rw [scan, List.splitOn_eq_singleton h, List.reverse_singleton, List.findSome?_singleton]

/-- Lines behind a line feed are looked at before those in front of it. -/
theorem scan_line (s t : List Char) : scan (s ++ '\n' :: t) = (scan t).or (scan s) := by
  rw [scan, List.splitOn_append_cons_self, List.reverse_append, List.findSome?_append, scan, scan]

theorem scan_nil : scan [] = none := by
  decide

/-! White space at the ends of a text is white space at the ends of its first and its last line. -/

theorem scan_cons_blank {c : Char} (hc : isBlank c = true) (s : List Char) :
    scan (c :: s) = scan s := by
  by_cases hnewline : c = '\n'
  -- An empty line in front of all others tells nothing.
  · rw [hnewline, ← List.nil_append ('\n' :: s), scan_line, scan_nil, Option.or_none]
  -- Any other white space belongs to the first line, which is trimmed by itself.
  · have hline {l : List Char} (hl : '\n' ∉ l) : scan (c :: l) = scan l := by
      have hcl : '\n' ∉ c :: l := List.not_mem_cons_of_ne_of_not_mem (Ne.symm hnewline) hl
      rw [scan_of_not_mem hl, scan_of_not_mem hcl]
      refine lineReport?_congr ?_
      rw [← List.singleton_append, trim, trimBy_append_of_all (by simp [hc]), trim]
    induction s using line_induction with
    | last l hl => exact hline hl
    | line l s hl _ => rw [← List.cons_append, scan_line, scan_line, hline hl]

theorem scan_append_blank {c : Char} (hc : isBlank c = true) (s : List Char) :
    scan (s ++ [c]) = scan s := by
  induction s using line_induction with
  | last l hl =>
    by_cases hnewline : c = '\n'
    · rw [hnewline, scan_line, scan_nil, Option.none_or]
    · have hlc : '\n' ∉ l ++ [c] := by
        simp [hl, Ne.symm hnewline]
      rw [scan_of_not_mem hl, scan_of_not_mem hlc]
      refine lineReport?_congr ?_
      rw [trim, trimBy_append_of_all_right (by simp [hc]), trim]
  | line l s _ ih =>
    rw [List.append_assoc, List.cons_append, scan_line, scan_line, ih]

theorem scan_append_of_all {e : List Char} (he : e.all isBlank = true) (s : List Char) :
    scan (s ++ e) = scan s := by
  induction e generalizing s with
  | nil => rw [List.append_nil]
  | cons c e ih =>
    rw [List.all_cons, Bool.and_eq_true] at he
    rw [← List.singleton_append, ← List.append_assoc, ih he.2, scan_append_blank he.1]

theorem scan_of_all_append {b : List Char} (hb : b.all isBlank = true) (s : List Char) :
    scan (b ++ s) = scan s := by
  induction b with
  | nil => rw [List.nil_append]
  | cons c b ih =>
    rw [List.all_cons, Bool.and_eq_true] at hb
    rw [List.cons_append, scan_cons_blank hb.1, ih hb.2]

/-- **White space around a text does not matter** to the search in its lines. -/
theorem scan_trim (s : List Char) : scan (trim s) = scan s := by
  obtain ⟨before, after, hs, hbefore, hafter⟩ := exists_trimBy isBlank s
  conv_rhs => rw [hs, scan_of_all_append hbefore, scan_append_of_all hafter]
  rw [trim]

/-! ## What is found -/

/-- The report that is found in a text, be it the whole or one of its lines. -/
def found? (s : List Char) : Option Report :=
  (report? (trim s)).or (scan s)

theorem report_eq (output : String) :
    report output = match found? output.toList with
      | some r => .ok r
      | none => .error (.noReport (String.ofList (trim output.toList))) := by
  have hscan : ((trim output.toList).splitOn '\n').reverse.findSome? lineReport? =
      scan output.toList := scan_trim output.toList
  simp only [report, found?, hscan]
  cases report? (trim output.toList) <;> rfl

theorem report_eq_ok_iff {output : String} {r : Report} :
    report output = .ok r ↔ found? output.toList = some r := by
  rw [report_eq]
  cases found? output.toList <;> simp

theorem report_eq_error_iff {output : String} {e : Error} :
    report output = .error e ↔
      found? output.toList = none ∧ e = .noReport (String.ofList (trim output.toList)) := by
  rw [report_eq]
  cases found? output.toList <;> simp [eq_comm]

/-- Where the whole is no report, it is searched. -/
theorem found?_of_whole {s : List Char} (h : Wire.report.ofText? (trim s) = none) :
    found? s = scan s := by
  rw [found?, report?, h, Option.none_or]

/-- More lines without a report, behind a text that ends in a line feed or with one before them. -/
theorem scan_append {s t : List Char} (h : s.getLast? = some '\n' ∨ t.head? = some '\n')
    (ht : scan t = none) : scan (s ++ t) = scan s := by
  rcases h with hlast | hhead
  · obtain ⟨s, rfl⟩ := List.getLast?_eq_some_iff.1 hlast
    rw [List.append_assoc, List.singleton_append, scan_line, ht, Option.none_or,
      scan_append_blank (by decide)]
  · obtain ⟨t, rfl⟩ := List.head?_eq_some_iff.1 hhead
    rw [scan_cons_blank (by decide)] at ht
    rw [scan_line, ht, Option.none_or]

/-- **The last line that tells a report decides.** For an output that is no report as a whole: a
report is found just when it is told by a line behind which no other line tells one, and where no
line tells any the fault shows the trimmed output. So lines that tell none may be added, as long as
the whole does not become a report. -/
theorem report_of_last_telling_line (output : String)
    (hwhole : Wire.report.ofText? (trim output.toList) = none) :
    (∀ r, report output = .ok r ↔
      ∃ before line after, (trim output.toList).splitOn '\n' = before ++ line :: after ∧
        Tells line r ∧ ∀ later ∈ after, ∀ r', ¬ Tells later r') ∧
    (report output = .error (.noReport (String.ofList (trim output.toList))) ↔
      ∀ line ∈ (trim output.toList).splitOn '\n', ∀ r, ¬ Tells line r) ∧
    ∀ more : String, output.toList.getLast? = some '\n' ∨ more.toList.head? = some '\n' →
      (∀ line ∈ more.toList.splitOn '\n', ∀ r, ¬ Tells line r) →
      Wire.report.ofText? (trim (output ++ more).toList) = none →
      ∀ r, report output = .ok r → report (output ++ more) = .ok r := by
  refine ⟨fun r => ?_, ?_, fun more hfeed hmore hstill r hr => ?_⟩
  · rw [report_eq_ok_iff, found?_of_whole hwhole, ← scan_trim, scan_eq_some_iff]
  · rw [report_eq_error_iff, and_iff_left rfl, found?_of_whole hwhole, ← scan_trim,
      scan_eq_none_iff]
  · rw [report_eq_ok_iff, found?_of_whole hwhole] at hr
    rw [report_eq_ok_iff, found?_of_whole hstill, String.toList_append,
      scan_append hfeed (scan_eq_none_iff.2 hmore), hr]

/-- A report with other output on both sides of it, among it an array and a record with a file that
is no text. -/
theorem report_before_other_lines :
    report ("x\r\n \x7b\"error\": \"No\"\x7d\r\n[1, 2]\n" ++ "\x7b\"file\": 7\x7d\n\n") =
      .ok ⟨none, none, some "No"⟩ := by
  have hlines : (trim "x\r\n \x7b\"error\": \"No\"\x7d\r\n[1, 2]\n".toList).splitOn '\n' =
      ["x\r".toList] ++ " \x7b\"error\": \"No\"\x7d\r".toList :: ["[1, 2]".toList] := by
    decide +kernel
  obtain ⟨hfound, -, hmore⟩ := report_of_last_telling_line
    "x\r\n \x7b\"error\": \"No\"\x7d\r\n[1, 2]\n" (by decide +kernel)
  refine hmore _ (.inl (by decide)) ?_ (by decide +kernel) _
    ((hfound ⟨none, none, some "No"⟩).2 ⟨_, _, _, hlines, ?_, ?_⟩)
  · rw [← scan_eq_none_iff]
    decide +kernel
  · rw [← lineReport?_eq_some_iff]
    decide +kernel
  · intro later hlater
    rw [← lineReport?_eq_none_iff, List.mem_singleton.1 hlater]
    decide +kernel

/-! ## Line ends -/

/-- A carriage return before a line feed is white space between two tokens, and nothing else can
stand there: a string or an escape that a line feed breaks is broken by a carriage return as
well. -/
theorem tokens_withReturns (s : List Char) :
    tokens ((withReturns s).map some) = tokens (s.map some) := by
  induction s using line_induction with
  | last l hl => rw [withReturns_of_not_mem hl]
  | line l s hl ih =>
    rw [withReturns_line, withReturns_of_not_mem hl]
    simp only [List.map_append, List.map_cons]
    rw [tokens_append (parts_return _), tokens_append (parts_newline _), tokens_space (by decide),
      tokens_space (by decide), tokens_space (by decide), ih]

theorem scan_withReturns (s : List Char) : scan (withReturns s) = scan s := by
  induction s using line_induction with
  | last l hl => rw [withReturns_of_not_mem hl]
  | line l s hl ih =>
    have hsplit : withReturns (l ++ '\n' :: s) = (l ++ ['\r']) ++ '\n' :: withReturns s := by
      rw [withReturns_line, withReturns_of_not_mem hl, List.append_assoc]
      rfl
    rw [hsplit, scan_line, scan_append_blank (by decide), ih, scan_line]

theorem found?_withReturns (s : List Char) : found? (withReturns s) = found? s := by
  -- Both stages see the same: the whole the same tokens, the search the same lines up to white
  -- space.
  have hwhole : report? (withReturns (trim s)) = report? (trim s) :=
    Format.ofText?_congr (tokens_withReturns (trim s))
  rw [found?, trim_withReturns, hwhole, scan_withReturns, found?]

theorem found?_between {before after : List Char} (hbefore : before.all isBlank = true)
    (hafter : after.all isBlank = true) (s : List Char) :
    found? (before ++ (s ++ after)) = found? s := by
  rw [found?, trim, trimBy_append_of_all hbefore, trimBy_append_of_all_right hafter,
    scan_of_all_append hbefore, scan_append_of_all hafter, found?, trim]

/-- **How lines end does not matter.** With a carriage return put before each line feed, and with
any white space around it, an output holds the same report, or none if it held none. -/
theorem report_of_line_ends (before s after : String) (hbefore : before.toList.all isBlank = true)
    (hafter : after.toList.all isBlank = true) :
    (∀ r, report (before ++ String.ofList (withReturns s.toList) ++ after) = .ok r ↔
      report s = .ok r) ∧
    ((∃ e, report (before ++ String.ofList (withReturns s.toList) ++ after) = .error e) ↔
      ∃ e, report s = .error e) := by
  have hfound : found? (before ++ String.ofList (withReturns s.toList) ++ after).toList =
      found? s.toList := by
    rw [String.toList_append, String.toList_append, String.toList_ofList, List.append_assoc,
      found?_between hbefore hafter, found?_withReturns]
  constructor
  · intro r
    rw [report_eq_ok_iff, report_eq_ok_iff, hfound]
  · simp only [report_eq_error_iff, hfound, exists_and_left, exists_eq, and_true]

/-- A record on several lines, which is read as a whole, between white space of other kinds. -/
theorem report_of_returns :
    report ("\u2028" ++ String.ofList (withReturns "\x7b\n\"error\": \"No\"\n\x7d".toList) ++
      "\u00a0\r") = .ok ⟨none, none, some "No"⟩ :=
  ((report_of_line_ends "\u2028" "\x7b\n\"error\": \"No\"\n\x7d" "\u00a0\r" (by decide)
    (by decide)).1 _).2 (by decide +kernel)

end NotebookGoto.Kernel
