import NotebookGoto.Proofs.Json.Adequacy
import NotebookGoto.Proofs.Wire

/-!
# The order of members

Reports and outcomes are read back from every text of an object with their members, however these
are spelled, whatever their order, and with foreign members anywhere between them. A report passes
over any value under a foreign name. An outcome has to keep what it meets until its status is known,
which it does with plain values (`Outcome.IsPlain`). No member that is known may be repeated.

* **`members_in_any_order`**: all of this in one statement.

Foreign members are not passed over blindly, though. Their names have to be texts, and a number that
is kept must be one that a double can hold.
-/

namespace NotebookGoto.Wire

open Json Text

/-- Texts of an object whose members have certain names and values. -/
def IsObject (ms : List (String × List Token)) (text : List Char) : Prop :=
  AllWritten (objectTokens (ms.map keyed)) text

theorem report_ofText?_mixed (r : Report) {ms : List (String × List Token)}
    {found : List (String × Datum)} {text : List Char}
    (h : Mixed (report.fields.map (·.name)) (fun d => [d.token]) IsValue ms found)
    (hfound : found.Subperm (report.members r))
    (habsent : ∀ m ∈ report.members r, m ∉ found → m.2 = .null) (htext : IsObject ms text) :
    report.ofText? text = some r := by
  have hdefault : ∀ field ∈ report.fields, field.absent = some .null := by decide
  refine Format.ofText?_mixed sound_report r h hfound (fun p hp hnot => ?_)
    (tokens_of_allWritten htext)
  have hmember : (p.1.name, p.2) ∈ report.members r := by
    rw [Format.members, List.zip_map_left]
    exact List.mem_map.2 ⟨p, hp, rfl⟩
  rw [hdefault p.1 (List.of_mem_zip hp).1, ← habsent _ hmember hnot]

/-- **The order of members and foreign members do not matter.** A report is read back from its
members, of which one that is null may be left out, among any values under other names. An outcome
is read back from all of its members among plain values. If a known name is repeated, neither is
read. -/
theorem members_in_any_order :
    (∀ (r : Report) (ms : List (String × List Token)) (found : List (String × Datum))
      (text : List Char),
      Mixed (report.fields.map (·.name)) (fun d => [d.token]) IsValue ms found →
        found.Subperm (report.members r) → (∀ m ∈ report.members r, m ∉ found → m.2 = .null) →
          IsObject ms text → report.ofText? text = some r) ∧
    (∀ (o : Outcome) (ms : List (String × List Token)) (found : List (String × Datum))
      (text : List Char),
      Mixed ((Outcome.members o).map Prod.fst) (fun d => [d.token]) Outcome.IsPlain ms found →
        found.Perm (Outcome.members o) → IsObject ms text → Outcome.ofText? text = some o) ∧
    (∀ (ms : List (String × List Token)) (name : String) (text : List Char),
      (∀ m ∈ ms, IsValue m.2) → name ∈ report.fields.map (·.name) →
        1 < (ms.map Prod.fst).count name → IsObject ms text → report.ofText? text = none) ∧
    ∀ (o : Outcome) (ms : List (String × List Token)) (name : String) (text : List Char),
      (∀ m ∈ ms, IsValue m.2) →
        ("status", [(Datum.text (Outcome.status o).name).token]) ∈ ms →
          name ∈ (Outcome.members o).map Prod.fst → 1 < (ms.map Prod.fst).count name →
            IsObject ms text → Outcome.ofText? text = none := by
  refine ⟨?_, ?_, ?_, ?_⟩
  · intro r ms found text h hfound habsent htext
    exact report_ofText?_mixed r h hfound habsent htext
  · intro o ms found text h hfound htext
    exact Outcome.ofText?_mixed o h hfound (tokens_of_allWritten htext)
  · intro ms name text hvalues hname hcount htext
    exact Format.ofText?_repeated (fun m hm => (hvalues m hm).isComplete.1) hname hcount
      (tokens_of_allWritten htext)
  · intro o ms name text hvalues hstatus hname hcount htext
    exact Outcome.ofText?_repeated o (fun m hm => (hvalues m hm).isComplete.1) hstatus hname hcount
      (tokens_of_allWritten htext)

/-- A foreign value of which much could be said if it were read. -/
def nested : List Token :=
  arrayTokens
    [objectTokens [keyed ("file", [.number ⟨false, ['1'], [], some (false, ['9', '9', '9'])⟩])],
      [.string [none]]]

/-- Each kind of text: a report from which its null message is left out, an outcome with its status
at the end, and both with a name that is there twice. -/
theorem shuffled_and_repeated :
    report.ofText? " \x7b \"x\":[\x7b\"file\":1e999\x7d, \"\\ud800\"],
      \"l\\u0069ne\":3,\"\\u0066ile\" : \"a\\/b.py\"\x7d ".toList =
        some ⟨some "a/b.py", some 3, none⟩ ∧
    Outcome.ofText? "\x7b\"x\":-1,\"line\":3,\"y\":\"\\ud83e\\uDD80\",\"file\":\"a.py\",
      \"status\":\"definition\"\x7d".toList = some (.definition "a.py" 3) ∧
    report.ofText? "\x7b\"file\":null,\"x\":true,\"f\\u0069le\":\"a.py\"\x7d".toList = none ∧
    Outcome.ofText? "\x7b\"status\":\"definition\",\"file\":\"a.py\",\"line\":3,
      \"status\":\"definition\"\x7d".toList = none := by
  have hnested : IsValue nested := by
    refine .array (List.forall_mem_cons.2 ⟨.object ?_, List.forall_mem_singleton.2 (.string _)⟩)
    exact List.forall_mem_singleton.2 (.number _)
  have hreport : Mixed (report.fields.map (·.name)) (fun d => [d.token]) IsValue
      [("x", nested), ("line", [(Datum.word 3).token]), ("file", [(Datum.text "a/b.py").token])]
      [("line", .word 3), ("file", .text "a/b.py")] :=
    .foreign (by decide) hnested (.known (by decide) (.known (by decide) .nil))
  have houtcome : Mixed ((Outcome.members (.definition "a.py" 3)).map Prod.fst)
      (fun d => [d.token]) Outcome.IsPlain
      [("x", [.number ⟨true, Decimal.digits 1, [], none⟩]), ("line", [(Datum.word 3).token]),
        ("y", [(Datum.text "🦀").token]), ("file", [(Datum.text "a.py").token]),
        ("status", [(Datum.text "definition").token])]
      [("line", .word 3), ("file", .text "a.py"), ("status", .text "definition")] :=
    .foreign (by decide) (.number (by decide +kernel)) (.known (by decide)
      (.foreign (by decide) (.text "🦀") (.known (by decide) (.known (by decide) .nil))))
  have hfiles : ∀ m ∈ [("file", [Token.null]), ("x", [.bool true]),
      ("file", [(Datum.text "a.py").token])], IsValue m.2 :=
    List.forall_mem_cons.2 ⟨.null, List.forall_mem_cons.2 ⟨.bool true,
      List.forall_mem_singleton.2 (Datum.isValue_token _)⟩⟩
  have hstatuses : ∀ m ∈ (Outcome.members (.definition "a.py" 3) ++
      [("status", Datum.text "definition")]).map (fun m => (m.1, [m.2.token])), IsValue m.2 :=
    List.forall_mem_map.2 fun m _ => m.2.isValue_token
  obtain ⟨hread, hkept, htwice, hstatus⟩ := members_in_any_order
  refine ⟨?_, ?_, ?_, ?_⟩
  · exact hread _ _ _ _ hreport (by decide) (by decide) (allWritten_iff.2 (by decide +kernel))
  · exact hkept _ _ _ _ houtcome (by decide) (allWritten_iff.2 (by decide +kernel))
  · exact htwice _ "file" _ hfiles (by decide) (by decide) (allWritten_iff.2 (by decide +kernel))
  · exact hstatus (.definition "a.py" 3) _ "status" _ hstatuses (by decide) (by decide) (by decide)
      (allWritten_iff.2 (by decide +kernel))

/-- A report with a foreign name that is half of a surrogate pair. -/
def loneName : List Char :=
  "\x7b\"\\ud800\":null,\"file\":\"a.py\",\"line\":3,\"error\":null\x7d".toList

/-- An outcome with a whole number under a foreign name that is farther below zero than a double
reaches. -/
def farBelow : List Char :=
  "\x7b\"status\":\"definition\",\"file\":\"a.py\",\"line\":3,\"x\":-1".toList ++
    List.replicate 309 '0' ++ ['\x7d']

/-- **Not every foreign member is passed over.** Both are texts of objects with all members and a
foreign one, and neither is read. -/
theorem loneName_and_farBelow_refused :
    (AllWritten (objectTokens (([none], [.null]) ::
        (report.members ⟨some "a.py", some 3, none⟩).map writtenMember)) loneName ∧
      report.ofText? loneName = none) ∧
    IsObject ((Outcome.members (.definition "a.py" 3)).map (fun m => (m.1, [m.2.token])) ++
        [("x", [.number ⟨true, '1' :: List.replicate 309 '0', [], none⟩])]) farBelow ∧
      Outcome.ofText? farBelow = none := by
  refine ⟨⟨allWritten_iff.2 ?_, ?_⟩, allWritten_iff.2 ?_, ?_⟩
  all_goals decide +kernel

end NotebookGoto.Wire
