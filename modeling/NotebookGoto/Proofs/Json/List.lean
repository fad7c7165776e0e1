import NotebookGoto.Proofs.Json.Writing

/-!
# Lists of records

A list is written as an array of its items. The tokens of an array lead to the array of the items'
values (`Step.run_arrayTokens`), from which a format reads its values back one after the other.

* **`Format.readList_array`**: the half in which no text occurs.
* **`Format.readList_write`**: a list of records that was written is read back.
-/

namespace NotebookGoto.Json

open Text

/-! ## Arrays of records -/

theorem tokens_openingSquare (rest : Symbols) :
    tokens (some '[' :: rest) = .opening .square :: tokens rest :=
  tokens_token (by decide) rfl

theorem tokens_closingSquare (rest : Symbols) :
    tokens (some ']' :: rest) = .closing .square :: tokens rest :=
  tokens_token (by decide) rfl

theorem readAll_records (l : List (List (String × Datum))) :
    readAll ((['['] ++ [','].intercalate (l.map (writeRecord .compact)) ++ [']']).map some) =
      .array (l.map fun ms => .object (ms.map member) true) true := by
  have hparts : (['['] ++ [','].intercalate (l.map (writeRecord .compact)) ++ [']']).map some =
      some '[' :: (([','].intercalate (l.map (writeRecord .compact))).map some ++ [some ']']) := by
    simp
  have hitems : tokens (([','].intercalate (l.map (writeRecord .compact))).map some ++ [some ']']) =
      [.comma].intercalate (l.map recordTokens) ++ tokens [some ']'] :=
    tokens_joined (fun ms rest _ => tokens_writeRecord Layout.spaced_compact ms rest) rfl l
      (endsNumber_cons _ (by decide))
  have hcomplete : ∀ item ∈ l.map recordTokens, IsComplete item :=
    List.forall_mem_map.2 fun ms _ => isComplete_of_run (run_recordTokens ms)
  have hvalues :
      (l.map recordTokens).map valueOf = l.map fun ms => .object (ms.map member) true := by
    rw [List.map_map]
    exact List.map_congr_left fun ms _ => valueOf_of_run (run_recordTokens ms)
  apply readAll_of_run
  rw [hparts, tokens_openingSquare, hitems, tokens_closingSquare, tokens_nil, ← hvalues]
  exact Step.run_arrayTokens hcomplete

namespace Format

variable {α : Type} {f : Format α}

theorem readList_array (hf : f.Sound) (l : List α) :
    f.readList (.array (l.map fun a => .object ((f.members a).map member) true) true) = .ok l := by
  have hitems :
      (l.map fun a => Json.object ((f.members a).map member) true).mapM f.read = .ok l := by
    induction l with
    | nil => rfl
    | cons a l ih =>
      rw [List.map_cons, List.mapM_cons, read_members hf, ih]
      rfl
  rw [readList, hitems]
  rfl

/-- **A list that was written is read back.** -/
theorem readList_write (hf : f.Sound) (l : List α) :
    f.readList (readAll ((['['] ++ [','].intercalate (l.map f.toText) ++ [']']).map some)) =
      .ok l := by
  have htexts : l.map f.toText = (l.map f.members).map (writeRecord .compact) := by
    rw [List.map_map]
    rfl
  rw [htexts, readAll_records, List.map_map]
  exact readList_array hf l

end Format

end NotebookGoto.Json
