import NotebookGoto.Text.Affix
import NotebookGoto.Text.Blank

/-!
# Line ends

A text is a line, or a line with a line feed and more text behind it, and a statement about texts
can be proved by going from one line to the next (`line_induction`). The other way to end a line is
a carriage return and a line feed. Both are white space, so a text with the one way of ending its
lines is trimmed where the same text with the other way is (`trim_withReturns`).
-/

namespace NotebookGoto.Text

/-- Induction over the lines of a text. -/
theorem line_induction {motive : List Char → Prop} (last : ∀ l, '\n' ∉ l → motive l)
    (line : ∀ l s, '\n' ∉ l → motive s → motive (l ++ '\n' :: s)) (s : List Char) : motive s := by
  by_cases h : '\n' ∈ s
  · obtain ⟨l, rest, hs, hl⟩ := List.eq_append_cons_of_mem h
    rw [hs]
    exact line l rest hl (line_induction last line rest)
  · exact last s h
termination_by s.length
decreasing_by
  rw [hs, List.length_append, List.length_cons]
  omega

/-- A text with a carriage return put before each of its line feeds. -/
def withReturns (s : List Char) : List Char :=
  s.flatMap fun c => if c = '\n' then ['\r', '\n'] else [c]

theorem withReturns_append (s t : List Char) :
    withReturns (s ++ t) = withReturns s ++ withReturns t :=
  List.flatMap_append

theorem withReturns_of_not_mem {s : List Char} (h : '\n' ∉ s) : withReturns s = s := by
  induction s with
  | nil => rfl
  | cons c s ih =>
    have hc : c ≠ '\n' := fun e => h (e ▸ List.mem_cons_self)
    rw [withReturns, List.flatMap_cons, if_neg hc, ← withReturns,
      ih fun hs => h (List.mem_cons_of_mem c hs)]
    rfl

theorem withReturns_line (l s : List Char) :
    withReturns (l ++ '\n' :: s) = withReturns l ++ '\r' :: '\n' :: withReturns s := by
  rw [withReturns_append]
  rfl

theorem all_withReturns {p : Char → Bool} (hreturn : p '\r' = true) {s : List Char}
    (h : s.all p = true) : (withReturns s).all p = true := by
  rw [withReturns, List.all_flatMap, List.all_eq_true]
  intro c hc
  have hp := List.all_eq_true.1 h c hc
  split
  · rename_i hnewline
    subst hnewline
    simp [hreturn, hp]
  · simp [hp]

theorem head?_withReturns (s : List Char) :
    (withReturns s).head? = s.head?.map fun c => if c = '\n' then '\r' else c := by
  cases s with
  | nil => rfl
  | cons c s =>
    rw [withReturns, List.flatMap_cons, List.head?_cons, Option.map_some]
    split <;> rfl

theorem getLast?_withReturns (s : List Char) : (withReturns s).getLast? = s.getLast? := by
  rcases List.eq_nil_or_concat s with rfl | ⟨t, c, rfl⟩
  · rfl
  · rw [List.concat_eq_append, withReturns_append, List.getLast?_append, List.getLast?_concat,
      withReturns, List.flatMap_singleton]
    split
    · rename_i hnewline
      rw [hnewline]
      rfl
    · rfl

/-- Carriage returns change nothing at an end that is not white space. -/
theorem trim_withReturns (s : List Char) : trim (withReturns s) = withReturns (trim s) := by
  obtain ⟨before, after, hs, hbefore, hafter⟩ := exists_trimBy isBlank s
  have hhead : ∀ c ∈ (withReturns (trim s)).head?, ¬ isBlank c := by
    intro c hc
    rw [head?_withReturns] at hc
    obtain ⟨d, hd, rfl⟩ := Option.map_eq_some_iff.1 hc
    have hblank := not_of_head?_trimBy hd
    split
    · rename_i hnewline
      subst hnewline
      exact absurd (by decide) hblank
    · exact hblank
  have hlast : ∀ c ∈ (withReturns (trim s)).getLast?, ¬ isBlank c := by
    intro c hc
    rw [getLast?_withReturns] at hc
    exact not_of_getLast?_trimBy hc
  calc trim (withReturns s)
    _ = trimBy isBlank (withReturns before ++ (withReturns (trim s) ++ withReturns after)) := by
      rw [← withReturns_append, ← withReturns_append, trim, trim, ← hs]
    _ = withReturns (trim s) :=
      trimBy_between (all_withReturns (by decide) hbefore) (all_withReturns (by decide) hafter)
        hhead hlast

end NotebookGoto.Text
