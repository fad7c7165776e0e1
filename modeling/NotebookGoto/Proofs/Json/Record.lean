import Mathlib.Data.List.Induction
import NotebookGoto.Json.Format
import NotebookGoto.Proofs.Json.Value

/-!
# Reading records

What is read as a record was well-formed up to its end (`Fields.whole_of_read`), so a record's text
has tokens that lead to a complete value (`Format.run_of_ofText?`), and reading does not depend on
white space at its end (`Format.ofText?_trimEnd`).

The other direction starts from data. `Kind.Holds` says which data a field may hold, and a field
reads back what it holds from the value as which that is written (`Kind.read_json`).
-/

namespace NotebookGoto.Json

open Text

/-! ## Only well-formed values are records -/

namespace Fields

theorem closed_of_readItems {fields : Fields} {early closed : Bool} {items : List Json}
    {ds : List Datum} (h : readItems early closed fields items = .ok ds) : closed = true := by
  induction fields generalizing items ds with
  | nil =>
    cases items with
    | nil => cases closed <;> first | rfl | cases h
    | cons v rest => cases h
  | cons field fields ih =>
    cases items with
    | nil => cases closed <;> first | rfl | cases h
    | cons v rest =>
      rw [readItems] at h
      cases hv : field.kind.read v with
      | error e =>
        rw [hv] at h
        cases h
      | ok d =>
        -- The fault of an array that is not closed comes from the last call.
        rw [hv] at h
        cases hrest : readItems early closed fields rest with
        | error e =>
          dsimp only at h
          rw [hrest] at h
          cases h
        | ok ds' => exact ih hrest

/-- A record that breaks off is never read, since its end is looked at last. -/
theorem whole_of_read {fields : Fields} {early : Bool} {v : Json} {ds : List Datum}
    (h : fields.read early v = .ok ds) : v.whole = true := by
  cases v with
  | object members closed =>
    rw [read] at h
    cases hm : readMembers fields [] members with
    | error e =>
      rw [hm] at h
      cases h
    | ok found =>
      rw [hm] at h
      cases closed with
      | true => rfl
      | false => cases h
  | array items closed => exact closed_of_readItems h
  | _ => cases h

end Fields

namespace Format

variable {α : Type} {f : Format α}

theorem whole_of_read {v : Json} {a : α} (h : f.read v = .ok a) : v.whole = true := by
  rw [read] at h
  cases hd : f.fields.read f.early v with
  | error e =>
    rw [hd] at h
    cases h
  | ok ds => exact Fields.whole_of_read hd

/-- A text is a value's just when its own value is read as that. -/
theorem ofText?_eq_some_iff {s : List Char} {a : α} :
    f.ofText? s = some a ↔ f.read (readAll (s.map some)) = .ok a := by
  rw [ofText?]
  cases f.read (readAll (s.map some)) <;> simp [Except.toOption]

/-- The tokens of a record's text lead to a complete value. -/
theorem run_of_ofText? {s : List Char} {a : α} (h : f.ofText? s = some a) :
    ∃ v, Step.run [] .value (tokens (s.map some)) = .complete v :=
  ⟨_, exists_run_of_whole (whole_of_read (ofText?_eq_some_iff.1 h))⟩

/-- Reading looks at tokens only. -/
theorem ofText?_congr {s s' : List Char} (h : tokens (s.map some) = tokens (s'.map some)) :
    f.ofText? s = f.ofText? s' := by
  rw [ofText?, ofText?, readAll_congr h]

theorem ofText?_of_append_blank {s : List Char} {c : Char} {a : α} (hc : isBlank c = true)
    (h : f.ofText? (s ++ [c]) = some a) : f.ofText? s = some a := by
  obtain ⟨v, hrun⟩ := run_of_ofText? h
  have hbroken := Step.broken_not_mem_of_run hrun
  rw [List.map_append, List.map_cons, List.map_nil] at hbroken
  rw [← h]
  apply ofText?_congr
  rw [List.map_append, List.map_cons, List.map_nil, tokens_append_blank hc hbroken]

/-- White space at the end of a record's text may be left out. -/
theorem ofText?_trimEnd {s : List Char} {a : α} (h : f.ofText? s = some a) :
    f.ofText? (trimEndBy isBlank s) = some a := by
  induction s using List.reverseRecOn with
  | nil => exact h
  | append_singleton s c ih =>
    by_cases hc : isBlank c = true
    · rw [trimEndBy_append_of_all (by simp [hc])]
      exact ih (ofText?_of_append_blank hc h)
    · have hself : trimEndBy isBlank (s ++ [c]) = s ++ [c] := by
        simp [trimEndBy, List.reverse_append, hc]
      rw [hself]
      exact h

/-- **Text before a record leaves none.** Where a record starts with a brace on a line of its own,
whatever stands on the lines before it makes the whole something other than a record. -/
theorem ofText?_after_line {β : Type} {g : Format β} {before s : List Char} {c : Char} {a : α}
    (hc : isBlank c = false) (h : f.ofText? ('\x7b' :: s) = some a) :
    g.ofText? (c :: before ++ '\n' :: '\x7b' :: s) = none := by
  obtain ⟨v, hrun⟩ := run_of_ofText? h
  have hsplit : (c :: before ++ '\n' :: '\x7b' :: s).map some =
      (c :: before).map some ++ some '\n' :: some '\x7b' :: s.map some := by
    simp
  rw [List.map_cons, tokens_openingBrace] at hrun
  rw [Option.eq_none_iff_forall_ne_some]
  intro b hb
  obtain ⟨w, hwhole⟩ := run_of_ofText? hb
  rw [hsplit, tokens_append (parts_newline _), tokens_space (by decide),
    tokens_openingBrace] at hwhole
  -- Text that breaks breaks the whole, and other text is not completed by a value behind it.
  by_cases hbroken : .broken ∈ tokens ((c :: before).map some)
  · rw [if_pos hbroken] at hwhole
    exact Step.broken_not_mem_of_run hwhole hbroken
  · rw [if_neg hbroken] at hwhole
    exact Step.run_ne_complete (tokens_ne_nil hc _) hrun w hwhole

end Format

/-! ## Data and their values

Each datum has one value as which it is written. A field that may hold the datum reads it back from
that value. -/

/-- The value as which a datum is written. -/
def Datum.json : Datum → Json
  | .null => .null
  | .text s => .string (s.toList.map some)
  | .word n => .number ⟨false, Decimal.digits n.toNat, [], none⟩

/-- Whether a field of a kind may hold a datum. -/
def Kind.Holds : Kind → Datum → Prop
  | .text, .text _ => True
  | .word, .word _ => True
  | .choice names _, .text s => s ∈ names
  | .optional _, .null => True
  | .optional kind, d => kind.Holds d
  | _, _ => False

theorem text?_map_some (s : List Char) : text? (s.map some) = some (String.ofList s) := by
  have hmap : (s.map some).mapM id = some s := by
    induction s with
    | nil => rfl
    | cons c s ih =>
      rw [List.map_cons, List.mapM_cons, ih]
      rfl
  rw [text?, hmap]
  rfl

theorem readText_json (s : String) : readText (Datum.text s).json = .ok s := by
  have htext : text? (s.toList.map some) = some s := by
    rw [text?_map_some, String.ofList_toList]
  rw [Datum.json, readText]
  simp only [htext]

theorem readWord_json (n : UInt32) : readWord (Datum.word n).json = .ok n := by
  have hword : Number.word? ⟨false, Decimal.digits n.toNat, [], none⟩ = some n := by
    rw [Number.word?, if_neg (by simp), Decimal.value_digits, Decimal.word?_toNat]
  rw [Datum.json, readWord]
  simp only [hword]

theorem readChoice_json {names : List String} {s : String} (loose : Bool) (h : s ∈ names) :
    readChoice names loose (Datum.text s).json = .ok s := by
  show readChoice.pick names (s.toList.map some) = .ok s
  rw [readChoice.pick, text?_map_some, String.ofList_toList]
  exact if_pos h

/-- A field reads back what it holds. -/
theorem Kind.read_json {kind : Kind} {d : Datum} (h : kind.Holds d) :
    kind.read d.json = .ok d := by
  induction kind with
  | text =>
    cases d with
    | text s => rw [Kind.read, readText_json]; rfl
    | null | word => exact h.elim
  | word =>
    cases d with
    | word n => rw [Kind.read, readWord_json]; rfl
    | null | text => exact h.elim
  | choice names loose =>
    cases d with
    | text s => rw [Kind.read, readChoice_json loose h]; rfl
    | null | word => exact h.elim
  | optional kind ih =>
    cases d with
    | null => rfl
    | text s => exact ih h
    | word n => exact ih h

end NotebookGoto.Json
