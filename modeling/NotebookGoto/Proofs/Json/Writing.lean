import NotebookGoto.Proofs.Json.Members
import NotebookGoto.Proofs.Json.Nested
import NotebookGoto.Proofs.Json.Spelling

/-!
# What is written is read back

Strings, numbers and records are written so that they fall into the tokens they stand for, whatever
follows them (`tokens_writeString`, `Datum.tokens_write`, `tokens_writeRecord`); only behind a
number something has to follow with which it does not go on. The tokens of a record lead to the
object with its members (`run_recordTokens`), from which the data are read back.

* **`Format.ofText?_toText`**: strict reading undoes writing, for every sound format.
* **`Format.ofText?_mixed`**: members may as well stand in another order with foreign ones among
  them.
* **`Format.read_toText`**: so does reading a body, where something may follow.
-/

namespace NotebookGoto.Json

open Text

/-! ## Strings

A character is written as itself, as an escape with a letter, or as an escape with four digits. The
last kind is read as a code unit, which is never part of a surrogate pair. -/

namespace Piece

/-- The piece as which a character is written. -/
def ofChar (c : Char) : Piece :=
  if c.toNat < 0x20 ∧ c ∉ ['\x08', '\t', '\n', '\x0c', '\r'] then .code c.toNat else .plain (some c)

theorem code?_low : ∀ n < 0x10, Decimal.hexDigits n = [Nat.digitChar n] ∧
    Decimal.hexDigit? (Nat.digitChar n) = some n := by
  decide

theorem code?_high : ∀ n < 0x20, 0x10 ≤ n →
    Decimal.hexDigits n = ['1', Nat.digitChar (n - 0x10)] ∧
      Decimal.hexDigit? (Nat.digitChar (n - 0x10)) = some (n - 0x10) := by
  decide

/-- What is written for a character is one piece. -/
theorem written_writeChar (c : Char) : (ofChar c).Written (writeChar c) := by
  unfold writeChar
  split
  case h_8 hquote hback h8 ht hn hf hr =>
    have hnamed : c ∉ ['\x08', '\t', '\n', '\x0c', '\r'] := by
      simp only [List.mem_cons, List.not_mem_nil, or_false, not_or]
      exact ⟨h8, ht, hn, hf, hr⟩
    have hzero : Decimal.hexDigit? '0' = some 0 := rfl
    -- A control has one digit below sixteen and two above, and zeros are written before them.
    split
    · rename_i hlow
      obtain ⟨hdigits, hvalue⟩ := code?_low c.toNat hlow
      have hpiece : ofChar c = .code (((0 * 16 + 0) * 16 + 0) * 16 + c.toNat) := by
        rw [ofChar, if_pos ⟨by omega, hnamed⟩]
        simp
      rw [hdigits, hpiece]
      exact .digits hzero hzero hzero hvalue
    · rename_i hlow
      split
      · rename_i hhigh
        obtain ⟨hdigits, hvalue⟩ := code?_high c.toNat hhigh (by omega)
        have hpiece : ofChar c = .code (((0 * 16 + 0) * 16 + 1) * 16 + (c.toNat - 0x10)) := by
          have hsum : ((0 * 16 + 0) * 16 + 1) * 16 + (c.toNat - 0x10) = c.toNat := by omega
          rw [ofChar, if_pos ⟨hhigh, hnamed⟩, hsum]
        rw [hdigits, hpiece]
        exact .digits hzero hzero rfl hvalue
      · rename_i hhigh
        have hpiece : ofChar c = .plain (some c) := if_neg fun h => hhigh h.1
        rw [hpiece]
        exact .plain (by omega) hquote hback
  all_goals exact .letter (by decide)

theorem body_writeChar (s : List Char) : Body (s.map ofChar) (s.flatMap writeChar) := by
  induction s with
  | nil => exact .nil
  | cons c s ih => exact .cons (written_writeChar c) ih

/-- Pieces as which characters are written denote these characters. None is part of a surrogate
pair. -/
theorem denotes_ofChar (s : List Char) : Denotes (s.map ofChar) (s.map some) := by
  induction s with
  | nil => exact .nil
  | cons c s ih =>
    rw [List.map_cons, List.map_cons, ofChar]
    split
    · rename_i hc
      have hhigh : isHigh c.toNat = false := by simp [isHigh]; omega
      have hlow : isLow c.toNat = false := by simp [isLow]; omega
      have halone : some c = alone c.toNat := by
        rw [alone, hhigh, hlow, Bool.or_false, if_neg (by decide), Char.ofNat_toNat]
      rw [halone]
      refine .alone (fun p _ => ?_) ih
      cases p with
      | plain u => rfl
      | code n => rw [isPair, hhigh, Bool.false_and]
    · exact .plain ih

end Piece

theorem written_writeString (s : List Char) : (Token.string (s.map some)).Written (writeString s) :=
  .string (Piece.body_writeChar s) (Piece.denotes_ofChar s)

/-- **A string is one token**, whatever follows it. -/
theorem tokens_writeString (s : List Char) (rest : Symbols) :
    tokens ((writeString s).map some ++ rest) = .string (s.map some) :: tokens rest :=
  Token.tokens_written (written_writeString s) fun _ e => nomatch e

/-! ## Numbers -/

/-- Digits do not start with a zero, but for the number zero. -/
theorem digits_head (n : Nat) (hn : 0 < n) : ∃ d ds, Decimal.digits n = d :: ds ∧ d ≠ '0' := by
  induction n using Nat.strongRecOn with
  | ind n ih =>
    by_cases hlow : n < 10
    · have hdigit : ∀ n < 10, 0 < n → Nat.digitChar n ≠ '0' := by decide
      exact ⟨n.digitChar, [], Nat.toDigits_of_lt_base hlow, hdigit n hlow hn⟩
    · obtain ⟨d, ds, hds, hd⟩ := ih (n / 10) (by omega) (by omega)
      refine ⟨d, ds ++ [(n % 10).digitChar], ?_, hd⟩
      rw [Decimal.digits, Nat.toDigits_of_base_le (by decide) (by omega), ← Decimal.digits, hds]
      rfl

theorem Number.written_digits (n : Nat) :
    Number.Written ⟨false, Decimal.digits n, [], none⟩ (Decimal.digits n) := by
  have hdigits : IsDigits (Decimal.digits n) :=
    ⟨Nat.toDigits_ne_nil, fun c hc => Nat.isDigit_of_mem_toDigits (by decide) (by decide) hc⟩
  have hzero : (Decimal.digits n).head? = some '0' → Decimal.digits n = ['0'] := by
    intro h
    by_cases hn : n = 0
    · subst hn
      rfl
    · obtain ⟨d, ds, hds, hd⟩ := digits_head n (by omega)
      rw [hds] at h
      exact absurd (Option.some.inj h) hd
  have hwritten : Number.Written ⟨false, Decimal.digits n, [], none⟩
      ([] ++ (Decimal.digits n ++ ([] ++ []))) := .mk hdigits hzero .none .none
  rwa [List.append_nil, List.append_nil] at hwritten

/-! ## Records

The tokens of a record depend on its members alone, not on how they are set. -/

/-- The token as which a datum is written. -/
def Datum.token : Datum → Token
  | .null => .null
  | .text s => .string (s.toList.map some)
  | .word n => .number ⟨false, Decimal.digits n.toNat, [], none⟩

theorem Datum.written_write (d : Datum) : d.token.Written d.write := by
  cases d with
  | null => exact .null
  | text s => exact written_writeString s.toList
  | word n => exact .number (Number.written_digits n.toNat)

theorem Datum.tokens_write (d : Datum) {rest : Symbols} (hrest : EndsNumber rest) :
    tokens (d.write.map some ++ rest) = d.token :: tokens rest :=
  Token.tokens_written d.written_write fun _ _ => hrest

/-- The key of a member with the tokens of its value. -/
def writtenMember (m : String × Datum) : Symbols × List Token :=
  keyed (m.1, [m.2.token])

/-- The tokens of a record. -/
def recordTokens (ms : List (String × Datum)) : List Token :=
  objectTokens (ms.map writtenMember)

/-- A layout that sets members apart by commas and white space only. -/
structure Layout.Spaced (layout : Layout) : Prop where
  start : layout.start.all isSpace = true
  separator : ∃ ws, layout.separator = ',' :: ws ∧ ws.all isSpace = true
  afterColon : layout.afterColon.all isSpace = true
  finish : layout.finish.all isSpace = true

theorem Layout.spaced_compact : Layout.compact.Spaced :=
  ⟨by decide, ⟨[], rfl, by decide⟩, by decide, by decide⟩

theorem Layout.spaced_pretty : Layout.pretty.Spaced :=
  ⟨by decide, ⟨['\n', ' ', ' '], rfl, by decide⟩, by decide, by decide⟩

/-- A member as it is written. -/
def writeMember (layout : Layout) (m : String × Datum) : List Char :=
  writeString m.1.toList ++ [':'] ++ layout.afterColon ++ m.2.write

theorem writeRecord_eq (layout : Layout) (ms : List (String × Datum)) :
    writeRecord layout ms = ['\x7b'] ++ layout.start ++
      layout.separator.intercalate (ms.map (writeMember layout)) ++ layout.finish ++ ['\x7d'] :=
  rfl

theorem tokens_writeMember {layout : Layout} (hl : layout.Spaced) (m : String × Datum)
    {rest : Symbols} (hrest : EndsNumber rest) :
    tokens ((writeMember layout m).map some ++ rest) =
      memberTokens (writtenMember m) ++ tokens rest := by
  have hparts : (writeMember layout m).map some ++ rest =
      (writeString m.1.toList).map some ++
        (some ':' :: (layout.afterColon.map some ++ (m.2.write.map some ++ rest))) := by
    simp [writeMember]
  rw [hparts, tokens_writeString, tokens_colon, tokens_spaces hl.afterColon, m.2.tokens_write hrest]
  rfl

/-- Texts joined by commas and white space fall into their tokens with commas between them, where
each of them does so before anything that ends a number. -/
theorem tokens_joined {α : Type} {write : α → List Char} {ts : α → List Token}
    (hwrite : ∀ a rest, EndsNumber rest → tokens ((write a).map some ++ rest) = ts a ++ tokens rest)
    {ws : List Char} (hws : ws.all isSpace = true) (l : List α) {rest : Symbols}
    (hrest : EndsNumber rest) :
    tokens (((',' :: ws).intercalate (l.map write)).map some ++ rest) =
      [.comma].intercalate (l.map ts) ++ tokens rest := by
  induction l with
  | nil => rfl
  | cons a l ih =>
    cases l with
    | nil =>
      rw [List.map_singleton, List.map_singleton, List.intercalate_singleton,
        List.intercalate_singleton]
      exact hwrite a rest hrest
    | cons b l =>
      -- The comma ends what stands before it, also where that is a number.
      simp only [List.map_cons] at ih
      simp only [List.map_cons, List.intercalate_cons_cons, List.map_append, List.append_assoc,
        List.cons_append, List.nil_append]
      rw [hwrite a _ (endsNumber_cons _ (by decide)), tokens_comma, tokens_spaces hws, ih]

theorem tokens_members {layout : Layout} (hl : layout.Spaced) (ms : List (String × Datum))
    {rest : Symbols} (hrest : EndsNumber rest) :
    tokens ((layout.separator.intercalate (ms.map (writeMember layout))).map some ++ rest) =
      [.comma].intercalate ((ms.map writtenMember).map memberTokens) ++ tokens rest := by
  obtain ⟨ws, hseparator, hws⟩ := hl.separator
  rw [hseparator, List.map_map]
  exact tokens_joined (fun m _ => tokens_writeMember hl m) hws ms hrest

/-- **A record falls into its tokens**, whatever follows it. -/
theorem tokens_writeRecord {layout : Layout} (hl : layout.Spaced) (ms : List (String × Datum))
    (rest : Symbols) :
    tokens ((writeRecord layout ms).map some ++ rest) = recordTokens ms ++ tokens rest := by
  have hparts : (writeRecord layout ms).map some ++ rest =
      some '\x7b' :: (layout.start.map some ++
        ((layout.separator.intercalate (ms.map (writeMember layout))).map some ++
          (layout.finish.map some ++ some '\x7d' :: rest))) := by
    rw [writeRecord_eq]
    simp
  have hend : EndsNumber (layout.finish.map some ++ some '\x7d' :: rest) :=
    endsNumber_spaces hl.finish (endsNumber_cons _ (by decide))
  rw [hparts, tokens_openingBrace, tokens_spaces hl.start, tokens_members hl ms hend,
    tokens_spaces hl.finish, tokens_closingBrace]
  simp [recordTokens, objectTokens]

theorem tokens_record {layout : Layout} (hl : layout.Spaced) (ms : List (String × Datum)) :
    tokens ((writeRecord layout ms).map some) = recordTokens ms := by
  have htokens := tokens_writeRecord hl ms []
  rwa [List.append_nil, tokens_nil, List.append_nil] at htokens

theorem Datum.run_token (d : Datum) : Step.run [] .value [d.token] = .complete d.json := by
  cases d <;> rfl

theorem Datum.isValue_token (d : Datum) : IsValue [d.token] := by
  cases d with
  | null => exact .null
  | text s => exact .string _
  | word n => exact .number _

/-- Members whose names are texts lead to the object of their values under these names. -/
theorem run_keyed {ms : List (String × List Token)} (h : ∀ m ∈ ms, IsComplete m.2) :
    Step.run [] .value (objectTokens (ms.map keyed)) =
      .complete (.object ((ms.map fun m => (m.1, valueOf m.2)).map keyed) true) := by
  rw [Step.run_objectTokens (List.forall_mem_map.2 h), List.map_map, List.map_map]
  rfl

/-- **The tokens of a record lead to the object with its members.** -/
theorem run_recordTokens (ms : List (String × Datum)) :
    Step.run [] .value (recordTokens ms) = .complete (.object (ms.map member) true) := by
  have hcomplete : ∀ m ∈ ms.map fun m => (m.1, [m.2.token]), IsComplete m.2 :=
    List.forall_mem_map.2 fun m _ => isComplete_of_run m.2.run_token
  have hvalues : (ms.map fun m => (m.1, [m.2.token])).map (fun m => (m.1, valueOf m.2)) =
      ms.map fun m => (m.1, m.2.json) := by
    rw [List.map_map]
    exact List.map_congr_left fun m _ => Prod.ext rfl (valueOf_of_run m.2.run_token)
  have hrun := run_keyed hcomplete
  rwa [hvalues, List.map_map, List.map_map] at hrun

theorem read_writeRecord {layout : Layout} (hl : layout.Spaced) (ms : List (String × Datum)) :
    read ((writeRecord layout ms).map some) = (.object (ms.map member) true, []) := by
  rw [read, tokens_record hl]
  exact build_of_run (run_recordTokens ms)

/-! ## The characters of what is written

Controls are only written as escapes, so what is written stays on one line unless its layout breaks
it. -/

/-- Whether a character is none of the controls that a string may not hold. -/
def isPrinted (c : Char) : Bool :=
  0x20 ≤ c.toNat

theorem newline_not_mem_of_all_isPrinted {s : List Char} (h : s.all isPrinted = true) :
    '\n' ∉ s := by
  intro hmem
  have hprinted : isPrinted '\n' = true := List.all_eq_true.1 h _ hmem
  revert hprinted
  decide

theorem all_isPrinted_writeChar (c : Char) : (writeChar c).all isPrinted = true := by
  have hlow : ∀ n < 0x20, (Decimal.hexDigits n).all isPrinted = true := by decide
  have hescape (s : List Char) (hs : s.all isPrinted = true) (hc : c.toNat < 0x20) :
      (s ++ Decimal.hexDigits c.toNat).all isPrinted = true := by
    rw [List.all_append, hs, hlow c.toNat hc]
    rfl
  unfold writeChar
  split
  case h_8 =>
    split
    · rename_i hc
      exact hescape _ (by decide) (by omega)
    · split
      · rename_i hc
        exact hescape _ (by decide) hc
      · rename_i hc
        simp [isPrinted]
        omega
  all_goals decide

theorem all_isPrinted_writeString (s : List Char) : (writeString s).all isPrinted = true := by
  have hchars : (s.flatMap writeChar).all isPrinted = true := by
    rw [List.all_flatMap, List.all_eq_true]
    exact fun c _ => all_isPrinted_writeChar c
  have hquote : isPrinted '"' = true := by decide
  rw [writeString, List.cons_append, List.all_cons, List.all_append, hchars, hquote]
  rfl

theorem Datum.all_isPrinted_write (d : Datum) : d.write.all isPrinted = true := by
  cases d with
  | null => decide
  | text s => exact all_isPrinted_writeString s.toList
  | word n =>
    rw [List.all_eq_true]
    intro c hc
    have hdigit : c.isDigit = true :=
      Nat.isDigit_of_mem_toDigits (b := 10) (by decide) (by decide) hc
    simp only [Char.isDigit, Bool.and_eq_true, decide_eq_true_eq, UInt32.le_iff_toNat_le] at hdigit
    exact decide_eq_true (Nat.le_trans (by decide) hdigit.1)

theorem all_isPrinted_writeMember (m : String × Datum) :
    (writeMember .compact m).all isPrinted = true := by
  have hcolon : [':'].all isPrinted = true := by decide
  rw [writeMember, List.all_append, List.all_append, List.all_append, all_isPrinted_writeString,
    hcolon, m.2.all_isPrinted_write]
  rfl

/-- What is written in one line holds no control, and so no line feed. -/
theorem all_isPrinted_writeRecord (ms : List (String × Datum)) :
    (writeRecord .compact ms).all isPrinted = true := by
  have hmembers : ([','].intercalate (ms.map (writeMember .compact))).all isPrinted = true :=
    all_intercalate (by decide) (List.forall_mem_map.2 fun m _ => all_isPrinted_writeMember m)
  rw [writeRecord_eq]
  show (['\x7b'] ++ [] ++ [','].intercalate (ms.map (writeMember .compact)) ++ [] ++
    ['\x7d']).all isPrinted = true
  rw [List.all_append, List.all_append, List.all_append, hmembers]
  decide

/-! ## Formats -/

namespace Format

variable {α : Type} {f : Format α}

/-- **A text that was written is read back.** -/
theorem ofText?_toText (hf : f.Sound) (a : α) : f.ofText? (f.toText a) = some a := by
  rw [ofText?_eq_some_iff, readAll, toText, read_writeRecord Layout.spaced_compact]
  exact read_members hf a

theorem read_toText (hf : f.Sound) (a : α) :
    f.read (Json.read ((f.toText a).map some)).1 = .ok a := by
  rw [toText, read_writeRecord Layout.spaced_compact]
  exact read_members hf a

variable {ms : List (String × List Token)} {text : List Char}

/-- **A value is read back from every text of its members**, in whatever order they stand, with any
values under foreign names between them. Those that are left out hold what a field that is left out
holds. -/
theorem ofText?_mixed (hf : f.Sound) (a : α) {found : List (String × Datum)}
    (h : Mixed (f.fields.map (·.name)) (fun d => [d.token]) IsValue ms found)
    (hfound : found.Subperm (f.members a))
    (habsent : ∀ p ∈ f.fields.zip (f.toData a), (p.1.name, p.2) ∉ found → p.1.absent = some p.2)
    (htext : tokens (text.map some) = objectTokens (ms.map keyed)) : f.ofText? text = some a := by
  have hvalues : ∀ m ∈ ms, IsComplete m.2 :=
    h.forall_mem (fun d => d.isValue_token.isComplete.1) fun _ hv => hv.isComplete.1
  have hmixed : Mixed (f.fields.map (·.name)) Datum.json (·.whole = true)
      (ms.map fun m => (m.1, valueOf m.2)) found :=
    h.map (fun d => valueOf_of_run d.run_token) fun _ hv => hv.isComplete.2
  rw [ofText?_eq_some_iff, readAll_of_run (htext ▸ run_keyed hvalues)]
  exact read_of_read_fields
    (Fields.read_mixed f.early hf.distinct (hf.holds a) hmixed hfound habsent)

/-- **A text that repeats a known name is none of a value's.** -/
theorem ofText?_repeated {name : String} (hvalues : ∀ m ∈ ms, IsComplete m.2)
    (hname : name ∈ f.fields.map (·.name)) (hcount : 1 < (ms.map Prod.fst).count name)
    (htext : tokens (text.map some) = objectTokens (ms.map keyed)) : f.ofText? text = none := by
  rw [Option.eq_none_iff_forall_ne_some]
  intro a ha
  rw [ofText?_eq_some_iff, readAll_of_run (htext ▸ run_keyed hvalues), read] at ha
  cases hread : f.fields.read f.early
      (.object ((ms.map fun m => (m.1, valueOf m.2)).map keyed) true) with
  | error e =>
    rw [hread] at ha
    cases ha
  | ok ds =>
    have hle := Fields.count_le_one_of_read hname hread
    rw [List.map_map] at hle
    exact absurd hle (Nat.not_le.2 hcount)

end Format

end NotebookGoto.Json
