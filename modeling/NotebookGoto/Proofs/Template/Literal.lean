import NotebookGoto.Proofs.Json.Writing

/-!
# String literals of Python

A text is put into the code as it is written in JSON. Python reads it by rules of its own, which are
given here as far as they matter: a literal in double quotes ends at the first quote that is not
escaped, and what stands in it denotes code points. `literal?_writeString` says that what is written
is one literal up to its last character, and denotes the text that was written.
-/

namespace NotebookGoto.Python

open Text Json

/-- The code point for which a backslash stands together with the character after it. Python knows
more of these than are listed; none of them is written. -/
def escape? (c : Char) : Option Nat :=
  [('"', 0x22), ('\\', 0x5C), ('b', 0x08), ('t', 0x09), ('n', 0x0A), ('f', 0x0C),
    ('r', 0x0D)].lookup c

/-- The code point of an escape with four digits. -/
def code? (a b c d : Char) : Option Nat := do
  let a ← Decimal.hexDigit? a
  let b ← Decimal.hexDigit? b
  let c ← Decimal.hexDigit? c
  let d ← Decimal.hexDigit? d
  return ((a * 16 + b) * 16 + c) * 16 + d

/-- One more code point before those of a literal. -/
def before (n : Nat) (m : List Nat × List Char) : List Nat × List Char :=
  (n :: m.1, m.2)

/-- The code points of a literal of which the opening quote has been read, and the text behind its
closing quote. A literal does not go on over the end of a line. -/
def inside? : List Char → Option (List Nat × List Char)
  | [] => none
  | '"' :: rest => some ([], rest)
  | '\\' :: 'u' :: d₁ :: d₂ :: d₃ :: d₄ :: rest => do
    let n ← code? d₁ d₂ d₃ d₄
    (inside? rest).map (before n)
  | '\\' :: e :: rest => do
    let n ← escape? e
    (inside? rest).map (before n)
  | c :: rest =>
    if c = '\\' ∨ c = '\n' ∨ c = '\r' then none else (inside? rest).map (before c.toNat)

/-- The code points of a literal at the head of a text, and the text behind it. Three quotes open a
literal of another kind. -/
def literal? : List Char → Option (List Nat × List Char)
  | '"' :: rest => if ['"', '"'] <+: rest then none else inside? rest
  | _ => none

/-- The code points of a text. -/
def codePoints (s : String) : List Nat :=
  s.toList.map Char.toNat

theorem codePoints_injective {s t : String} (h : codePoints s = codePoints t) : s = t := by
  have hchars : s.toList = t.toList := List.map_injective_iff.2 (fun _ _ => Char.toNat_inj.1) h
  exact String.toList_inj.1 hchars

/-! ## What is written -/

/-- Any other character stands for itself. -/
theorem inside?_plain {c : Char} (hquote : c ≠ '"') (hplain : ¬ (c = '\\' ∨ c = '\n' ∨ c = '\r'))
    (rest : List Char) : inside? (c :: rest) = (inside? rest).map (before c.toNat) := by
  rw [inside?, if_neg hplain]
  · exact hquote
  · exact fun _ _ _ _ _ h => absurd (.inl h) hplain
  · exact fun _ _ h => absurd (.inl h) hplain

/-- A character is read as what it is, be it written as itself or as an escape. -/
theorem inside?_writeChar (c : Char) (rest : List Char) :
    inside? (writeChar c ++ rest) = (inside? rest).map (before c.toNat) := by
  unfold writeChar
  split
  case h_8 hquote hback _ _ hn _ hr =>
    have hzero : Decimal.hexDigit? '0' = some 0 := rfl
    split
    · rename_i hlow
      obtain ⟨hdigits, hvalue⟩ := Piece.code?_low c.toNat hlow
      rw [hdigits]
      simp [inside?, code?, hzero, hvalue]
    · rename_i hlow
      split
      · rename_i hhigh
        obtain ⟨hdigits, hvalue⟩ := Piece.code?_high c.toNat hhigh (by omega)
        have hone : Decimal.hexDigit? '1' = some 1 := rfl
        have hsum : 0x10 + (c.toNat - 0x10) = c.toNat := by omega
        rw [hdigits]
        simp [inside?, code?, hzero, hone, hvalue, hsum]
      · exact inside?_plain hquote (fun h => h.elim hback (·.elim hn hr)) rest
  all_goals rfl

theorem inside?_flatMap_writeChar (s : List Char) (rest : List Char) :
    inside? (s.flatMap writeChar ++ '"' :: rest) = some (s.map Char.toNat, rest) := by
  induction s with
  | nil => rfl
  | cons c s ih =>
    rw [List.flatMap_cons, List.append_assoc, inside?_writeChar, ih]
    rfl

/-- What is written for a character starts with something, and not with a quote. -/
theorem exists_writeChar_eq (c : Char) : ∃ d r, writeChar c = d :: r ∧ d ≠ '"' := by
  unfold writeChar
  split
  case h_8 hquote _ _ _ _ _ _ =>
    split
    · exact ⟨_, _, rfl, by decide⟩
    · split
      · exact ⟨_, _, rfl, by decide⟩
      · exact ⟨_, _, rfl, hquote⟩
  all_goals exact ⟨_, _, rfl, by decide⟩

/-- What stands behind the opening quote does not make three of it. -/
theorem not_quotes_prefix_written (s : List Char) :
    ¬ ['"', '"'] <+: s.flatMap writeChar ++ ['"'] := by
  rintro ⟨t, ht⟩
  cases s with
  | nil => cases ht
  | cons c s =>
    obtain ⟨d, r, hd, hquote⟩ := exists_writeChar_eq c
    rw [List.flatMap_cons, hd] at ht
    exact hquote (List.cons.inj ht).1.symm

/-- **A text is written as one literal**, which ends with its last character and denotes the
text. -/
theorem literal?_writeString (s : String) :
    literal? (writeString s.toList) = some (codePoints s, []) := by
  rw [writeString, List.cons_append, literal?, if_neg (not_quotes_prefix_written s.toList)]
  exact inside?_flatMap_writeChar s.toList []

/-- A backslash run before a quote, a control, and an escape in the text itself. -/
example : literal? (writeString "\\\\\" \x00\\n".toList) =
    some ([0x5C, 0x5C, 0x22, 0x20, 0x00, 0x5C, 0x6E], []) := by
  decide

/-- Texts that are written alike are the same. -/
theorem eq_of_writeString_eq {s t : String} (h : writeString s.toList = writeString t.toList) :
    s = t := by
  have hread := congrArg literal? h
  rw [literal?_writeString, literal?_writeString] at hread
  exact codePoints_injective (congrArg Prod.fst (Option.some.inj hread))

end NotebookGoto.Python
