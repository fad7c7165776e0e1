import NotebookGoto.Json.Token
import NotebookGoto.Text.Blank

/-!
# How a text falls into tokens

`tokens` reads with an accumulator, from which two things follow that all later proofs use instead
of its definition: what it gives is one token followed by the tokens of the rest (`tokens_token`
and its companions), and a statement about `tokens` is proved by going from one token to the next
(`tokens_induction`).

The main statement says where a text may be taken apart. A line feed parts tokens: no number goes on
behind it, and a string in which it stands is never closed. So what stands before a line feed falls
into the same tokens whatever follows, unless it breaks, and then nothing follows
(`tokens_append`). White space and marks at the very end of a text part tokens as well.
-/

namespace NotebookGoto.Json

open Text

/-! ## One token after the other -/

/-- The accumulator only holds what has been read. -/
theorem tokensAfter_eq (done : List Token) (s : Symbols) :
    tokensAfter done s = done.reverse ++ tokens s := by
  match s with
  | [] => simp [tokens, tokensAfter]
  | none :: rest => simp [tokens, tokensAfter]
  | some c :: rest =>
    rw [tokens, tokensAfter, tokensAfter]
    split
    · rw [tokensAfter_eq done rest, tokensAfter_eq [] rest, List.reverse_nil, List.nil_append]
    · split
      · rename_i t rest' h
        have := Token.length_of_scan? h
        rw [tokensAfter_eq (t :: done) rest', tokensAfter_eq [t] rest']
        simp
      · simp
termination_by s.length
decreasing_by all_goals (simp; try omega)

@[simp] theorem tokens_nil : tokens [] = [] := by
  simp [tokens, tokensAfter]

@[simp] theorem tokens_none (rest : Symbols) : tokens (none :: rest) = [.broken] := by
  simp [tokens, tokensAfter]

theorem tokens_space {c : Char} (h : isSpace c = true) (rest : Symbols) :
    tokens (some c :: rest) = tokens rest := by
  rw [tokens, tokensAfter, if_pos h, tokens]

theorem tokens_token {c : Char} {rest rest' : Symbols} {t : Token} (hc : isSpace c = false)
    (h : Token.scan? c rest = some (t, rest')) :
    tokens (some c :: rest) = t :: tokens rest' := by
  rw [tokens, tokensAfter, if_neg (by simp [hc])]
  split
  · rename_i t' r' h'
    rw [h] at h'
    cases h'
    rw [tokensAfter_eq]
    rfl
  · rename_i h'
    rw [h] at h'
    cases h'

theorem tokens_broken {c : Char} {rest : Symbols} (hc : isSpace c = false)
    (h : Token.scan? c rest = none) : tokens (some c :: rest) = [.broken] := by
  rw [tokens, tokensAfter, if_neg (by simp [hc])]
  split
  · rename_i h'
    rw [h] at h'
    cases h'
  · rfl

/-! The marks are tokens of one character. -/

theorem tokens_openingBrace (rest : Symbols) :
    tokens (some '\x7b' :: rest) = .opening .brace :: tokens rest :=
  tokens_token (by decide) rfl

theorem tokens_closingBrace (rest : Symbols) :
    tokens (some '\x7d' :: rest) = .closing .brace :: tokens rest :=
  tokens_token (by decide) rfl

theorem tokens_comma (rest : Symbols) : tokens (some ',' :: rest) = .comma :: tokens rest :=
  tokens_token (by decide) rfl

theorem tokens_colon (rest : Symbols) : tokens (some ':' :: rest) = .colon :: tokens rest :=
  tokens_token (by decide) rfl

/-- Induction over the tokens of a text: the text is at its end, or there are bytes that spell no
character, or white space, or a token with a shorter text after it, or a character with which no
token starts. -/
theorem tokens_induction {motive : Symbols → Prop} (nil : motive [])
    (stray : ∀ rest, motive (none :: rest))
    (space : ∀ c rest, isSpace c = true → motive rest → motive (some c :: rest))
    (token : ∀ c rest t rest', isSpace c = false → Token.scan? c rest = some (t, rest') →
      motive rest' → motive (some c :: rest))
    (broken : ∀ c rest, isSpace c = false → Token.scan? c rest = none →
      motive (some c :: rest)) (s : Symbols) : motive s := by
  refine tokensAfter.induct (fun _ s => motive s) (fun _ => nil) (fun _ rest => stray rest)
    (fun _ c rest h ih => space c rest h ih)
    (fun _ c rest h t rest' hs ih => token c rest t rest' (by simpa using h) hs ih)
    (fun _ c rest h hs => broken c rest (by simpa using h) hs) [] s

/-! ## Texts that part tokens

No token reaches into a text that `Parts`: it starts with white space or a mark, where a number ends
and no word goes on, and a string that is open before it stays open. -/

/-- A character that stands in no number, word or escape: white space, or a mark. -/
def isBreak (c : Char) : Bool :=
  isBlank c || c ∈ ['\x7b', '\x7d', '[', ']', ',', ':']

/-- A text into which no token reaches from before. -/
structure Parts (x : Symbols) : Prop where
  starts : ∃ c rest, x = some c :: rest ∧ isBreak c = true
  unclosed : ∀ done, Piece.scan? done x = none

theorem isBreak_of_isBlank {c : Char} (h : isBlank c = true) : isBreak c = true := by
  rw [isBreak, h, Bool.true_or]

theorem isSpace_iff {c : Char} :
    isSpace c = true ↔ c = ' ' ∨ c = '\t' ∨ c = '\n' ∨ c = '\r' := by
  simp [isSpace, or_assoc]

theorem isDigit_of_isBlank {c : Char} (h : isBlank c = true) : c.isDigit = false := by
  simp only [isBlank, Bool.or_eq_true, Bool.and_eq_true, decide_eq_true_eq, beq_iff_eq] at h
  simp only [Char.isDigit, Bool.and_eq_false_iff, decide_eq_false_iff_not, ge_iff_le,
    UInt32.le_iff_toNat_le, Char.toNat] at h ⊢
  have : ('0' : Char).val.toNat = 48 := rfl
  have : ('9' : Char).val.toNat = 57 := rfl
  omega

theorem hexDigit?_of_isBlank {c : Char} (h : isBlank c = true) : Decimal.hexDigit? c = none := by
  simp only [isBlank, Bool.or_eq_true, Bool.and_eq_true, decide_eq_true_eq, beq_iff_eq] at h
  simp only [Decimal.hexDigit?, Char.le_def, UInt32.le_iff_toNat_le, Char.toNat] at h ⊢
  have : ('0' : Char).val.toNat = 48 := rfl
  have : ('9' : Char).val.toNat = 57 := rfl
  have : ('a' : Char).val.toNat = 97 := rfl
  have : ('f' : Char).val.toNat = 102 := rfl
  have : ('A' : Char).val.toNat = 65 := rfl
  have : ('F' : Char).val.toNat = 70 := rfl
  rw [if_neg (by omega), if_neg (by omega), if_neg (by omega)]

theorem hexDigit?_of_isBreak {c : Char} (h : isBreak c = true) : Decimal.hexDigit? c = none := by
  rw [isBreak, Bool.or_eq_true, decide_eq_true_eq] at h
  have hmarks : ∀ d ∈ ['\x7b', '\x7d', '[', ']', ',', ':'], Decimal.hexDigit? d = none :=
    forall_mem_of_all (by decide)
  exact h.elim hexDigit?_of_isBlank (hmarks c)

theorem isDigit_of_isBreak {c : Char} (h : isBreak c = true) : c.isDigit = false := by
  rw [isBreak, Bool.or_eq_true, decide_eq_true_eq] at h
  have hmarks : ∀ d ∈ ['\x7b', '\x7d', '[', ']', ',', ':'], d.isDigit = false :=
    forall_mem_of_all (by decide)
  exact h.elim isDigit_of_isBlank (hmarks c)

/-- White space that is a control parts tokens, whatever follows it: no string holds a control. -/
theorem parts_control {c : Char} (h : isBlank c = true) (hlow : c.toNat < 0x20) (rest : Symbols) :
    Parts (some c :: rest) where
  starts := ⟨c, rest, rfl, isBreak_of_isBlank h⟩
  unclosed done := by
    rw [Piece.scan?, if_neg (ne_of_class h (by decide)), if_neg (ne_of_class h (by decide)),
      if_pos hlow]

theorem parts_newline (rest : Symbols) : Parts (some '\n' :: rest) :=
  parts_control (by decide) (by decide) rest

theorem parts_return (rest : Symbols) : Parts (some '\r' :: rest) :=
  parts_control (by decide) (by decide) rest

/-- White space or a mark at the end of a text parts tokens. -/
theorem parts_last {c : Char} (h : isBreak c = true) : Parts [some c] where
  starts := ⟨c, [], rfl, h⟩
  unclosed done := by
    rw [Piece.scan?, if_neg (ne_of_class h (by decide)), if_neg (ne_of_class h (by decide))]
    split
    · rfl
    · rw [Piece.scan?]

/-! ### Numbers

A number ends before every character that stands in no number, be it white space or a mark. -/

namespace Number

/-- A character that may stand in a number. -/
def inNumber (c : Char) : Bool :=
  c.isDigit || c ∈ ['.', '+', '-', 'e', 'E']

theorem isDigit_of_not_inNumber {c : Char} (h : inNumber c = false) : c.isDigit = false := by
  rw [inNumber, Bool.or_eq_false_iff] at h
  exact h.1

theorem not_inNumber_of_isBreak {c : Char} (h : isBreak c = true) : inNumber c = false := by
  rw [inNumber, isDigit_of_isBreak h, Bool.false_or, decide_eq_false_iff_not]
  exact not_mem_of_class h (by decide)

variable {c : Char} (hc : inNumber c = false) (x : Symbols)

include hc

theorem spanDigits_append (s : Symbols) :
    spanDigits (s ++ some c :: x) = ((spanDigits s).1, (spanDigits s).2 ++ some c :: x) := by
  induction s with
  | nil => simp [spanDigits, isDigit_of_not_inNumber hc]
  | cons u s ih =>
    cases u with
    | none => rfl
    | some d =>
      rw [List.cons_append, spanDigits, spanDigits]
      split
      · rw [ih]
      · rfl

theorem whole?_append (s : Symbols) :
    whole? (s ++ some c :: x) = (whole? s).map fun m => (m.1, m.2 ++ some c :: x) := by
  unfold whole?
  rw [spanDigits_append hc]
  rcases spanDigits s with ⟨ds, r⟩
  split <;> simp_all

theorem fraction?_append (s : Symbols) :
    fraction? (s ++ some c :: x) = (fraction? s).map fun m => (m.1, m.2 ++ some c :: x) := by
  cases s with
  | nil =>
    have hpoint : c ≠ '.' := (ne_of_class (by decide) hc).symm
    simp [fraction?, hpoint]
  | cons u s =>
    rw [List.cons_append]
    by_cases hu : u = some '.'
    · subst hu
      simp only [fraction?]
      rw [spanDigits_append hc]
      rcases spanDigits s with ⟨_ | ⟨d, ds⟩, r⟩ <;> rfl
    · simp [fraction?, hu]

theorem exponentSign_append (s : Symbols) :
    exponentSign (s ++ some c :: x) =
      ((exponentSign s).1, (exponentSign s).2 ++ some c :: x) := by
  cases s with
  | nil =>
    have hplus : c ≠ '+' := (ne_of_class (by decide) hc).symm
    have hminus : c ≠ '-' := (ne_of_class (by decide) hc).symm
    simp [exponentSign, hplus, hminus]
  | cons u s =>
    rw [List.cons_append]
    unfold exponentSign
    split <;> simp_all

theorem exponent?_append (s : Symbols) :
    exponent? (s ++ some c :: x) = (exponent? s).map fun m => (m.1, m.2 ++ some c :: x) := by
  cases s with
  | nil =>
    have he : c ≠ 'e' := (ne_of_class (by decide) hc).symm
    have hE : c ≠ 'E' := (ne_of_class (by decide) hc).symm
    rw [List.nil_append, exponent?, if_neg (not_or.2 ⟨he, hE⟩)]
    rfl
  | cons u s =>
    cases u with
    | none => rfl
    | some d =>
      rw [List.cons_append, exponent?, exponent?]
      split
      · simp only [exponentSign_append hc, spanDigits_append hc]
        rcases spanDigits (exponentSign s).2 with ⟨_ | ⟨d, ds⟩, r⟩ <;> rfl
      · rfl

theorem scan?_append (negative : Bool) (s : Symbols) :
    scan? negative (s ++ some c :: x) =
      (scan? negative s).map fun m => (m.1, m.2 ++ some c :: x) := by
  simp only [scan?, whole?_append hc]
  rcases whole? s with _ | ⟨whole, s₁⟩
  · rfl
  simp only [Option.map_some, Option.bind_eq_bind, Option.bind_some, fraction?_append hc]
  rcases fraction? s₁ with _ | ⟨fraction, s₂⟩
  · rfl
  simp only [Option.map_some, Option.bind_some, exponent?_append hc]
  rcases exponent? s₂ with _ | ⟨exponent, s₃⟩
  · rfl
  · rfl

end Number

/-! ### Strings and words -/

namespace Piece

variable {x : Symbols}

/-- An escape is not finished by white space or a mark. -/
theorem code?_append (hx : Parts x) (s : Symbols) :
    code? (s ++ x) = (code? s).map fun m => (m.1, m.2 ++ x) := by
  obtain ⟨c, rest, rfl, hc⟩ := hx.starts
  have hnone := hexDigit?_of_isBreak hc
  match s with
  | some a :: some b :: some d :: some e :: s =>
    simp only [List.cons_append, code?]
    cases Decimal.hexDigit? a <;> cases Decimal.hexDigit? b <;> cases Decimal.hexDigit? d <;>
      cases Decimal.hexDigit? e <;> rfl
  -- Where there are four symbols only with those of `x`, one of them is no digit.
  | [some a, some b, some d] =>
    simp only [List.cons_append, List.nil_append, code?, hnone]
    cases Decimal.hexDigit? a <;> cases Decimal.hexDigit? b <;> cases Decimal.hexDigit? d <;> rfl
  | [] | [some _] | [some _, some _] =>
    simp only [List.cons_append, List.nil_append, code?, Option.map_none]
    split <;> simp_all
  | none :: _ | some _ :: none :: _ | some _ :: some _ :: none :: _
  | some _ :: some _ :: some _ :: none :: _ => rfl

theorem escape?_append (hx : Parts x) (s : Symbols) :
    escape? (s ++ x) = (escape? s).map fun m => (m.1, m.2 ++ x) := by
  cases s with
  | nil =>
    obtain ⟨c, rest, rfl, hc⟩ := hx.starts
    have hne : ∀ d, isBreak d = false → c ≠ d := fun d hd => ne_of_class hc hd
    simp (disch := decide) [escape?, hne]
  | cons u s =>
    cases u with
    | none => rfl
    | some c =>
      rw [List.cons_append, escape?, escape?, code?_append hx]
      repeat' split
      all_goals rfl

theorem scan?_escape {done : List Piece} {s s' : Symbols} {p : Piece}
    (h : escape? s = some (p, s')) : scan? done (some '\\' :: s) = scan? (p :: done) s' := by
  rw [scan?, if_neg (by decide), if_pos rfl]
  split
  · rename_i q r hqr
    rw [h] at hqr
    cases hqr
    rfl
  · rename_i hqr
    rw [h] at hqr
    cases hqr

theorem scan?_bad_escape {done : List Piece} {s : Symbols} (h : escape? s = none) :
    scan? done (some '\\' :: s) = none := by
  rw [scan?, if_neg (by decide), if_pos rfl]
  split
  · rename_i q r hqr
    rw [h] at hqr
    cases hqr
  · rfl

/-- A string that is closed before `x` is the same string, and one that is open there stays open. -/
theorem scan?_append (hx : Parts x) (done : List Piece) (s : Symbols) :
    scan? done (s ++ x) = (scan? done s).map fun m => (m.1, m.2 ++ x) := by
  fun_induction scan? done s with
  | case1 done => exact hx.unclosed done
  | case2 done rest ih => rw [List.cons_append, scan?, ih]
  | case3 done rest => rw [List.cons_append, scan?, if_pos rfl]; rfl
  | case4 done rest p rest' h hq ih =>
    have h' : escape? (rest ++ x) = some (p, rest' ++ x) := by rw [escape?_append hx, h]; rfl
    rw [List.cons_append, scan?_escape h', ih]
  | case5 done rest h hq =>
    have h' : escape? (rest ++ x) = none := by rw [escape?_append hx, h]; rfl
    rw [List.cons_append, scan?_bad_escape h']
    rfl
  | case6 done c rest hq he hlow =>
    rw [List.cons_append, scan?, if_neg hq, if_neg he, if_pos hlow]
    rfl
  | case7 done c rest hq he hlow ih =>
    rw [List.cons_append, scan?, if_neg hq, if_neg he, if_neg hlow, ih]

end Piece

namespace Token

variable {x : Symbols}

/-- A word is not finished by white space or a mark, which do not stand in it. -/
theorem afterWord?_append (hx : Parts x) {word : List Char}
    (hword : ∀ d ∈ word, isBreak d = false) (s : Symbols) :
    afterWord? word (s ++ x) = (afterWord? word s).map (· ++ x) := by
  obtain ⟨c, rest, rfl, hc⟩ := hx.starts
  have hbreak : some c ∉ word.map some := by
    intro h
    obtain ⟨d, hd, e⟩ := List.mem_map.1 h
    exact ne_of_class hc (hword d hd) (Option.some.inj e).symm
  exact afterPrefix?_append_cons hbreak s rest

/-- A token that starts before `x` is the same token, or none, whatever `x` goes on with. -/
theorem scan?_append (hx : Parts x) (c : Char) (s : Symbols) :
    scan? c (s ++ x) = (scan? c s).map fun m => (m.1, m.2 ++ x) := by
  have hword : ∀ word : List Char, word.any isBreak = false →
      afterWord? word (s ++ x) = (afterWord? word s).map (· ++ x) := by
    intro word h
    refine afterWord?_append hx (fun d hd => ?_) s
    exact Bool.eq_false_iff.2 fun hd' => List.any_eq_false.1 h d hd hd'
  have hnumber (negative : Bool) (s : Symbols) : Number.scan? negative (s ++ x) =
      (Number.scan? negative s).map fun m => (m.1, m.2 ++ x) := by
    obtain ⟨d, rest, rfl, hd⟩ := hx.starts
    exact Number.scan?_append (Number.not_inNumber_of_isBreak hd) rest negative s
  unfold scan?
  split
  any_goals rfl
  · rw [Piece.scan?_append hx]; cases Piece.scan? [] s <;> rfl
  · rw [hnumber]; cases Number.scan? true s <;> rfl
  · rw [hword _ (by decide)]; cases afterWord? ['u', 'l', 'l'] s <;> rfl
  · rw [hword _ (by decide)]; cases afterWord? ['r', 'u', 'e'] s <;> rfl
  · rw [hword _ (by decide)]; cases afterWord? ['a', 'l', 's', 'e'] s <;> rfl
  · rw [← List.cons_append, hnumber]
    split
    · cases Number.scan? false (some c :: s) <;> rfl
    · rfl

/-- No text starts with the token that stands for a missing one. -/
theorem ne_broken_of_scan? {c : Char} {s rest : Symbols} {t : Token}
    (h : scan? c s = some (t, rest)) : t ≠ .broken := by
  rintro rfl
  have hmap {α : Type} (o : Option α) (f : α → Token × Symbols) (hf : ∀ a, (f a).1 ≠ .broken) :
      o.map f ≠ some (.broken, rest) := by
    intro e
    obtain ⟨a, -, ha⟩ := Option.map_eq_some_iff.1 e
    exact hf a (congrArg Prod.fst ha)
  unfold scan? at h
  split at h
  any_goals (cases h)
  any_goals (exact hmap _ _ (fun a => by cases a <;> exact nofun) h)
  split at h
  · exact hmap _ _ (fun a => by cases a; exact nofun) h
  · cases h

/-- No token starts with white space. -/
theorem scan?_of_isBlank {c : Char} (h : isBlank c = true) (rest : Symbols) :
    scan? c rest = none := by
  unfold scan?
  split
  case h_12 => rw [isDigit_of_isBlank h, if_neg (by decide)]
  all_goals exact absurd rfl (ne_of_class h (by decide))

/-- A digit starts a number. -/
theorem scan?_digit {c : Char} (h : c.isDigit = true) (rest : Symbols) :
    scan? c rest =
      (Number.scan? false (some c :: rest)).map fun m => (.number m.1, m.2) := by
  unfold scan?
  split
  case h_12 => rw [if_pos h]
  all_goals exact absurd rfl (ne_of_class h (by decide))

end Token

theorem isSpace_of_isDigit {c : Char} (h : c.isDigit = true) : isSpace c = false := by
  rw [Bool.eq_false_iff]
  intro hspace
  rcases isSpace_iff.1 hspace with hc | hc | hc | hc
  all_goals exact ne_of_class h (by decide) hc

theorem isBlank_of_isSpace {c : Char} (h : isSpace c = true) : isBlank c = true := by
  rcases isSpace_iff.1 h with rfl | rfl | rfl | rfl <;> decide

/-- A text that starts with something holds a token, be it a broken one. -/
theorem tokens_ne_nil {c : Char} (hc : isBlank c = false) (rest : Symbols) :
    tokens (some c :: rest) ≠ [] := by
  have hspace : isSpace c = false := by
    rw [Bool.eq_false_iff]
    intro h
    rw [isBlank_of_isSpace h] at hc
    cases hc
  cases h : Token.scan? c rest with
  | none =>
    rw [tokens_broken hspace h]
    exact List.cons_ne_nil _ _
  | some m =>
    rw [tokens_token hspace h]
    exact List.cons_ne_nil _ _

/-! ### Whole texts -/

/-- **Where tokens part.** Before a text that parts tokens a text falls into its own tokens. Where
it breaks nothing follows, and otherwise the tokens of `x` do. -/
theorem tokens_append {x : Symbols} (hx : Parts x) (s : Symbols) :
    tokens (s ++ x) = if .broken ∈ tokens s then tokens s else tokens s ++ tokens x := by
  induction s using tokens_induction with
  | nil => simp
  | stray rest => simp
  | space c rest hc ih => rw [List.cons_append, tokens_space hc, tokens_space hc, ih]
  | token c rest t rest' hc h ih =>
    have h' : Token.scan? c (rest ++ x) = some (t, rest' ++ x) := by
      rw [Token.scan?_append hx, h]
      rfl
    have ht : .broken ≠ t := (Token.ne_broken_of_scan? h).symm
    rw [List.cons_append, tokens_token hc h', tokens_token hc h, ih]
    simp only [List.mem_cons, ht, false_or]
    split <;> rfl
  | broken c rest hc h =>
    have h' : Token.scan? c (rest ++ x) = none := by rw [Token.scan?_append hx, h]; rfl
    rw [List.cons_append, tokens_broken hc h', tokens_broken hc h, if_pos List.mem_cons_self]

/-- A text that does not break has the tokens it had before the white space at its end. Only the
white space of JSON can stand there, for any other breaks the text. -/
theorem tokens_append_blank {s : Symbols} {c : Char} (hc : isBlank c = true)
    (h : .broken ∉ tokens (s ++ [some c])) : tokens (s ++ [some c]) = tokens s := by
  rw [tokens_append (parts_last (isBreak_of_isBlank hc))] at h ⊢
  by_cases hs : .broken ∈ tokens s
  · rw [if_pos hs]
  · rw [if_neg hs] at h ⊢
    cases hspace : isSpace c with
    | true => rw [tokens_space hspace, tokens_nil, List.append_nil]
    | false =>
      rw [tokens_broken hspace (Token.scan?_of_isBlank hc [])] at h
      exact absurd (List.mem_append_right _ List.mem_cons_self) h

end NotebookGoto.Json
