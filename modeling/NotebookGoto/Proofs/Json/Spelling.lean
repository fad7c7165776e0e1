import NotebookGoto.Proofs.Json.Tokens

/-!
# How tokens are spelled

A token can be written in many ways: a character of a string as itself or by an escape, one that is
not in the basic plane by two of them, an exponent with either letter and any sign, and white space
may stand before each token and at the end. The relations here say which texts these are, without
saying how a text is scanned.

* **`Piece.Denotes`**: what a string denotes whose pieces are known.
* **`Token.Written`**: the spellings of one token.
* **`AllWritten`**: the texts of some tokens.
* **`tokens_of_allWritten`**: such a text falls into just these tokens.
-/

namespace NotebookGoto.Json

open Text

/-! ## Strings -/

namespace Piece

/-- The letters of escapes, with the characters that they stand for. -/
def escapes : List (Char × Char) :=
  [('"', '"'), ('\\', '\\'), ('/', '/'), ('b', '\x08'), ('f', '\x0c'), ('n', '\n'), ('r', '\r'),
    ('t', '\t')]

/-- The spellings of a piece: a character that is no control, quote or backslash by itself, a
backslash with a letter, or a backslash with the four digits of a code unit. -/
inductive Written : Piece → List Char → Prop where
  | plain {c : Char} (hlow : 0x20 ≤ c.toNat) (hquote : c ≠ '"') (hback : c ≠ '\\') :
    Written (.plain (some c)) [c]
  | letter {c d : Char} (h : (c, d) ∈ escapes) : Written (.plain (some d)) ['\\', c]
  | digits {a b c d : Char} {w x y z : Nat} (ha : Decimal.hexDigit? a = some w)
      (hb : Decimal.hexDigit? b = some x) (hc : Decimal.hexDigit? c = some y)
      (hd : Decimal.hexDigit? d = some z) :
    Written (.code (((w * 16 + x) * 16 + y) * 16 + z)) ['\\', 'u', a, b, c, d]

/-- Pieces one behind the other, as they stand between quotes. -/
inductive Body : List Piece → List Char → Prop where
  | nil : Body [] []
  | cons {p : Piece} {ps : List Piece} {text rest : List Char} (hp : p.Written text)
      (h : Body ps rest) : Body (p :: ps) (text ++ rest)

/-- Whether two pieces are the code units of a surrogate pair. -/
def isPair : Piece → Piece → Bool
  | .code high, .code low => isHigh high && isLow low
  | _, _ => false

/-- What pieces denote. The code units of a surrogate pair are one character, and each other code
unit stands alone. -/
inductive Denotes : List Piece → Symbols → Prop where
  | nil : Denotes [] []
  | plain {u : Symbol} {ps : List Piece} {s : Symbols} (h : Denotes ps s) :
    Denotes (.plain u :: ps) (u :: s)
  | pair {high low : Nat} {ps : List Piece} {s : Symbols}
      (hpair : isPair (.code high) (.code low) = true) (h : Denotes ps s) :
    Denotes (.code high :: .code low :: ps) (some (Piece.pair high low) :: s)
  | alone {n : Nat} {ps : List Piece} {s : Symbols}
      (hnext : ∀ p ∈ ps.head?, isPair (.code n) p = false) (h : Denotes ps s) :
    Denotes (.code n :: ps) (Piece.alone n :: s)

theorem escape?_of_mem {c d : Char} (h : (c, d) ∈ escapes) (rest : Symbols) :
    escape? (some c :: rest) = some (.plain (some d), rest) := by
  have hall : ∀ m ∈ escapes, ∀ rest : Symbols,
      escape? (some m.1 :: rest) = some (.plain (some m.2), rest) := by
    simp [escapes, escape?]
  exact hall (c, d) h rest

theorem scan?_written {p : Piece} {text : List Char} (h : p.Written text) (done : List Piece)
    (rest : Symbols) : scan? done (text.map some ++ rest) = scan? (p :: done) rest := by
  cases h with
  | plain hlow hquote hback =>
    show scan? done (some _ :: rest) = _
    rw [scan?, if_neg hquote, if_neg hback, if_neg (by omega)]
  | letter h => exact scan?_escape (escape?_of_mem h rest)
  | digits ha hb hc hd =>
    refine scan?_escape ?_
    simp [escape?, code?, ha, hb, hc, hd]

theorem scan?_body {ps : List Piece} {text : List Char} (h : Body ps text) (done : List Piece)
    (rest : Symbols) :
    scan? done (text.map some ++ rest) = scan? (ps.reverse ++ done) rest := by
  induction h generalizing done with
  | nil => rfl
  | cons hp _ ih =>
    rw [List.map_append, List.append_assoc, scan?_written hp, ih, List.reverse_cons,
      List.append_assoc]
    rfl

/-- A code unit that makes no pair with what stands before it is alone. -/
theorem assemble_alone {n : Nat} {before : List Piece}
    (h : ∀ p ∈ before.head?, isPair p (.code n) = false) (after : Symbols) :
    assemble after (.code n :: before) = assemble (alone n :: after) before := by
  cases before with
  | nil => simp only [assemble]
  | cons p before =>
    have hp : isPair p (.code n) = false := h p rfl
    cases p with
    | plain u => simp only [assemble]
    | code m =>
      have hno : (isHigh m && isLow n) = false := hp
      simp only [assemble, hno, Bool.false_eq_true, if_false]

/-- The second of a pair is the first of none. -/
theorem isPair_of_isPair {p q : Piece} (h : isPair p q = true) (r : Piece) :
    isPair q r = false := by
  cases p with
  | plain u => cases h
  | code high =>
    cases q with
    | plain u => cases h
    | code low =>
      cases r with
      | plain u => rfl
      | code n =>
        simp only [isPair, isHigh, isLow, Bool.and_eq_true, decide_eq_true_eq] at h
        simp only [isPair, isHigh, Bool.and_eq_false_iff, decide_eq_false_iff_not]
        omega

/-- Pieces are put together from the latest to the first. Induction on what they denote, where the
first of them must make no pair with what stands before it. -/
theorem assemble_of_denotes {ps : List Piece} {s : Symbols} (h : Denotes ps s) {before : List Piece}
    (hbefore : ∀ p ∈ before.head?, ∀ q ∈ ps.head?, isPair p q = false) (after : Symbols) :
    assemble after (ps.reverse ++ before) = assemble (s ++ after) before := by
  induction h generalizing before after with
  | nil => rfl
  | @plain u ps s h ih =>
    have hnext : ∀ p ∈ (.plain u :: before).head?, ∀ q ∈ ps.head?, isPair p q = false := by
      rintro p ⟨⟩ q -
      rfl
    rw [List.reverse_cons, List.append_assoc, List.singleton_append, ih hnext, assemble]
    rfl
  | @pair high low ps s hpair h ih =>
    have hnext : ∀ p ∈ (.code low :: .code high :: before).head?, ∀ q ∈ ps.head?,
        isPair p q = false := by
      rintro p ⟨⟩ q -
      exact isPair_of_isPair hpair q
    have hunits : (isHigh high && isLow low) = true := hpair
    rw [List.reverse_cons, List.reverse_cons, List.append_assoc, List.append_assoc,
      List.singleton_append, List.singleton_append, ih hnext, assemble, if_pos hunits]
    rfl
  | @alone n ps s hn h ih =>
    have hnext : ∀ p ∈ (.code n :: before).head?, ∀ q ∈ ps.head?, isPair p q = false := by
      rintro p ⟨⟩ q hq
      exact hn q hq
    rw [List.reverse_cons, List.append_assoc, List.singleton_append, ih hnext,
      assemble_alone fun p hp => hbefore p hp _ rfl]
    rfl

theorem assemble_reverse {ps : List Piece} {s : Symbols} (h : Denotes ps s) :
    assemble [] ps.reverse = s := by
  have hassemble : assemble [] (ps.reverse ++ []) = assemble (s ++ []) [] :=
    assemble_of_denotes h (by rintro p ⟨⟩) []
  rwa [List.append_nil, List.append_nil, assemble] at hassemble

theorem scan?_closed {ps : List Piece} {text : List Char} {s : Symbols} (h : Body ps text)
    (hs : Denotes ps s) (rest : Symbols) :
    scan? [] (text.map some ++ some '"' :: rest) = some (s, rest) := by
  rw [scan?_body h, scan?, if_pos rfl, List.append_nil, assemble_reverse hs]

end Piece

/-! ## Numbers -/

/-- A text with which no number goes on. -/
def EndsNumber (rest : Symbols) : Prop :=
  ∀ c r, rest = some c :: r → c.isDigit = false ∧ c ≠ '.' ∧ c ≠ 'e' ∧ c ≠ 'E'

theorem endsNumber_cons {c : Char} (rest : Symbols)
    (h : c.isDigit = false ∧ c ≠ '.' ∧ c ≠ 'e' ∧ c ≠ 'E') : EndsNumber (some c :: rest) := by
  intro d r e
  cases e
  exact h

/-- White space does not go on with a number, so what ends one ends it behind white space too. -/
theorem endsNumber_spaces {ws : List Char} (h : ws.all isSpace = true) {rest : Symbols}
    (hrest : EndsNumber rest) : EndsNumber (ws.map some ++ rest) := by
  cases ws with
  | nil => exact hrest
  | cons c ws =>
    rw [List.all_cons, Bool.and_eq_true] at h
    refine endsNumber_cons _ ?_
    rcases isSpace_iff.1 h.1 with rfl | rfl | rfl | rfl <;> decide

namespace Number

/-- Digits, at least one of them. -/
structure IsDigits (ds : List Char) : Prop where
  ne_nil : ds ≠ []
  isDigit : ∀ c ∈ ds, c.isDigit = true

/-- The fraction of a number: a point with digits, or nothing. -/
inductive Fraction : List Char → List Char → Prop where
  | none : Fraction [] []
  | point {ds : List Char} (h : IsDigits ds) : Fraction ds ('.' :: ds)

/-- The exponent of a number: a letter, perhaps a sign, and digits, or nothing. -/
inductive Exponent : Option (Bool × List Char) → List Char → Prop where
  | none : Exponent none []
  | mark {c : Char} {sign ds : List Char} {down : Bool} (hc : c = 'e' ∨ c = 'E')
      (hsign : (sign, down) ∈ [([], false), (['+'], false), (['-'], true)]) (hds : IsDigits ds) :
    Exponent (some (down, ds)) (c :: (sign ++ ds))

/-- The spelling of a number. No zero stands before another digit of its whole part. -/
inductive Written : Number → List Char → Prop where
  | mk {negative : Bool} {whole fraction fractionText exponentText : List Char}
      {exponent : Option (Bool × List Char)} (hwhole : IsDigits whole)
      (hzero : whole.head? = some '0' → whole = ['0']) (hfraction : Fraction fraction fractionText)
      (hexponent : Exponent exponent exponentText) :
    Written ⟨negative, whole, fraction, exponent⟩
      ((if negative then ['-'] else []) ++ (whole ++ (fractionText ++ exponentText)))

theorem spanDigits_of_isDigit {ds : List Char} (hds : ∀ c ∈ ds, c.isDigit = true) {rest : Symbols}
    (hrest : ∀ c r, rest = some c :: r → c.isDigit = false) :
    spanDigits (ds.map some ++ rest) = (ds, rest) := by
  induction ds with
  | nil =>
    match rest with
    | [] => rfl
    | none :: _ => rfl
    | some c :: r => simp [spanDigits, hrest c r rfl]
  | cons d ds ih =>
    rw [List.map_cons, List.cons_append, spanDigits, if_pos (hds d List.mem_cons_self),
      ih fun c hc => hds c (List.mem_cons_of_mem d hc)]

theorem whole?_of_isDigits {ds : List Char} (hds : IsDigits ds)
    (hzero : ds.head? = some '0' → ds = ['0'])
    {rest : Symbols} (hrest : ∀ c r, rest = some c :: r → c.isDigit = false) :
    whole? (ds.map some ++ rest) = some (ds, rest) := by
  rw [whole?, spanDigits_of_isDigit hds.isDigit hrest]
  split
  next e => cases e; exact absurd rfl hds.ne_nil
  next e => cases e; rfl
  next hne e =>
    cases e
    exact absurd (hzero rfl) (by simpa using hne)
  next e => cases e; rfl

theorem fraction?_of_fraction {ds text : List Char} (h : Fraction ds text) {rest : Symbols}
    (hrest : ∀ c r, rest = some c :: r → c.isDigit = false ∧ c ≠ '.') :
    fraction? (text.map some ++ rest) = some (ds, rest) := by
  cases h with
  | none =>
    show fraction? rest = _
    unfold fraction?
    split
    next r => exact absurd rfl (hrest '.' r rfl).2
    next => rfl
  | point h =>
    show fraction? (some '.' :: (ds.map some ++ rest)) = _
    rw [fraction?, spanDigits_of_isDigit h.isDigit fun c r e => (hrest c r e).1]
    split
    next e => cases e; exact absurd rfl h.ne_nil
    next e => cases e; rfl

theorem exponentSign_of_sign {sign ds : List Char} {down : Bool}
    (hsign : (sign, down) ∈ [([], false), (['+'], false), (['-'], true)]) (hds : IsDigits ds)
    (rest : Symbols) :
    exponentSign (sign.map some ++ (ds.map some ++ rest)) = (down, ds.map some ++ rest) := by
  simp only [List.mem_cons, Prod.mk.injEq, List.not_mem_nil, or_false] at hsign
  rcases hsign with ⟨rfl, rfl⟩ | ⟨rfl, rfl⟩ | ⟨rfl, rfl⟩
  · -- Without a sign the first digit must not be taken for one.
    obtain ⟨d, ds', rfl⟩ := List.exists_cons_of_ne_nil hds.ne_nil
    have hd : d.isDigit = true := hds.isDigit d List.mem_cons_self
    have hplus : d ≠ '+' := ne_of_class hd (by decide)
    have hminus : d ≠ '-' := ne_of_class hd (by decide)
    simp [exponentSign, hplus, hminus]
  · rfl
  · rfl

theorem exponent?_of_exponent {exponent : Option (Bool × List Char)} {text : List Char}
    (h : Exponent exponent text) {rest : Symbols} (hrest : EndsNumber rest) :
    exponent? (text.map some ++ rest) = some (exponent, rest) := by
  cases h with
  | none =>
    show exponent? rest = _
    unfold exponent?
    split
    next c r =>
      obtain ⟨-, -, he, hE⟩ := hrest c r rfl
      rw [if_neg (not_or.2 ⟨he, hE⟩)]
    next => rfl
  | @mark c sign ds down hc hsign hds =>
    rw [List.map_cons, List.cons_append, List.map_append, List.append_assoc, exponent?, if_pos hc,
      exponentSign_of_sign hsign hds]
    simp only [spanDigits_of_isDigit hds.isDigit fun c r e => (hrest c r e).1]
    split
    next e => cases e; exact absurd rfl hds.ne_nil
    next e => cases e; rfl

/-- What may follow the whole part of a number: its fraction, its exponent, or what ends it. -/
theorem not_isDigit_of_fraction {ds text : List Char} (h : Fraction ds text) {rest : Symbols}
    (hrest : ∀ c r, rest = some c :: r → c.isDigit = false) :
    ∀ c r, text.map some ++ rest = some c :: r → c.isDigit = false := by
  cases h with
  | none => exact hrest
  | point h =>
    rintro c r ⟨⟩
    decide

theorem not_isDigit_of_exponent {exponent : Option (Bool × List Char)} {text : List Char}
    (h : Exponent exponent text) {rest : Symbols} (hrest : EndsNumber rest) :
    ∀ c r, text.map some ++ rest = some c :: r → c.isDigit = false ∧ c ≠ '.' := by
  cases h with
  | none => exact fun c r e => ⟨(hrest c r e).1, (hrest c r e).2.1⟩
  | mark hc =>
    rintro c r ⟨⟩
    rcases hc with rfl | rfl <;> decide

theorem scan?_of_parts {negative : Bool} {whole fraction fractionText exponentText : List Char}
    {exponent : Option (Bool × List Char)} (hwhole : IsDigits whole)
    (hzero : whole.head? = some '0' → whole = ['0']) (hfraction : Fraction fraction fractionText)
    (hexponent : Exponent exponent exponentText) {rest : Symbols} (hrest : EndsNumber rest) :
    scan? negative ((whole ++ (fractionText ++ exponentText)).map some ++ rest) =
      some (⟨negative, whole, fraction, exponent⟩, rest) := by
  have hbehind := not_isDigit_of_exponent hexponent hrest
  have hafter := not_isDigit_of_fraction hfraction fun c r e => (hbehind c r e).1
  rw [List.map_append, List.map_append, List.append_assoc, List.append_assoc, scan?,
    whole?_of_isDigits hwhole hzero hafter]
  simp only [Option.bind_eq_bind, Option.bind_some, fraction?_of_fraction hfraction hbehind,
    exponent?_of_exponent hexponent hrest]
  rfl

end Number

/-! ## Tokens -/

namespace Token

/-- The spellings of a token. -/
inductive Written : Token → List Char → Prop where
  | openingSquare : Written (.opening .square) ['[']
  | openingBrace : Written (.opening .brace) ['\x7b']
  | closingSquare : Written (.closing .square) [']']
  | closingBrace : Written (.closing .brace) ['\x7d']
  | comma : Written .comma [',']
  | colon : Written .colon [':']
  | null : Written .null ['n', 'u', 'l', 'l']
  | true : Written (.bool Bool.true) ['t', 'r', 'u', 'e']
  | false : Written (.bool Bool.false) ['f', 'a', 'l', 's', 'e']
  | number {n : Number} {text : List Char} (h : n.Written text) : Written (.number n) text
  | string {ps : List Piece} {s : Symbols} {text : List Char} (hbody : Piece.Body ps text)
      (hs : Piece.Denotes ps s) : Written (.string s) ('"' :: (text ++ ['"']))

theorem tokens_number {n : Number} {text : List Char} (h : n.Written text) {rest : Symbols}
    (hrest : EndsNumber rest) : tokens (text.map some ++ rest) = .number n :: tokens rest := by
  cases h with
  | @mk negative whole fraction fractionText exponentText exponent hwhole hzero hfraction
      hexponent =>
    have hnumber :
        Number.scan? negative ((whole ++ (fractionText ++ exponentText)).map some ++ rest) =
        some (⟨negative, whole, fraction, exponent⟩, rest) :=
      Number.scan?_of_parts hwhole hzero hfraction hexponent hrest
    cases negative with
    | true =>
      refine tokens_token (by decide) ?_
      show (Number.scan? Bool.true ((whole ++ (fractionText ++ exponentText)).map some ++ rest)).map
        (fun m => (Token.number m.1, m.2)) = _
      rw [hnumber]
      rfl
    | false =>
      obtain ⟨d, ds, rfl⟩ := List.exists_cons_of_ne_nil hwhole.ne_nil
      have hd : d.isDigit = Bool.true := hwhole.isDigit d List.mem_cons_self
      refine tokens_token (isSpace_of_isDigit hd) ?_
      rw [scan?_digit hd]
      show (Number.scan? Bool.false
        ((d :: ds ++ (fractionText ++ exponentText)).map some ++ rest)).map
        (fun m => (Token.number m.1, m.2)) = _
      rw [hnumber]
      rfl

/-- **A token is read from each of its spellings**, where it ends. Only a number could go on. -/
theorem tokens_written {t : Token} {text : List Char} (h : t.Written text) {rest : Symbols}
    (hend : ∀ n, t = .number n → EndsNumber rest) :
    tokens (text.map some ++ rest) = t :: tokens rest := by
  cases h with
  | number h => exact tokens_number h (hend _ rfl)
  | @string ps s text hbody hs =>
    have hscan : Token.scan? '"' (text.map some ++ some '"' :: rest) = some (.string s, rest) := by
      show (Piece.scan? [] _).map (fun m => (Token.string m.1, m.2)) = _
      rw [Piece.scan?_closed hbody hs]
      rfl
    rw [← tokens_token (by decide) hscan]
    simp
  | _ => exact tokens_token (by decide) rfl

end Token

/-! ## Texts -/

/-- The texts of some tokens: white space may stand before each of them and at the end, and a number
ends where the text does not go on with it. -/
inductive AllWritten : List Token → List Char → Prop where
  | nil {ws : List Char} (hws : ws.all isSpace = true) : AllWritten [] ws
  | cons {t : Token} {ts : List Token} {ws text rest : List Char} (hws : ws.all isSpace = true)
      (ht : t.Written text) (hend : ∀ n, t = .number n → EndsNumber (rest.map some))
      (h : AllWritten ts rest) : AllWritten (t :: ts) (ws ++ (text ++ rest))

theorem tokens_spaces {ws : List Char} (h : ws.all isSpace = true) (rest : Symbols) :
    tokens (ws.map some ++ rest) = tokens rest := by
  induction ws with
  | nil => rfl
  | cons c ws ih =>
    rw [List.all_cons, Bool.and_eq_true] at h
    rw [List.map_cons, List.cons_append, tokens_space h.1, ih h.2]

/-- **A text falls into the tokens that are written in it.** -/
theorem tokens_of_allWritten {ts : List Token} {text : List Char} (h : AllWritten ts text) :
    tokens (text.map some) = ts := by
  induction h with
  | @nil ws hws =>
    have hspaces := tokens_spaces hws []
    rwa [List.append_nil, tokens_nil] at hspaces
  | cons hws ht hend _ ih =>
    rw [List.map_append, List.map_append, tokens_spaces hws, Token.tokens_written ht hend, ih]

end NotebookGoto.Json
