import NotebookGoto.Json.Magnitude
import NotebookGoto.Text.Affix

/-!
# JSON tokens

A JSON text is first cut into tokens. The text may have arrived as bytes, so it is a list of
symbols: a character, or `none` where the bytes spelled none. Cutting never fails: where no token
can be read the list ends with `broken`, so that a reader meets the fault only when it gets that
far. Between tokens stand spaces, tabs, line feeds and carriage returns.
-/

namespace NotebookGoto.Json

open Text

/-- One symbol of a text that arrived as bytes: a character, or `none` for bytes that spell none. -/
abbrev Symbol := Option Char

/-- A text as a list of symbols. -/
abbrev Symbols := List Symbol

/-- A number as it is spelled: a sign, the digits before the point, those after it, and the
exponent with its sign. Without a point there are no digits after it. -/
structure Number where
  negative : Bool
  whole : List Char
  fraction : List Char
  exponent : Option (Bool × List Char)
  deriving DecidableEq, Repr

/-- Opening and closing marks come in two kinds. -/
inductive Bracket where
  | square | brace
  deriving DecidableEq, Repr

/-- The tokens. A string holds the symbols it denotes, `none` also for a surrogate escape that
stands alone; `broken` stands where no token can be read. -/
inductive Token where
  | opening (b : Bracket)
  | closing (b : Bracket)
  | comma
  | colon
  | null
  | bool (b : Bool)
  | number (n : Number)
  | string (s : Symbols)
  | broken
  deriving DecidableEq, Repr

/-! ## Numbers -/

namespace Number

/-- The 32-bit word that a number denotes: no sign, no point, no exponent, and in range. -/
def word? (n : Number) : Option UInt32 :=
  if n.negative || !n.fraction.isEmpty || n.exponent.isSome then none
  else Decimal.word? (Decimal.value n.whole)

/-- Whether a number is too large for a double to hold. Such a number is well-formed, but it can
only be passed over, not read. -/
def isTooLarge (n : Number) : Bool :=
  let (down, ds) := n.exponent.getD (false, [])
  (Magnitude.ofNumeral n.whole n.fraction down (Decimal.value ds)).isTooLarge

/-- The digits at the head of a text, and the rest of it. -/
def spanDigits : Symbols → List Char × Symbols
  | some c :: rest =>
    if c.isDigit then
      let (ds, rest) := spanDigits rest
      (c :: ds, rest)
    else ([], some c :: rest)
  | rest => ([], rest)

theorem length_spanDigits (s : Symbols) :
    (spanDigits s).1.length + (spanDigits s).2.length = s.length := by
  fun_induction spanDigits s with
  | case1 c rest _ ds rest' hs ih =>
    rw [hs] at ih
    simp only [List.length_cons] at ih ⊢
    omega
  | case2 => simp
  | case3 => simp

/-- The digits after a point, at least one, where there is a point. -/
def fraction? : Symbols → Option (List Char × Symbols)
  | some '.' :: rest =>
    match spanDigits rest with
    | ([], _) => none
    | (ds, rest) => some (ds, rest)
  | rest => some ([], rest)

/-- The sign of an exponent, of which `true` is the minus, and the rest of the text. -/
def exponentSign : Symbols → Bool × Symbols
  | some '+' :: rest => (false, rest)
  | some '-' :: rest => (true, rest)
  | rest => (false, rest)

/-- The exponent, at least one digit, where there is one. -/
def exponent? : Symbols → Option (Option (Bool × List Char) × Symbols)
  | some c :: rest =>
    if c = 'e' ∨ c = 'E' then
      let (down, rest) := exponentSign rest
      match spanDigits rest with
      | ([], _) => none
      | (ds, rest) => some (some (down, ds), rest)
    else some (none, some c :: rest)
  | rest => some (none, rest)

/-- The whole part of a number: `0`, or digits that do not start with `0`. -/
def whole? (s : Symbols) : Option (List Char × Symbols) :=
  match spanDigits s with
  | ([], _) => none
  | (['0'], rest) => some (['0'], rest)
  | ('0' :: _, _) => none
  | (ds, rest) => some (ds, rest)

/-- The number at the head of a text, and the rest of the text. -/
def scan? (negative : Bool) (s : Symbols) : Option (Number × Symbols) := do
  let (whole, rest) ← whole? s
  let (fraction, rest) ← fraction? rest
  let (exponent, rest) ← exponent? rest
  return (⟨negative, whole, fraction, exponent⟩, rest)

theorem length_of_whole? {s : Symbols} {ds : List Char} {rest : Symbols}
    (h : whole? s = some (ds, rest)) : rest.length < s.length := by
  have hs := length_spanDigits s
  unfold whole? at h
  split at h
  · cases h
  · rename_i e
    cases h; rw [e] at hs; simp at hs; omega
  · cases h
  · rename_i ne _ _ e
    cases h; rw [e] at hs
    have := List.length_pos_iff.2 ne
    simp only at hs; omega

theorem length_of_fraction? {s : Symbols} {ds : List Char} {rest : Symbols}
    (h : fraction? s = some (ds, rest)) : rest.length ≤ s.length := by
  unfold fraction? at h
  split at h
  · rename_i t
    have := length_spanDigits t
    split at h
    · cases h
    · cases h; simp_all; omega
  · cases h; simp

theorem length_exponentSign (s : Symbols) : (exponentSign s).2.length ≤ s.length := by
  unfold exponentSign
  split <;> simp

theorem length_of_exponent? {s : Symbols} {e : Option (Bool × List Char)} {rest : Symbols}
    (h : exponent? s = some (e, rest)) : rest.length ≤ s.length := by
  unfold exponent? at h
  split at h
  · rename_i c t
    have := length_exponentSign t
    have := length_spanDigits (exponentSign t).2
    split at h
    · dsimp only at h
      split at h
      · cases h
      · cases h; simp_all; omega
    · cases h; simp
  · cases h; simp

theorem length_of_scan? {negative : Bool} {s : Symbols} {n : Number} {rest : Symbols}
    (h : scan? negative s = some (n, rest)) : rest.length < s.length := by
  simp only [scan?, Option.bind_eq_bind, Option.bind_eq_some_iff, Option.pure_def,
    Option.some.injEq, Prod.mk.injEq, Prod.exists] at h
  obtain ⟨_, r₁, h₁, _, r₂, h₂, _, r₃, h₃, _, rfl⟩ := h
  have := length_of_whole? h₁
  have := length_of_fraction? h₂
  have := length_of_exponent? h₃
  omega

end Number

/-! ## Strings -/

/-- What stands inside a string: a symbol as it is, or a UTF-16 code unit written by an escape. -/
inductive Piece where
  | plain (u : Symbol)
  | code (n : Nat)
  deriving DecidableEq, Repr

namespace Piece

/-- Whether a code unit is the first of a surrogate pair. -/
def isHigh (n : Nat) : Bool := 0xD800 ≤ n && n < 0xDC00

/-- Whether a code unit is the second of a surrogate pair. -/
def isLow (n : Nat) : Bool := 0xDC00 ≤ n && n < 0xE000

/-- The character of a surrogate pair. -/
def pair (high low : Nat) : Char :=
  Char.ofNat (0x10000 + (high - 0xD800) * 0x400 + (low - 0xDC00))

/-- The character of a code unit that belongs to no pair. -/
def alone (n : Nat) : Symbol :=
  if isHigh n || isLow n then none else some (Char.ofNat n)

/-- The symbols that pieces denote, put before those of the pieces after them. The pieces come the
latest first. Escapes that form a surrogate pair are one character, and a surrogate alone is
none. -/
def assemble (after : Symbols) : List Piece → Symbols
  | [] => after
  | .plain u :: before => assemble (u :: after) before
  | .code low :: .code high :: before =>
    -- The two classes are disjoint, so a pair found from the end is a pair found from the start.
    if isHigh high && isLow low then assemble (some (pair high low) :: after) before
    else assemble (alone low :: after) (.code high :: before)
  | .code n :: before => assemble (alone n :: after) before

/-- The four digits of a code unit. -/
def code? : Symbols → Option (Piece × Symbols)
  | some a :: some b :: some c :: some d :: rest => do
    let a ← Decimal.hexDigit? a
    let b ← Decimal.hexDigit? b
    let c ← Decimal.hexDigit? c
    let d ← Decimal.hexDigit? d
    return (.code (((a * 16 + b) * 16 + c) * 16 + d), rest)
  | _ => none

/-- The piece that an escape denotes, after its backslash. -/
def escape? : Symbols → Option (Piece × Symbols)
  | some c :: rest =>
    if c = '"' ∨ c = '\\' ∨ c = '/' then some (.plain (some c), rest)
    else if c = 'b' then some (.plain (some '\x08'), rest)
    else if c = 'f' then some (.plain (some '\x0c'), rest)
    else if c = 'n' then some (.plain (some '\n'), rest)
    else if c = 'r' then some (.plain (some '\r'), rest)
    else if c = 't' then some (.plain (some '\t'), rest)
    else if c = 'u' then code? rest
    else none
  | _ => none

theorem length_of_code? {s : Symbols} {p : Piece} {rest : Symbols} (h : code? s = some (p, rest)) :
    rest.length < s.length := by
  unfold code? at h
  split at h
  · simp only [Option.bind_eq_bind, Option.bind_eq_some_iff, Option.pure_def,
      Option.some.injEq, Prod.mk.injEq] at h
    obtain ⟨_, _, _, _, _, _, _, _, _, rfl⟩ := h
    simp; omega
  · cases h

theorem length_of_escape? {s : Symbols} {p : Piece} {rest : Symbols}
    (h : escape? s = some (p, rest)) : rest.length < s.length := by
  unfold escape? at h
  split at h
  · split at h
    · cases h; simp
    repeat (split at h; · cases h; simp)
    split at h
    · have := length_of_code? h; simp; omega
    · cases h
  · cases h

/-- What a string denotes that goes on with a text up to its closing quote, and the text after
the quote. `done` holds the pieces before, the latest first. Controls must be written as
escapes. -/
def scan? (done : List Piece) (s : Symbols) : Option (Symbols × Symbols) :=
  match s with
  | [] => none
  | none :: rest => scan? (.plain none :: done) rest
  | some c :: rest =>
    if c = '"' then some (assemble [] done, rest)
    else if c = '\\' then
      match _h : escape? rest with
      | some (p, rest') => scan? (p :: done) rest'
      | none => none
    else if c.toNat < 0x20 then none
    else scan? (.plain (some c) :: done) rest
termination_by s.length
decreasing_by
  · simp
  · have := length_of_escape? _h; simp; omega
  · simp

theorem length_of_scan? {done : List Piece} {s u rest : Symbols}
    (h : scan? done s = some (u, rest)) : rest.length < s.length := by
  fun_induction scan? done s with
  | case1 => cases h
  | case2 done rest' ih => have := ih h; simp; omega
  | case3 => cases h; simp
  | case4 done rest' p rest'' he _ ih =>
    have := ih h
    have := length_of_escape? he
    simp; omega
  | case5 => cases h
  | case6 => cases h
  | case7 done c rest' _ _ _ ih => have := ih h; simp; omega

end Piece

/-! ## Tokens -/

/-- The white space of JSON. -/
def isSpace (c : Char) : Bool :=
  c == ' ' || c == '\t' || c == '\n' || c == '\r'

namespace Token

/-- The text after the letters of a word. -/
def afterWord? (word : List Char) (s : Symbols) : Option Symbols :=
  afterPrefix? (word.map some) s

theorem length_of_afterWord? {word : List Char} {s rest : Symbols}
    (h : afterWord? word s = some rest) : rest.length ≤ s.length := by
  rw [afterPrefix?_eq_some_iff.1 h]; simp

/-- The token that starts with a character, and the text after it. -/
def scan? (c : Char) (rest : Symbols) : Option (Token × Symbols) :=
  match c with
  | '\x7b' => some (.opening .brace, rest)
  | '\x7d' => some (.closing .brace, rest)
  | '[' => some (.opening .square, rest)
  | ']' => some (.closing .square, rest)
  | ',' => some (.comma, rest)
  | ':' => some (.colon, rest)
  | '"' => (Piece.scan? [] rest).map fun (u, rest) => (.string u, rest)
  | '-' => (Number.scan? true rest).map fun (n, rest) => (.number n, rest)
  | 'n' => (afterWord? ['u', 'l', 'l'] rest).map fun rest => (.null, rest)
  | 't' => (afterWord? ['r', 'u', 'e'] rest).map fun rest => (.bool true, rest)
  | 'f' => (afterWord? ['a', 'l', 's', 'e'] rest).map fun rest => (.bool false, rest)
  | c =>
    if c.isDigit then (Number.scan? false (some c :: rest)).map fun (n, rest) => (.number n, rest)
    else none

theorem length_of_scan? {c : Char} {s rest : Symbols} {t : Token} (h : scan? c s = some (t, rest)) :
    rest.length ≤ s.length := by
  unfold scan? at h
  split at h
  any_goals (cases h; simp)
  · obtain ⟨⟨u, r⟩, hs, e⟩ := Option.map_eq_some_iff.1 h
    cases e; have := Piece.length_of_scan? hs; omega
  · obtain ⟨⟨n, r⟩, hs, e⟩ := Option.map_eq_some_iff.1 h
    cases e; have := Number.length_of_scan? hs; omega
  · obtain ⟨r, hs, e⟩ := Option.map_eq_some_iff.1 h
    cases e; exact length_of_afterWord? hs
  · obtain ⟨r, hs, e⟩ := Option.map_eq_some_iff.1 h
    cases e; exact length_of_afterWord? hs
  · obtain ⟨r, hs, e⟩ := Option.map_eq_some_iff.1 h
    cases e; exact length_of_afterWord? hs
  · split at h
    · obtain ⟨⟨n, r⟩, hs, e⟩ := Option.map_eq_some_iff.1 h
      cases e
      have := Number.length_of_scan? hs
      simp only [List.length_cons] at this
      omega
    · cases h

end Token

/-- The tokens of a text, after those read before it, which come the latest first. -/
def tokensAfter (done : List Token) (s : Symbols) : List Token :=
  match s with
  | [] => done.reverse
  | none :: _ => (.broken :: done).reverse
  | some c :: rest =>
    if isSpace c then tokensAfter done rest
    else
      match _h : Token.scan? c rest with
      | some (t, rest') => tokensAfter (t :: done) rest'
      | none => (.broken :: done).reverse
termination_by s.length
decreasing_by
  · simp
  · have := Token.length_of_scan? _h; simp; omega

/-- The tokens of a text, up to the first place where there is none. -/
def tokens (s : Symbols) : List Token :=
  tokensAfter [] s

end NotebookGoto.Json
