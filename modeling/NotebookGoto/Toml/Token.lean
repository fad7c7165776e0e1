import NotebookGoto.Text.Decimal
import NotebookGoto.Text.Affix

/-!
# TOML tokens

A configuration file is first cut into tokens. A carriage return before a line feed does not
count, and a byte order mark may stand at the start. As with JSON, cutting never fails: where no
token can be read the list ends with `broken`.
-/

namespace NotebookGoto.Toml

open Text

/-- The tokens. A blank is a run of spaces and tabs, of which only the single space is told
apart. A comment is clean if no control stands in it. A text may have been written over several
lines. -/
inductive Token where
  | blank (single : Bool)
  | newline
  | comment (clean : Bool)
  | equals | period | comma | colon | plus
  | leftBrace | rightBrace | leftBracket | rightBracket
  | word (s : List Char)
  | text (s : List Char) (multiline : Bool)
  | broken
  deriving DecidableEq, Repr

/-- A text with every carriage return taken away that stands before a line feed. -/
def foldLines : List Char → List Char
  | '\r' :: '\n' :: rest => '\n' :: foldLines rest
  | c :: rest => c :: foldLines rest
  | [] => []

/-- A character of a bare word. -/
def inWord (c : Char) : Bool :=
  c.isAlphanum || c = '-' || c = '_'

/-- A space or a tab. -/
def isBlank (c : Char) : Bool :=
  c = ' ' || c = '\t'

/-- A character of a comment. -/
def inComment (c : Char) : Bool :=
  c = '\t' || 0x20 ≤ c.toNat

/-- A character that stands for itself in a text between quotes. -/
def inText (c : Char) : Bool :=
  inComment c && c.toNat ≠ 0x7F

/-! ## Texts between quotes -/

/-- The character whose number some digits to base sixteen give. -/
def charOf? (ds : List Char) : Option Char := do
  let n ← ds.foldlM (fun n c => (Decimal.hexDigit? c).map (n * 16 + ·)) 0
  if n.isValidChar then some (Char.ofNat n) else none

/-- The character of an escape with `count` digits, and the text after it. -/
def numbered? (count : Nat) (s : List Char) : Option (List Char × List Char) :=
  if (s.take count).length < count then none
  else (charOf? (s.take count)).map fun c => ([c], s.drop count)

/-- What an escape stands for, after its backslash. In a text over several lines a backslash at
the end of a line stands for nothing, and takes the white space after it away. -/
def escape? (multiline : Bool) : List Char → Option (List Char × List Char)
  | [] => none
  | c :: rest =>
    match c with
    | '"' => some (['"'], rest)
    | '\\' => some (['\\'], rest)
    | 'b' => some (['\x08'], rest)
    | 'f' => some (['\x0c'], rest)
    | 'n' => some (['\n'], rest)
    | 'r' => some (['\r'], rest)
    | 't' => some (['\t'], rest)
    | 'u' => numbered? 4 rest
    | 'U' => numbered? 8 rest
    | _ =>
      match (c :: rest).dropWhile isBlank with
      | '\n' :: rest =>
        if multiline then some ([], rest.dropWhile fun c => isBlank c || c = '\n') else none
      | _ => none

theorem length_of_numbered? {count : Nat} {s t rest : List Char}
    (h : numbered? count s = some (t, rest)) : rest.length ≤ s.length := by
  unfold numbered? at h
  split at h
  · cases h
  · obtain ⟨c, _, e⟩ := Option.map_eq_some_iff.1 h
    cases e; simp

theorem length_of_escape? {multiline : Bool} {s t rest : List Char}
    (h : escape? multiline s = some (t, rest)) : rest.length < s.length := by
  unfold escape? at h
  split at h
  · cases h
  · rename_i c s'
    split at h
    any_goals (cases h; simp)
    · have := length_of_numbered? h; simp; omega
    · have := length_of_numbered? h; simp; omega
    · split at h
      · rename_i r e
        split at h
        · cases h
          have h₁ := (List.dropWhile_sublist (l := r) fun c => isBlank c || c = '\n').length_le
          have h₂ := (List.dropWhile_sublist (l := c :: s') isBlank).length_le
          rw [e, List.length_cons] at h₂
          omega
        · cases h
      · cases h

/-- The quotes that surround a text: in double ones a backslash starts an escape. -/
inductive Quote where
  | single | double
  deriving DecidableEq, Repr

/-- The character of a quote. -/
def Quote.mark : Quote → Char
  | .single => '\''
  | .double => '"'

/-- How a text over several lines ends: after three quotes, of which up to two more before them
belong to the text. Given is what follows the third quote. -/
def closing (mark : Char) (s : List Char) : List Char × List Char :=
  let extra := (s.take 2).takeWhile (· = mark)
  (extra, s.drop extra.length)

/-- The rest of a text up to its closing quotes, and what follows them. `done` holds what has been
read, the latest first. -/
def scanText? (q : Quote) (multiline : Bool) (done s : List Char) :
    Option (List Char × List Char) :=
  match s with
  | [] => none
  | c :: rest =>
    if c = '\n' then if multiline then scanText? q multiline ('\n' :: done) rest else none
    else if c = q.mark then
      if multiline then
        match afterPrefix? [q.mark, q.mark] rest with
        -- Three quotes end the text; fewer belong to it.
        | some rest =>
          let (extra, rest) := closing q.mark rest
          some (done.reverse ++ extra, rest)
        | none => scanText? q multiline (c :: done) rest
      else some (done.reverse, rest)
    else if c = '\\' ∧ q = .double then
      match _h : escape? multiline rest with
      | some (t, rest') => scanText? q multiline (t.reverse ++ done) rest'
      | none => none
    else if inText c then scanText? q multiline (c :: done) rest
    else none
termination_by s.length
decreasing_by
  all_goals first
    | (have shorter := length_of_escape? _h; simp; omega)
    | simp

/-- The text after an opening quote, as a token, and what follows its closing quotes. Three quotes
open a text over several lines, which does not start with the line feed after them. -/
def text? (q : Quote) (s : List Char) : Option (Token × List Char) :=
  match afterPrefix? [q.mark, q.mark] s with
  | some rest =>
    let rest := match rest with
      | '\n' :: rest => rest
      | rest => rest
    (scanText? q true [] rest).map fun (t, rest) => (.text t true, rest)
  | none => (scanText? q false [] s).map fun (t, rest) => (.text t false, rest)

/-! ## Tokens -/

/-- The token at the head of a text, and the text after it. -/
def Token.scan? : List Char → Option (Token × List Char)
  | [] => none
  | c :: rest =>
    match c with
    | '\n' => some (.newline, rest)
    | '=' => some (.equals, rest)
    | '.' => some (.period, rest)
    | ',' => some (.comma, rest)
    | ':' => some (.colon, rest)
    | '+' => some (.plus, rest)
    | '\x7b' => some (.leftBrace, rest)
    | '\x7d' => some (.rightBrace, rest)
    | '[' => some (.leftBracket, rest)
    | ']' => some (.rightBracket, rest)
    | '\'' => text? .single rest
    | '"' => text? .double rest
    | '#' =>
      some (.comment ((rest.takeWhile (· ≠ '\n')).all inComment), rest.dropWhile (· ≠ '\n'))
    | _ =>
      if isBlank c then
        some (.blank (c = ' ' ∧ (rest.takeWhile isBlank).isEmpty), rest.dropWhile isBlank)
      else if inWord c then some (.word (c :: rest.takeWhile inWord), rest.dropWhile inWord)
      else none

/-- The tokens of a text, where `fuel` bounds their number. -/
def tokensWithin : Nat → List Char → List Token
  | 0, _ => []
  | _, [] => []
  | fuel + 1, s =>
    match Token.scan? s with
    | some (t, rest) => t :: tokensWithin fuel rest
    | none => [.broken]

/-- The tokens of a text, up to the first place where there is none. -/
def tokens (s : List Char) : List Token :=
  let s := match s with
    | '\uFEFF' :: rest => rest
    | s => s
  let s := foldLines s
  tokensWithin s.length s

end NotebookGoto.Toml
