/-!
# Punycode

A label that holds characters beyond ASCII is sent as one of letters, digits and hyphens. The ASCII
characters come first and are followed by a hyphen, unless there are none. Then come the others,
in the order of their numbers: for each of them a number in digits to base 36, which says how many
steps lie between it and the one before, where a step goes to the next place in the label, and from
its end to the next character. The digits have variable bounds, by which a number ends in itself,
and the bounds follow the size of the numbers before.
-/

namespace NotebookGoto.Domain.Punycode

/-! ## Digits -/

/-- The character of a digit below 36. -/
def digitChar (d : Nat) : Char :=
  Char.ofNat (if d < 26 then 'a'.toNat + d else '0'.toNat + (d - 26))

/-- The value of a digit. -/
def digit? (c : Char) : Option Nat :=
  if 'a' ≤ c ∧ c ≤ 'z' then some (c.toNat - 'a'.toNat)
  else if 'A' ≤ c ∧ c ≤ 'Z' then some (c.toNat - 'A'.toNat)
  else if '0' ≤ c ∧ c ≤ '9' then some (c.toNat - '0'.toNat + 26)
  else none

/-- The bound of a digit, 1 to 26. A digit below its bound ends a number. The first digit has the
position 36, the next one 72, and so on. -/
def bound (bias position : Nat) : Nat :=
  max 1 (min 26 (position - bias))

theorem bound_pos (bias position : Nat) : 1 ≤ bound bias position := by
  unfold bound; omega

theorem bound_le (bias position : Nat) : bound bias position ≤ 26 := by
  unfold bound; omega

/-- A number brought below 456, and 36 for each time that it had to be divided by 35. -/
def scale (n : Nat) : Nat × Nat :=
  if 455 < n then
    let (n, position) := scale (n / 35)
    (n, position + 36)
  else (n, 0)
termination_by n
decreasing_by omega

/-- The bias after a number, of which `length` characters have been placed with it. -/
def adapt (n length : Nat) (first : Bool) : Nat :=
  let n := if first then n / 700 else n / 2
  let (n, position) := scale (n + n / length)
  position + 36 * n / (n + 38)

/-! ## Reading -/

/-- What a number has to stay below. -/
def limit : Nat :=
  Nat.pow 2 32

/-- The number at the head of a text, added to another one, and the text after it. -/
def readNumber? (bias position weight n : Nat) : List Char → Option (Nat × List Char)
  | [] => none
  | c :: rest =>
    match digit? c with
    | none => none
    | some d =>
      let n := n + d * weight
      let bound := bound bias position
      let next := weight * (36 - bound)
      if limit ≤ n then none
      else if d < bound then some (n, rest)
      else if limit ≤ next then none
      else readNumber? bias (position + 36) next n rest

theorem length_of_readNumber? {bias position weight n m : Nat} {s rest : List Char}
    (h : readNumber? bias position weight n s = some (m, rest)) : rest.length < s.length := by
  induction s generalizing position weight n with
  | nil => cases h
  | cons c t ih =>
    rw [readNumber?] at h
    split at h
    · cases h
    · dsimp only at h
      split at h
      · cases h
      · split at h
        · cases h; simp
        · split at h
          · cases h
          · have := ih h
            simp only [List.length_cons]; omega

/-- The character of a number that is one. -/
def charOf? (n : Nat) : Option Char :=
  if n.isValidChar then some (Char.ofNat n) else none

/-- A label with the characters that some numbers place in it. The last one placed has the number
`code`, and the next one may stand at `place`. -/
def insertAll? (label : List Char) (code place bias : Nat) (s : List Char) : Option (List Char) :=
  match s with
  | [] => some label
  | c :: t =>
    match _h : readNumber? bias 36 1 place (c :: t) with
    | none => none
    | some (n, rest) =>
      let length := label.length + 1
      match charOf? (code + n / length) with
      | none => none
      | some d =>
        insertAll? (label.insertIdx (n % length) d) d.toNat (n % length + 1)
          (adapt (n - place) length (place = 0)) rest
termination_by s.length
decreasing_by exact length_of_readNumber? _h

/-- The label that a text stands for. -/
def decode? (s : List Char) : Option (List Char) :=
  let numbers := (s.reverse.takeWhile (· ≠ '-')).reverse
  if numbers.length = s.length then insertAll? [] 0x80 0 72 s
  else
    let label := s.take (s.length - numbers.length - 1)
    -- A hyphen that stands first belongs to the numbers, where it is no digit.
    if label.isEmpty then none else insertAll? label 0x80 0 72 numbers

/-! ## Writing -/

/-- The digits of a number. -/
def digits (bias position n : Nat) : List Char :=
  let b := bound bias position
  if n < b then [digitChar n]
  else digitChar (b + (n - b) % (36 - b)) :: digits bias (position + 36) ((n - b) / (36 - b))
termination_by n
decreasing_by
  have := bound_pos bias position
  have := Nat.div_le_self (n - bound bias position) (36 - bound bias position)
  omega

/-- How far writing has come: the text written, the steps since the last character that was
written, the bias and the number of characters that have their place. -/
structure Progress where
  written : List Char
  steps : Nat
  bias : Nat
  placed : Nat
  deriving Repr

/-- Passes over a character of the label: one with the number `code` is written, and one with a
smaller number is a step. -/
def Progress.pass (code basic : Nat) (p : Progress) (c : Char) : Progress :=
  if c.toNat < code then { p with steps := p.steps + 1 }
  else if c.toNat = code then
    { written := p.written ++ digits p.bias 36 p.steps
      steps := 0
      bias := adapt p.steps (p.placed + 1) (p.placed = basic)
      placed := p.placed + 1 }
  else p

/-- Writes the characters of a label that have some numbers, given in ascending order. From `code`
on, none with a smaller number is left. -/
def Progress.writeAll (label : List Char) (basic : Nat) (code : Nat) (p : Progress) :
    List Nat → Progress
  | [] => p
  | next :: rest =>
    let p := { p with steps := p.steps + (next - code) * (p.placed + 1) }
    let p := label.foldl (Progress.pass next basic) p
    writeAll label basic (next + 1) { p with steps := p.steps + 1 } rest

/-- Numbers in ascending order, each once. -/
def ascending (ns : List Nat) : List Nat :=
  (ns.foldr (fun n ns => ns.filter (· < n) ++ n :: ns.filter (n < ·)) [])

/-- The text that stands for a label. -/
def encode (label : List Char) : List Char :=
  let basic := label.filter (·.toNat < 0x80)
  let codes := ascending ((label.map Char.toNat).filter (0x80 ≤ ·))
  let start : Progress := ⟨[], 0, 72, basic.length⟩
  basic ++ (if basic.isEmpty then [] else ['-'])
    ++ (start.writeAll label basic.length 0x80 codes).written

end NotebookGoto.Domain.Punycode
