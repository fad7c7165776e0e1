import NotebookGoto.Text.Affix

/-!
# UTF-8

Texts are lists of characters; files, request bodies and decoded queries are lists of bytes.
`encode` writes a text in UTF-8. `decode` reads bytes from left to right and never fails: each
character that the bytes spell comes out as `some c`, and each maximal run of bytes that starts
like a character without becoming one comes out as a single `none`. Strict reading asks that no
`none` is left, lenient reading puts the replacement character in its place.
-/

namespace NotebookGoto.Text

/-- A byte sequence, as files and network messages hold it. -/
abbrev Bytes := List UInt8

namespace Utf8

/-! ## Writing -/

/-- A byte, of which the number is taken modulo 256. -/
def byte (n : Nat) : UInt8 := UInt8.ofNat n

/-- The one to four bytes of a character. -/
def encodeChar (c : Char) : Bytes :=
  let n := c.toNat
  if n < 0x80 then [byte n]
  else if n < 0x800 then [byte (0xC0 + n / 0x40), byte (0x80 + n % 0x40)]
  else if n < 0x10000 then
    [byte (0xE0 + n / 0x1000), byte (0x80 + n / 0x40 % 0x40), byte (0x80 + n % 0x40)]
  else
    [byte (0xF0 + n / 0x40000), byte (0x80 + n / 0x1000 % 0x40), byte (0x80 + n / 0x40 % 0x40),
      byte (0x80 + n % 0x40)]

/-- A text in UTF-8. -/
def encode (s : List Char) : Bytes :=
  s.flatMap encodeChar

theorem encodeChar_ne_nil (c : Char) : encodeChar c ≠ [] := by
  unfold encodeChar
  dsimp only
  split
  · exact List.cons_ne_nil _ _
  split
  · exact List.cons_ne_nil _ _
  split <;> exact List.cons_ne_nil _ _

/-- A text has at least as many bytes as characters. -/
theorem length_le_length_encode (s : List Char) : s.length ≤ (encode s).length :=
  length_le_length_flatMap encodeChar_ne_nil s

theorem encode_append (s t : List Char) : encode (s ++ t) = encode s ++ encode t :=
  List.flatMap_append

theorem length_encode_of_ascii {s : List Char} (h : ∀ c ∈ s, c.toNat < 0x80) :
    (encode s).length = s.length := by
  induction s with
  | nil => rfl
  | cons c s ih =>
    have hc : encodeChar c = [byte c.toNat] := if_pos (h c List.mem_cons_self)
    show (encodeChar c ++ encode s).length = s.length + 1
    rw [hc, List.length_append, ih fun d hd => h d (List.mem_cons_of_mem c hd)]
    exact Nat.add_comm 1 s.length

/-! ## Reading -/

/-- Where reading stands: between characters, or inside one that still needs `left + 1` bytes,
the next of them from `low` to `high`, with `value` read so far. -/
inductive State where
  | start
  | inside (left low high value : Nat)

/-- The character of a number that is one. -/
def charOf (n : Nat) : Option Char :=
  if h : n.isValidChar then some (Char.ofNatAux n h) else none

/-- The first byte of a character: what it yields at once, and the state after it. -/
def first (b : UInt8) : List (Option Char) × State :=
  let n := b.toNat
  if n < 0x80 then ([charOf n], .start)
  else if n < 0xC2 then ([none], .start)
  else if n < 0xE0 then ([], .inside 0 0x80 0xBF (n - 0xC0))
  else if n = 0xE0 then ([], .inside 1 0xA0 0xBF 0)
  else if n = 0xED then ([], .inside 1 0x80 0x9F 0xD)
  else if n < 0xF0 then ([], .inside 1 0x80 0xBF (n - 0xE0))
  else if n = 0xF0 then ([], .inside 2 0x90 0xBF 0)
  else if n < 0xF4 then ([], .inside 2 0x80 0xBF (n - 0xF0))
  else if n = 0xF4 then ([], .inside 2 0x80 0x8F 4)
  else ([none], .start)

/-- One byte. A byte that cannot continue the character begun ends its run and is looked at
again as a first byte. -/
def step : State → UInt8 → List (Option Char) × State
  | .start, b => first b
  | .inside left low high value, b =>
    let n := b.toNat
    if low ≤ n ∧ n ≤ high then
      let value := value * 0x40 + n % 0x40
      match left with
      | 0 => ([charOf value], .start)
      | left + 1 => ([], .inside left 0x80 0xBF value)
    else
      let (out, state) := first b
      (none :: out, state)

/-- What a text that ends here leaves behind. -/
def finish : State → List (Option Char)
  | .start => []
  | .inside .. => [none]

/-- Reading from a state; `done` holds what has been read, the latest first. -/
def decodeFrom (state : State) (done : List (Option Char)) : Bytes → List (Option Char)
  | [] => ((finish state).reverseAux done).reverse
  | b :: rest =>
    let (out, state) := step state b
    decodeFrom state (out.reverseAux done) rest

/-- The characters that bytes spell, with `none` for each maximal run that spells none. -/
def decode (bytes : Bytes) : List (Option Char) :=
  decodeFrom .start [] bytes

/-- Strict reading: the text, if the bytes are its UTF-8 form. -/
def text? (bytes : Bytes) : Option (List Char) :=
  (decode bytes).mapM id

/-- Lenient reading: U+FFFD stands where nothing could be read. -/
def lenient (bytes : Bytes) : List Char :=
  (decode bytes).map (·.getD '\uFFFD')

/-! ## Reading what was written -/

theorem decodeFrom_eq (state : State) (done : List (Option Char)) (bytes : Bytes) :
    decodeFrom state done bytes = done.reverse ++ decodeFrom state [] bytes := by
  induction bytes generalizing state done with
  | nil => simp [decodeFrom, List.reverseAux_eq]
  | cons b rest ih =>
    simp only [decodeFrom]
    rw [ih, ih _ ((step state b).1.reverseAux [])]
    simp [List.reverseAux_eq]

theorem decodeFrom_cons (state : State) (b : UInt8) (rest : Bytes) :
    decodeFrom state [] (b :: rest) = (step state b).1 ++ decodeFrom (step state b).2 [] rest := by
  simp only [decodeFrom]
  rw [decodeFrom_eq]
  simp [List.reverseAux_eq]

theorem charOf_toNat (c : Char) : charOf c.toNat = some c := by
  have h : c.toNat.isValidChar := c.valid
  rw [charOf, dif_pos h]
  congr 1

theorem byte_toNat {n : Nat} (h : n < 256) : (byte n).toNat = n := by
  simp only [byte, UInt8.toNat_ofNat']
  omega

/-- A byte below 0x80 is a character by itself. The bytes of all other characters are above. -/
theorem exists_of_mem_encode {s : List Char} {b : UInt8} (hb : b ∈ encode s)
    (hascii : b.toNat < 0x80) : ∃ c ∈ s, c.toNat = b.toNat := by
  obtain ⟨c, hc, hmem⟩ := List.mem_flatMap.1 hb
  refine ⟨c, hc, ?_⟩
  have hv : c.toNat < 0xD800 ∨ 0xDFFF < c.toNat ∧ c.toNat < 0x110000 := c.valid
  have habove {n : Nat} (hlow : 0x80 ≤ n) (hn : n < 256) : b ≠ byte n := by
    rintro rfl
    rw [byte_toNat hn] at hascii
    omega
  unfold encodeChar at hmem
  dsimp only at hmem
  split at hmem
  · rw [List.mem_singleton.1 hmem, byte_toNat (by omega)]
  split at hmem
  · simp only [List.mem_cons, List.not_mem_nil, or_false] at hmem
    rcases hmem with h | h <;> exact absurd h (habove (by omega) (by omega))
  split at hmem
  · simp only [List.mem_cons, List.not_mem_nil, or_false] at hmem
    rcases hmem with h | h | h <;> exact absurd h (habove (by omega) (by omega))
  · simp only [List.mem_cons, List.not_mem_nil, or_false] at hmem
    rcases hmem with h | h | h | h <;> exact absurd h (habove (by omega) (by omega))

theorem decodeFrom_inside {left low high value n : Nat} {rest : Bytes}
    (hl : low ≤ n) (hh : n ≤ high) (hn : n < 256) :
    decodeFrom (.inside (left + 1) low high value) [] (byte n :: rest)
      = decodeFrom (.inside left 0x80 0xBF (value * 0x40 + n % 0x40)) [] rest := by
  simp [decodeFrom_cons, step, byte_toNat hn, hl, hh]

theorem decodeFrom_last {low high value n : Nat} {rest : Bytes}
    (hl : low ≤ n) (hh : n ≤ high) (hn : n < 256) :
    decodeFrom (.inside 0 low high value) [] (byte n :: rest)
      = charOf (value * 0x40 + n % 0x40) :: decodeFrom .start [] rest := by
  simp [decodeFrom_cons, step, byte_toNat hn, hl, hh]

theorem decodeFrom_first {n : Nat} {rest : Bytes} :
    decodeFrom .start [] (byte n :: rest)
      = (first (byte n)).1 ++ decodeFrom (first (byte n)).2 [] rest := by
  rw [decodeFrom_cons]; rfl

/-- A character is read back from its bytes, whatever follows them. -/
theorem decodeFrom_encodeChar (c : Char) (rest : Bytes) :
    decodeFrom .start [] (encodeChar c ++ rest) = some c :: decodeFrom .start [] rest := by
  have hv : c.toNat < 0xD800 ∨ 0xDFFF < c.toNat ∧ c.toNat < 0x110000 := c.valid
  rw [← charOf_toNat c]
  unfold encodeChar
  generalize c.toNat = n at hv
  dsimp only
  split
  · rw [List.cons_append, List.nil_append, decodeFrom_first]
    simp [first, byte_toNat (show n < 256 by omega), *]
  split
  · rw [List.cons_append, List.cons_append, decodeFrom_first]
    simp only [first, byte_toNat (show 0xC0 + n / 0x40 < 256 by omega)]
    rw [if_neg (by omega), if_neg (by omega), if_pos (by omega), List.nil_append, List.nil_append,
      decodeFrom_last (by omega) (by omega) (by omega)]
    congr 2; omega
  split
  · rw [List.cons_append, List.cons_append, List.cons_append, decodeFrom_first]
    simp only [first, byte_toNat (show 0xE0 + n / 0x1000 < 256 by omega)]
    rw [if_neg (by omega), if_neg (by omega), if_neg (by omega)]
    repeat' split
    all_goals
      first
      | omega
      | (rw [List.nil_append, List.nil_append, decodeFrom_inside (by omega) (by omega) (by omega),
          decodeFrom_last (by omega) (by omega) (by omega)]
         congr 2; omega)
  · rw [List.cons_append, List.cons_append, List.cons_append, List.cons_append,
      decodeFrom_first]
    simp only [first, byte_toNat (show 0xF0 + n / 0x40000 < 256 by omega)]
    rw [if_neg (by omega), if_neg (by omega), if_neg (by omega), if_neg (by omega),
      if_neg (by omega), if_neg (by omega)]
    repeat' split
    all_goals
      first
      | omega
      | (rw [List.nil_append, List.nil_append, decodeFrom_inside (by omega) (by omega) (by omega),
          decodeFrom_inside (by omega) (by omega) (by omega),
          decodeFrom_last (by omega) (by omega) (by omega)]
         congr 2; omega)

/-- Bytes written from a text read back as that text. -/
theorem decode_encode (s : List Char) : decode (encode s) = s.map some := by
  induction s with
  | nil => rfl
  | cons c r ih =>
    rw [decode, encode, List.flatMap_cons, decodeFrom_encodeChar, List.map_cons]
    exact congrArg _ ih

theorem text?_encode (s : List Char) : text? (encode s) = some s := by
  rw [text?, decode_encode]
  induction s with
  | nil => rfl
  | cons c r ih => simp_all

theorem lenient_encode (s : List Char) : lenient (encode s) = s := by
  simp [lenient, decode_encode, Function.comp_def]

end Utf8

end NotebookGoto.Text
