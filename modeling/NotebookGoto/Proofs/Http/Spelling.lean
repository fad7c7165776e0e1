import Mathlib.Data.List.Basic
import Mathlib.Data.List.TakeWhile
import NotebookGoto.Http.Query
import NotebookGoto.Text.Affix
import NotebookGoto.Text.Blank

/-!
# Spellings in queries

A query may spell one text in many ways: each byte of it as an escape, with digits in either letter
case, most characters as themselves, and a space as a plus. Reading undoes every spelling
(`component_of_isSpelling`). A spelling holds no ampersand, and an equals sign only where its text
holds one, so pairs of spellings are read as they were put together, whatever pairs stand around
them.

* **`single?_of_spells`**: the value of a key that is spelled in one pair.
* **`single?_of_two`**: a key that two pairs have, however it is spelled in them, has no value.
-/

namespace NotebookGoto.Http.Query

open Text

/-! ## Escapes -/

theorem unescape_cons_of_ne {b : UInt8} (h : b ≠ 0x25) (rest : Bytes) :
    unescape (b :: rest) = b :: unescape rest := by
  rw [unescape]
  intro _ _ _ heq _
  exact h heq

theorem unescape_append_of_not_mem {front : Bytes} (h : 0x25 ∉ front) (rest : Bytes) :
    unescape (front ++ rest) = front ++ unescape rest := by
  induction front with
  | nil => rfl
  | cons b front ih =>
    have hb : b ≠ 0x25 := fun e => h (e ▸ List.mem_cons_self)
    rw [List.cons_append, unescape_cons_of_ne hb, ih fun hmem => h (List.mem_cons_of_mem b hmem),
      List.cons_append]

theorem toNat_of_hexDigit? {c : Char} {n : Nat} (h : Decimal.hexDigit? c = some n) :
    c.toNat < 0x80 := by
  have hbound {d : Char} (hd : d.toNat < 0x80) (hc : c ≤ d) : c.toNat < 0x80 :=
    Nat.lt_of_le_of_lt (show c.toNat ≤ d.toNat from hc) hd
  unfold Decimal.hexDigit? at h
  split at h
  · rename_i hc
    exact hbound (by decide) hc.2
  split at h
  · rename_i hc
    exact hbound (by decide) hc.2
  split at h
  · rename_i hc
    exact hbound (by decide) hc.2
  · cases h

theorem encodeChar_of_ascii {c : Char} (h : c.toNat < 0x80) :
    Utf8.encodeChar c = [Utf8.byte c.toNat] :=
  if_pos h

theorem unescape_hexDigit? {c : Char} (h : c.toNat < 0x80) :
    unescape.hexDigit? (Utf8.byte c.toNat) = Decimal.hexDigit? c := by
  unfold unescape.hexDigit?
  rw [Utf8.byte_toNat (by omega), Char.ofNat_toNat]

/-- An escape is read as its byte. -/
theorem unescape_escape {b : UInt8} {high low : Char}
    (hhigh : Decimal.hexDigit? high = some (b.toNat / 16))
    (hlow : Decimal.hexDigit? low = some (b.toNat % 16)) (rest : Bytes) :
    unescape (Utf8.encode ['%', high, low] ++ rest) = b :: unescape rest := by
  have hhigh' := toNat_of_hexDigit? hhigh
  have hlow' := toNat_of_hexDigit? hlow
  have hbytes : Utf8.encode ['%', high, low] =
      [0x25, Utf8.byte high.toNat, Utf8.byte low.toNat] := by
    show Utf8.encodeChar '%' ++ (Utf8.encodeChar high ++ (Utf8.encodeChar low ++ [])) = _
    rw [encodeChar_of_ascii hhigh', encodeChar_of_ascii hlow']
    rfl
  have hbyte : UInt8.ofNat (b.toNat / 16 * 16 + b.toNat % 16) = b := by
    rw [show b.toNat / 16 * 16 + b.toNat % 16 = b.toNat by omega, UInt8.ofNat_toNat]
  rw [hbytes, List.cons_append, List.cons_append, List.cons_append, List.nil_append]
  rw [unescape, unescape_hexDigit? hhigh', unescape_hexDigit? hlow', hhigh, hlow]
  dsimp only
  rw [hbyte]

/-! ## Spellings -/

/-- A character that may stand for itself in a key or a value. Whether a target can hold it is not
asked. -/
def isLiteral (c : Char) : Bool :=
  c ∉ ['&', '+', '%']

/-- Whether a text spells bytes: a character its own bytes, a plus a space, and an escape the byte
of its two digits, which may be of either letter case. -/
inductive Spells : Bytes → List Char → Prop where
  | nil : Spells [] []
  | literal {c : Char} {bytes : Bytes} {s : List Char} (hc : isLiteral c = true)
      (h : Spells bytes s) : Spells (Utf8.encodeChar c ++ bytes) (c :: s)
  | plus {bytes : Bytes} {s : List Char} (h : Spells bytes s) : Spells (0x20 :: bytes) ('+' :: s)
  | escape {b : UInt8} {high low : Char} {bytes : Bytes} {s : List Char}
      (hhigh : Decimal.hexDigit? high = some (b.toNat / 16))
      (hlow : Decimal.hexDigit? low = some (b.toNat % 16)) (h : Spells bytes s) :
      Spells (b :: bytes) ('%' :: high :: low :: s)

/-- Whether a text is a spelling of another. -/
def IsSpelling (s text : List Char) : Prop :=
  Spells (Utf8.encode text) s

theorem isSpelling_of_all_literal {s : List Char} (h : ∀ c ∈ s, isLiteral c = true) :
    IsSpelling s s := by
  induction s with
  | nil => exact .nil
  | cons c s ih =>
    exact .literal (h c List.mem_cons_self) (ih fun d hd => h d (List.mem_cons_of_mem c hd))

theorem ne_of_hexDigit? {c d : Char} {n : Nat} (hc : Decimal.hexDigit? c = some n)
    (hd : Decimal.hexDigit? d = none) : c ≠ d := by
  intro heq
  rw [heq, hd] at hc
  cases hc

/-- **Reading undoes a spelling**, byte by byte. -/
theorem unescape_of_spells {bytes : Bytes} {s : List Char} (h : Spells bytes s) :
    unescape (Utf8.encode (s.map fun c => if c = '+' then ' ' else c)) = bytes := by
  induction h with
  | nil => rfl
  | @literal c bytes s hc h ih =>
    have hplus : c ≠ '+' := ne_of_class hc (by decide)
    have hpercent : 0x25 ∉ Utf8.encodeChar c := by
      intro hmem
      have hencode : 0x25 ∈ Utf8.encode [c] :=
        List.mem_flatMap.2 ⟨c, List.mem_singleton_self c, hmem⟩
      obtain ⟨d, hd, hnat⟩ := Utf8.exists_of_mem_encode hencode (by decide)
      rw [List.mem_singleton.1 hd] at hnat
      have heq : c = '%' := Char.toNat_inj.1 hnat
      exact absurd heq (ne_of_class hc (by decide))
    rw [List.map_cons, if_neg hplus]
    show unescape (Utf8.encodeChar c ++ Utf8.encode _) = _
    rw [unescape_append_of_not_mem hpercent, ih]
  | @plus bytes s h ih =>
    rw [List.map_cons, if_pos rfl]
    show unescape ([0x20] ++ Utf8.encode _) = _
    rw [unescape_append_of_not_mem (by decide), ih]
    rfl
  | @escape b high low bytes s hhigh hlow h ih =>
    have hhigh' : high ≠ '+' := ne_of_hexDigit? hhigh (by decide)
    have hlow' : low ≠ '+' := ne_of_hexDigit? hlow (by decide)
    rw [List.map_cons, List.map_cons, List.map_cons, if_neg (by decide), if_neg hhigh',
      if_neg hlow',
      show ∀ t : List Char, '%' :: high :: low :: t = ['%', high, low] ++ t from fun _ => rfl,
      Utf8.encode_append, unescape_escape hhigh hlow, ih]

theorem component_of_isSpelling {s text : List Char} (h : IsSpelling s text) :
    component s = text := by
  rw [component, unescape_of_spells h, Utf8.lenient_encode]

/-- The characters of a spelling: marks and digits of escapes, and those that stand for themselves,
with their bytes among those that are spelled. -/
theorem mem_of_spells {bytes : Bytes} {s : List Char} (h : Spells bytes s) {c : Char} (hc : c ∈ s) :
    c ∈ ['+', '%'] ∨ (Decimal.hexDigit? c).isSome = true ∨
      isLiteral c = true ∧ Utf8.encodeChar c ⊆ bytes := by
  -- What holds of a spelling stays so behind more bytes.
  have hlater (front : Bytes) {bytes : Bytes} :
      (c ∈ ['+', '%'] ∨ (Decimal.hexDigit? c).isSome = true ∨
        isLiteral c = true ∧ Utf8.encodeChar c ⊆ bytes) →
      c ∈ ['+', '%'] ∨ (Decimal.hexDigit? c).isSome = true ∨
        isLiteral c = true ∧ Utf8.encodeChar c ⊆ front ++ bytes :=
    Or.imp_right <| Or.imp_right <| And.imp_right fun hsub =>
      List.Subset.trans hsub (List.subset_append_right front bytes)
  induction h with
  | nil => cases hc
  | @literal d bytes s hd h ih =>
    rcases List.mem_cons.1 hc with rfl | hc
    · exact .inr (.inr ⟨hd, List.subset_append_left _ _⟩)
    · exact hlater (Utf8.encodeChar d) (ih hc)
  | @plus bytes s h ih =>
    rcases List.mem_cons.1 hc with rfl | hc
    · exact .inl (by decide)
    · exact hlater [0x20] (ih hc)
  | @escape b high low bytes s hhigh hlow h ih =>
    simp only [List.mem_cons] at hc
    rcases hc with rfl | rfl | rfl | hc
    · exact .inl (by decide)
    · exact .inr (.inl (by rw [hhigh]; rfl))
    · exact .inr (.inl (by rw [hlow]; rfl))
    · exact hlater [b] (ih hc)

theorem ampersand_not_mem {s text : List Char} (h : IsSpelling s text) : '&' ∉ s := by
  intro hmem
  rcases mem_of_spells h hmem with hmark | hdigit | ⟨hliteral, -⟩
  · exact absurd hmark (by decide)
  · exact absurd hdigit (by decide)
  · exact absurd hliteral (by decide)

theorem equals_not_mem {s text : List Char} (h : IsSpelling s text) (htext : '=' ∉ text) :
    '=' ∉ s := by
  intro hmem
  rcases mem_of_spells h hmem with hmark | hdigit | ⟨-, hsub⟩
  · exact absurd hmark (by decide)
  · exact absurd hdigit (by decide)
  · have hbyte : 0x3D ∈ Utf8.encode text := hsub (by decide)
    obtain ⟨c, hc, hnat⟩ := Utf8.exists_of_mem_encode hbyte (by decide)
    have hchar : c = '=' := Char.toNat_inj.1 hnat
    exact htext (hchar ▸ hc)

/-! ## Pairs -/

theorem pair_of_isSpelling {s t key value : List Char} (hs : IsSpelling s key)
    (ht : IsSpelling t value) (hkey : '=' ∉ key) : pair (s ++ '=' :: t) = (key, value) := by
  -- The first equals sign is the one between key and value, whatever the value holds.
  have hpart : ∀ c ∈ s, decide (c ≠ '=') = true := by
    intro c hc
    apply decide_eq_true
    intro heq
    exact equals_not_mem hs hkey (heq ▸ hc)
  unfold pair
  rw [takeWhile_append_cons hpart (by decide), dropWhile_append_cons hpart (by decide),
    component_of_isSpelling hs, List.drop_one, List.tail_cons, component_of_isSpelling ht]

/-- The pairs in the pieces of a query. -/
def pairsOf (pieces : List (List Char)) : List (List Char × List Char) :=
  (pieces.filter (· ≠ [])).map pair

theorem pairs_intercalate {pieces : List (List Char)} (hne : pieces ≠ [])
    (h : ∀ p ∈ pieces, '&' ∉ p) : pairs (['&'].intercalate pieces) = pairsOf pieces := by
  unfold pairs
  rw [List.splitOn_intercalate '&' h hne]
  rfl

theorem pairsOf_append (ps qs : List (List Char)) :
    pairsOf (ps ++ qs) = pairsOf ps ++ pairsOf qs := by
  unfold pairsOf
  rw [List.filter_append, List.map_append]

theorem pairsOf_cons {p : List Char} (hp : p ≠ []) (ps : List (List Char)) :
    pairsOf (p :: ps) = pair p :: pairsOf ps := by
  unfold pairsOf
  rw [List.filter_cons_of_pos (by simpa using hp), List.map_cons]

theorem ne_nil_of_pair {p key : List Char} (hp : (pair p).1 = key) (hkey : key ≠ []) : p ≠ [] := by
  intro hnil
  rw [hnil] at hp
  exact hkey hp.symm

theorem filter_pairsOf {key : List Char} {pieces : List (List Char)}
    (h : ∀ p ∈ pieces, (pair p).1 ≠ key) : (pairsOf pieces).filter (·.1 = key) = [] := by
  rw [List.filter_eq_nil_iff]
  intro q hq
  obtain ⟨p, hp, rfl⟩ := List.mem_map.1 hq
  simpa using h p (List.mem_filter.1 hp).1

/-- Whether a query holds one pair for a key and a value, each in some spelling, among pairs for
other keys. -/
def Holds (key value query : List Char) : Prop :=
  ∃ before s t after, query = ['&'].intercalate (before ++ (s ++ '=' :: t) :: after) ∧
    IsSpelling s key ∧ IsSpelling t value ∧ ∀ p ∈ before ++ after, '&' ∉ p ∧ (pair p).1 ≠ key

/-- **The value of a key that is spelled in one pair.** -/
theorem single?_of_spells {key value query : List Char} (hkey : '=' ∉ key)
    (h : Holds key value query) : single? key query = some value := by
  obtain ⟨before, s, t, after, hquery, hs, ht, hothers⟩ := h
  have hnone {pieces : List (List Char)} (hsub : pieces ⊆ before ++ after) :
      (pairsOf pieces).filter (·.1 = key) = [] :=
    filter_pairsOf fun p hp => (hothers p (hsub hp)).2
  -- No piece holds an ampersand, so the query is cut where its pieces were joined.
  have hmarks : ∀ p ∈ before ++ (s ++ '=' :: t) :: after, '&' ∉ p := by
    intro p hp
    rcases List.mem_append.1 hp with hp | hp
    · exact (hothers p (List.mem_append_left _ hp)).1
    rcases List.mem_cons.1 hp with rfl | hp
    · simp [ampersand_not_mem hs, ampersand_not_mem ht]
    · exact (hothers p (List.mem_append_right _ hp)).1
  have hfound : (pairs query).filter (·.1 = key) = [(key, value)] := by
    rw [hquery, pairs_intercalate (by simp) hmarks, pairsOf_append, pairsOf_cons (by simp),
      pair_of_isSpelling hs ht hkey, List.filter_append, List.filter_cons_of_pos (by simp),
      hnone (List.subset_append_left _ _), hnone (List.subset_append_right _ _)]
    rfl
  rw [single?, hfound]

/-- **A key that two pairs have** has no value. -/
theorem single?_of_two {key p q : List Char} {before middle after : List (List Char)}
    (hkey : key ≠ []) (hp : (pair p).1 = key) (hq : (pair q).1 = key)
    (hmarks : ∀ r ∈ before ++ p :: middle ++ q :: after, '&' ∉ r) :
    single? key (['&'].intercalate (before ++ p :: middle ++ q :: after)) = none := by
  have hpairs :
      (pairs (['&'].intercalate (before ++ p :: middle ++ q :: after))).filter (·.1 = key) =
      (pairsOf before).filter (·.1 = key) ++
        pair p :: ((pairsOf middle).filter (·.1 = key) ++
          pair q :: (pairsOf after).filter (·.1 = key)) := by
    rw [pairs_intercalate (by simp) hmarks, List.append_assoc, List.cons_append, pairsOf_append,
      pairsOf_cons (ne_nil_of_pair hp hkey), pairsOf_append, pairsOf_cons (ne_nil_of_pair hq hkey),
      List.filter_append, List.filter_cons_of_pos (by simpa using hp), List.filter_append,
      List.filter_cons_of_pos (by simpa using hq)]
  unfold single?
  rw [hpairs]
  split
  · rename_i heq
    have hlength := congrArg List.length heq
    simp at hlength
    omega
  · rfl

end NotebookGoto.Http.Query
