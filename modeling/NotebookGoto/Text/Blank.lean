/-!
# White space and trimming

Texts are handled as lists of characters. This module names the white space that trimming
removes and defines trimming by any class of characters: a trimmed text neither starts nor
ends with a character of the class.
-/

namespace NotebookGoto.Text

/-- The characters that Unicode gives the property White_Space, 25 in all. -/
def isBlank (c : Char) : Bool :=
  let n := c.toNat
  (0x9 ≤ n && n ≤ 0xD) || n == 0x20 || n == 0x85 || n == 0xA0 || n == 0x1680
    || (0x2000 ≤ n && n ≤ 0x200A) || n == 0x2028 || n == 0x2029 || n == 0x202F
    || n == 0x205F || n == 0x3000

/-- A text without the characters of a class at its end. -/
def trimEndBy (p : Char → Bool) (s : List Char) : List Char :=
  (s.reverse.dropWhile p).reverse

/-- A text without the characters of a class at either end. -/
def trimBy (p : Char → Bool) (s : List Char) : List Char :=
  trimEndBy p (s.dropWhile p)

/-- A text without white space at either end. -/
def trim (s : List Char) : List Char :=
  trimBy isBlank s

/-! ## Classes of characters -/

/-- Two characters that a class tells apart. -/
theorem ne_of_class {p : Char → Bool} {c d : Char} (hc : p c = true) (hd : p d = false) :
    c ≠ d := by
  rintro rfl
  rw [hc] at hd
  cases hd

/-- A character of a class is none of some characters outside of it. -/
theorem not_mem_of_class {p : Char → Bool} {c : Char} {marks : List Char} (hc : p c = true)
    (hmarks : marks.all (!p ·) = true) : c ∉ marks := by
  intro hmem
  have hnot := List.all_eq_true.1 hmarks c hmem
  rw [hc] at hnot
  cases hnot

theorem not_mem_of_all_class {p : Char → Bool} {mark : Char} {s : List Char}
    (hs : ∀ c ∈ s, p c = true) (hmark : p mark = false) : mark ∉ s :=
  fun hmem => ne_of_class (hs mark hmem) hmark rfl

/-- What is found for each character of a text. -/
theorem forall_mem_of_all {p : Char → Prop} [DecidablePred p] {s : List Char}
    (h : s.all (p ·) = true) : ∀ c ∈ s, p c :=
  fun c hc => of_decide_eq_true (List.all_eq_true.1 h c hc)

/-- What is found for each ASCII character of a class. -/
theorem of_ascii {p : Char → Bool} {q : Char → Prop}
    (h : ∀ n < 0x80, p (Char.ofNat n) = true → q (Char.ofNat n)) {c : Char}
    (hascii : c.toNat < 0x80) (hc : p c = true) : q c := by
  have hq := h c.toNat hascii
  rw [Char.ofNat_toNat] at hq
  exact hq hc

theorem toNat_of_isAlphanum {c : Char} (h : c.isAlphanum = true) : c.toNat < 0x80 := by
  have hbound {d : Char} (hd : d.toNat < 0x80) (hc : c.val ≤ d.val) : c.toNat < 0x80 :=
    Nat.lt_of_le_of_lt (UInt32.le_iff_toNat_le.1 hc) hd
  rcases Bool.or_eq_true_iff.1 h with hletter | hdigit
  · rcases Bool.or_eq_true_iff.1 hletter with hupper | hlower
    · exact hbound (d := 'Z') (by decide) (of_decide_eq_true hupper).2
    · exact hbound (d := 'z') (by decide) (of_decide_eq_true (Bool.and_eq_true_iff.1 hlower).2)
  · exact hbound (d := '9') (by decide) (of_decide_eq_true (Bool.and_eq_true_iff.1 hdigit).2)

theorem toNat_of_isDigit {c : Char} (h : c.isDigit = true) : c.toNat < 0x80 :=
  toNat_of_isAlphanum (Bool.or_eq_true_iff.2 (.inr h))

/-! A class is left where the first character outside of it stands. -/

theorem takeWhile_append_cons {p : Char → Bool} {c : Char} {s : List Char}
    (hs : ∀ d ∈ s, p d = true) (hc : p c = false) (t : List Char) :
    (s ++ c :: t).takeWhile p = s := by
  rw [List.takeWhile_append_of_pos hs, List.takeWhile_cons_of_neg (by simp [hc]), List.append_nil]

theorem dropWhile_append_cons {p : Char → Bool} {c : Char} {s : List Char}
    (hs : ∀ d ∈ s, p d = true) (hc : p c = false) (t : List Char) :
    (s ++ c :: t).dropWhile p = c :: t := by
  rw [List.dropWhile_append_of_pos hs, List.dropWhile_cons_of_neg (by simp [hc])]

/-! ## What trimming leaves -/

theorem trimEndBy_append_of_all {p : Char → Bool} {s t : List Char} (h : t.all p) :
    trimEndBy p (s ++ t) = trimEndBy p s := by
  simp only [trimEndBy, List.reverse_append, List.reverse_inj]
  rw [List.dropWhile_append_of_pos]
  intro c hc
  exact List.all_eq_true.1 h c (List.mem_reverse.1 hc)

theorem trimEndBy_append_cons {p : Char → Bool} {c : Char} (h : ¬ p c) (s t : List Char) :
    trimEndBy p (s ++ c :: t) = s ++ c :: trimEndBy p t := by
  have hreverse : (s ++ c :: t).reverse = t.reverse ++ c :: s.reverse := by simp
  rw [trimEndBy, hreverse, List.dropWhile_append]
  split
  · rename_i hnil
    rw [List.dropWhile_cons_of_neg h, trimEndBy, List.isEmpty_iff.1 hnil]
    simp
  · simp [trimEndBy]

theorem mem_of_mem_trimEndBy {p : Char → Bool} {c : Char} {s : List Char}
    (h : c ∈ trimEndBy p s) : c ∈ s :=
  List.mem_reverse.1 ((List.dropWhile_suffix p).mem (List.mem_reverse.1 h))

theorem trimBy_append_of_all {p : Char → Bool} {s t : List Char} (h : t.all p) :
    trimBy p (t ++ s) = trimBy p s := by
  rw [trimBy, List.dropWhile_append_of_pos (List.all_eq_true.1 h), ← trimBy]

theorem dropWhile_of_all {p : Char → Bool} {s : List Char} (h : s.all p) : s.dropWhile p = [] := by
  rw [← List.append_nil s, List.dropWhile_append_of_pos (List.all_eq_true.1 h), List.dropWhile_nil]

theorem dropWhile_eq_self {p : Char → Bool} {s : List Char} (h : ∀ c ∈ s.head?, ¬ p c) :
    s.dropWhile p = s := by
  cases s with
  | nil => rfl
  | cons c r => simp [h c rfl]

theorem trimEndBy_eq_self {p : Char → Bool} {s : List Char} (h : ∀ c ∈ s.getLast?, ¬ p c) :
    trimEndBy p s = s := by
  rw [trimEndBy, dropWhile_eq_self, List.reverse_reverse]
  rwa [List.head?_reverse]

theorem exists_trimEndBy (p : Char → Bool) (s : List Char) :
    ∃ e, s = trimEndBy p s ++ e ∧ e.all p = true := by
  refine ⟨(s.reverse.takeWhile p).reverse, ?_, ?_⟩
  · rw [trimEndBy, ← List.reverse_append, List.takeWhile_append_dropWhile, List.reverse_reverse]
  · rw [List.all_reverse]
    exact List.all_takeWhile

theorem not_of_getLast?_trimEndBy {p : Char → Bool} {s : List Char} {c : Char}
    (hc : c ∈ (trimEndBy p s).getLast?) : ¬ p c := by
  rw [trimEndBy, List.getLast?_reverse] at hc
  have hhead := List.head?_dropWhile_not p s.reverse
  rw [hc] at hhead
  simpa using hhead

theorem not_of_getLast?_trimBy {p : Char → Bool} {s : List Char} {c : Char}
    (hc : c ∈ (trimBy p s).getLast?) : ¬ p c :=
  not_of_getLast?_trimEndBy hc

theorem not_of_head?_trimBy {p : Char → Bool} {s : List Char} {c : Char}
    (hc : c ∈ (trimBy p s).head?) : ¬ p c := by
  obtain ⟨e, hs, -⟩ := exists_trimEndBy p (s.dropWhile p)
  obtain ⟨t, ht⟩ := List.head?_eq_some_iff.1 hc
  have hhead := List.head?_dropWhile_not p s
  -- What trimming leaves starts where the text does behind its first characters of the class.
  rw [hs, ← trimBy, ht] at hhead
  simpa using hhead

theorem trimBy_append_of_all_right {p : Char → Bool} {s e : List Char} (he : e.all p) :
    trimBy p (s ++ e) = trimBy p s := by
  rw [trimBy, trimBy, List.dropWhile_append]
  split
  · rename_i hnil
    rw [List.isEmpty_iff.1 hnil, dropWhile_of_all he]
  · exact trimEndBy_append_of_all he

theorem exists_trimBy (p : Char → Bool) (s : List Char) :
    ∃ b e, s = b ++ (trimBy p s ++ e) ∧ b.all p = true ∧ e.all p = true := by
  obtain ⟨e, hs, he⟩ := exists_trimEndBy p (s.dropWhile p)
  refine ⟨s.takeWhile p, e, ?_, List.all_takeWhile, he⟩
  rw [trimBy, ← hs, List.takeWhile_append_dropWhile]

/-- Only characters of the class are lost. -/
theorem mem_trimBy_of_mem {p : Char → Bool} {c : Char} {s : List Char} (hc : c ∈ s) (h : ¬ p c) :
    c ∈ trimBy p s := by
  obtain ⟨b, e, hs, hb, he⟩ := exists_trimBy p s
  rw [hs] at hc
  rcases List.mem_append.1 hc with hc | hc
  · exact absurd (List.all_eq_true.1 hb c hc) h
  rcases List.mem_append.1 hc with hc | hc
  · exact hc
  · exact absurd (List.all_eq_true.1 he c hc) h

/-- A text that neither starts nor ends with a character of the class is found between such
characters. -/
theorem trimBy_between {p : Char → Bool} {s t u : List Char} (ht : t.all p) (hu : u.all p)
    (hhead : ∀ c ∈ s.head?, ¬ p c) (hlast : ∀ c ∈ s.getLast?, ¬ p c) :
    trimBy p (t ++ (s ++ u)) = s := by
  rw [trimBy_append_of_all ht, trimBy]
  cases s with
  | nil =>
    rw [List.nil_append, dropWhile_of_all hu]
    rfl
  | cons c s =>
    rw [List.cons_append, List.dropWhile_cons_of_neg (hhead c rfl), ← List.cons_append,
      trimEndBy_append_of_all hu, trimEndBy_eq_self hlast]

theorem trimBy_eq_self {p : Char → Bool} {s : List Char} (hhead : ∀ c ∈ s.head?, ¬ p c)
    (hlast : ∀ c ∈ s.getLast?, ¬ p c) : trimBy p s = s := by
  rw [trimBy, dropWhile_eq_self hhead, trimEndBy_eq_self hlast]

end NotebookGoto.Text
