import NotebookGoto.Proofs.Json.Record

/-!
# Where a value ends

`Json.read` looks no further than the closing mark of an array or an object, so what it reads as a
record is a prefix of the text, and only a prefix, that is a record by itself. Behind a closing mark
the tokens start anew, whatever they are: unlike a line feed (`tokens_append`) a mark may also stand
in a string, but where it is a token the text before it is cut off neatly.

* **`tokens_append_mark`** and **`exists_of_tokens_mark`**: a text is put together, and taken apart,
  at a closing mark that is a token.
* **`Format.read_iff_exists_prefix`**: what is read from the head of a text is what a prefix that
  ends in a mark holds.
* **`Format.prefix_unique`**: there is no more than one such prefix.
-/

namespace NotebookGoto.Json

open Text

/-- The character that closes a bracket. -/
def Bracket.mark : Bracket → Char
  | .square => ']'
  | .brace => '\x7d'

theorem Bracket.isBreak_mark (b : Bracket) : isBreak b.mark = true := by
  cases b <;> decide

theorem tokens_mark (b : Bracket) (rest : Symbols) :
    tokens (some b.mark :: rest) = .closing b :: tokens rest := by
  cases b <;> exact tokens_token (by decide) rfl

/-! ## What a scanner takes

Each token leaves a rest, and it is the same token whether something follows the rest or not. -/

/-- A scanner that finds the same whether `x` stands behind its rest or not. -/
structure Ignores {α : Type} (x : Symbols) (scan : Symbols → Option (α × Symbols)) : Prop where
  append : ∀ {s r a}, scan s = some (a, r) → scan (s ++ x) = some (a, r ++ x)
  strip : ∀ {s r a}, scan s = some (a, r ++ x) → ∃ s', s = s' ++ x ∧ scan s' = some (a, r)

namespace Ignores

variable {α β : Type} {x : Symbols} {scan : Symbols → Option (α × Symbols)}

/-- A scanner that takes the same first symbols whatever follows them. -/
theorem of_takes (h : ∀ {s r a}, scan s = some (a, r) →
    ∃ w, s = w ++ r ∧ ∀ y, scan (w ++ y) = some (a, y)) : Ignores x scan where
  append hscan := by
    obtain ⟨w, rfl, hw⟩ := h hscan
    rw [List.append_assoc]
    exact hw _
  strip hscan := by
    obtain ⟨w, rfl, hw⟩ := h hscan
    exact ⟨w ++ _, (List.append_assoc _ _ _).symm, hw _⟩

theorem map (h : Ignores x scan) (f : α → β) :
    Ignores x fun s => (scan s).map fun m => (f m.1, m.2) where
  append hscan := by
    obtain ⟨⟨a, r⟩, ha, hf⟩ := Option.map_eq_some_iff.1 hscan
    cases hf
    rw [h.append ha]
    rfl
  strip hscan := by
    obtain ⟨⟨a, r⟩, ha, hf⟩ := Option.map_eq_some_iff.1 hscan
    cases hf
    obtain ⟨s', rfl, hs'⟩ := h.strip ha
    refine ⟨s', rfl, ?_⟩
    rw [hs']
    rfl

end Ignores

/-! ### Numbers -/

namespace Number

theorem suffix_spanDigits (s : Symbols) : (spanDigits s).2 <:+ s := by
  fun_induction spanDigits s with
  | case1 c rest _ ds rest' hs ih =>
    rw [hs] at ih
    exact ih.trans (List.suffix_cons _ _)
  | case2 | case3 => exact List.suffix_rfl

theorem suffix_of_whole? {s rest : Symbols} {ds : List Char} (h : whole? s = some (ds, rest)) :
    rest <:+ s := by
  have hs := suffix_spanDigits s
  unfold whole? at h
  split at h
  case h_1 | h_3 => cases h
  all_goals
    rename_i hspan
    rw [hspan] at hs
    cases h
    exact hs

theorem suffix_of_fraction? {s rest : Symbols} {ds : List Char}
    (h : fraction? s = some (ds, rest)) : rest <:+ s := by
  unfold fraction? at h
  split at h
  · rename_i t
    have ht := suffix_spanDigits t
    split at h
    · cases h
    · rename_i hspan
      rw [hspan] at ht
      cases h
      exact ht.trans (List.suffix_cons _ _)
  · cases h
    exact List.suffix_rfl

theorem suffix_exponentSign (s : Symbols) : (exponentSign s).2 <:+ s := by
  unfold exponentSign
  split
  · exact List.suffix_cons _ _
  · exact List.suffix_cons _ _
  · exact List.suffix_rfl

theorem suffix_of_exponent? {s rest : Symbols} {e : Option (Bool × List Char)}
    (h : exponent? s = some (e, rest)) : rest <:+ s := by
  unfold exponent? at h
  split at h
  · rename_i c t
    have hdigits := (suffix_spanDigits (exponentSign t).2).trans (suffix_exponentSign t)
    split at h
    · dsimp only at h
      split at h
      · cases h
      · rename_i hspan
        rw [hspan] at hdigits
        cases h
        exact hdigits.trans (List.suffix_cons _ _)
    · cases h
      exact List.suffix_rfl
  · cases h
    exact List.suffix_rfl

theorem suffix_of_scan? {negative : Bool} {s rest : Symbols} {n : Number}
    (h : scan? negative s = some (n, rest)) : rest <:+ s := by
  simp only [scan?, Option.bind_eq_bind, Option.bind_eq_some_iff, Option.pure_def,
    Option.some.injEq, Prod.mk.injEq, Prod.exists] at h
  obtain ⟨_, r₁, h₁, _, r₂, h₂, _, r₃, h₃, _, rfl⟩ := h
  exact (suffix_of_exponent? h₃).trans ((suffix_of_fraction? h₂).trans (suffix_of_whole? h₁))

/-- A number ends before a mark in any case. -/
theorem ignores_scan? (negative : Bool) (b : Bracket) (y : Symbols) :
    Ignores (some b.mark :: y) (scan? negative) where
  append h := by
    rw [scan?_append (not_inNumber_of_isBreak b.isBreak_mark), h]
    rfl
  strip {s r _} h := by
    obtain ⟨w, hw⟩ := suffix_of_scan? h
    have hs : s = (w ++ r) ++ some b.mark :: y := by rw [← hw, List.append_assoc]
    rw [hs, scan?_append (not_inNumber_of_isBreak b.isBreak_mark)] at h
    obtain ⟨⟨n', r'⟩, hscan, heq⟩ := Option.map_eq_some_iff.1 h
    obtain ⟨rfl, hrest⟩ := Prod.mk.inj heq
    cases List.append_cancel_right hrest
    exact ⟨_, hs, hscan⟩

end Number

/-! ### Strings and words -/

namespace Piece

theorem exists_of_code? {s r : Symbols} {p : Piece} (h : code? s = some (p, r)) :
    ∃ w, s = w ++ r ∧ ∀ y, code? (w ++ y) = some (p, y) := by
  unfold code? at h
  split at h
  · rename_i a b c d rest
    simp only [Option.bind_eq_bind, Option.bind_eq_some_iff, Option.pure_def,
      Option.some.injEq, Prod.mk.injEq] at h
    obtain ⟨_, ha, _, hb, _, hc, _, hd, rfl, rfl⟩ := h
    refine ⟨[some a, some b, some c, some d], rfl, fun y => ?_⟩
    simp only [List.cons_append, List.nil_append, code?, ha, hb, hc, hd]
    rfl
  · cases h

theorem exists_of_escape? {s r : Symbols} {p : Piece} (h : escape? s = some (p, r)) :
    ∃ w, s = w ++ r ∧ ∀ y, escape? (w ++ y) = some (p, y) := by
  match s with
  | [] | none :: _ => cases h
  | some c :: rest =>
    by_cases hu : c = 'u'
    · subst hu
      obtain ⟨w, rfl, hw⟩ := exists_of_code? h
      exact ⟨some 'u' :: w, rfl, hw⟩
    · -- All other escapes are of one character.
      refine ⟨[some c], ?_, fun y => ?_⟩
      all_goals
        simp only [escape?, if_neg hu, List.cons_append, List.nil_append] at h ⊢
        repeat' split at h
        all_goals simp_all

/-- A string is read up to its closing quote, whatever follows. -/
theorem exists_of_scan? {done : List Piece} {s u r : Symbols} (h : scan? done s = some (u, r)) :
    ∃ w, s = w ++ r ∧ ∀ y, scan? done (w ++ y) = some (u, y) := by
  fun_induction scan? done s with
  | case1 => cases h
  | case2 done rest ih =>
    obtain ⟨w, rfl, hw⟩ := ih h
    refine ⟨none :: w, rfl, fun y => ?_⟩
    rw [List.cons_append, scan?, hw]
  | case3 done rest =>
    cases h
    refine ⟨[some '"'], rfl, fun y => ?_⟩
    rw [List.singleton_append, scan?, if_pos rfl]
  | case4 done rest p rest' he hq ih =>
    obtain ⟨w, rfl, hw⟩ := ih h
    obtain ⟨w', rfl, hw'⟩ := exists_of_escape? he
    refine ⟨some '\\' :: (w' ++ w), by simp, fun y => ?_⟩
    rw [List.cons_append, List.append_assoc, scan?_escape (hw' (w ++ y)), hw]
  | case5 => cases h
  | case6 => cases h
  | case7 done c rest hq he hlow ih =>
    obtain ⟨w, rfl, hw⟩ := ih h
    refine ⟨some c :: w, rfl, fun y => ?_⟩
    rw [List.cons_append, scan?, if_neg hq, if_neg he, if_neg hlow, hw]

end Piece

/-! ### All tokens -/

namespace Token

theorem ignores_word {x : Symbols} (t : Token) (word : List Char) :
    Ignores x fun s => (afterWord? word s).map fun rest => (t, rest) := by
  refine .of_takes fun {s r a} h => ?_
  obtain ⟨rest, hrest, heq⟩ := Option.map_eq_some_iff.1 h
  cases heq
  refine ⟨word.map some, afterPrefix?_eq_some_iff.1 hrest, fun y => ?_⟩
  rw [afterWord?, afterPrefix?_eq_some_iff.2 rfl]
  rfl

/-- A number of which the first character has been seen. -/
theorem ignores_digit (c : Char) (b : Bracket) (y : Symbols) :
    Ignores (some b.mark :: y) fun s => Number.scan? false (some c :: s) where
  append h := (Number.ignores_scan? false b y).append h
  strip h := by
    obtain ⟨s', hs, hscan⟩ := (Number.ignores_scan? false b y).strip h
    cases s' with
    | nil => cases hscan
    | cons u s' =>
      obtain ⟨rfl, rfl⟩ := List.cons.inj hs
      exact ⟨s', rfl, hscan⟩

/-- A token is the same whether a mark follows its rest or not. -/
theorem ignores_scan? (c : Char) (b : Bracket) (y : Symbols) :
    Ignores (some b.mark :: y) (scan? c) := by
  have hone (t : Token) : Ignores (some b.mark :: y) fun s => some (t, s) :=
    .of_takes fun h =>
      ⟨[], (Prod.mk.inj (Option.some.inj h)).2.symm ▸ rfl, fun _ => by cases h; rfl⟩
  have hstring : Ignores (some b.mark :: y) fun s =>
      (Piece.scan? [] s).map fun m => (Token.string m.1, m.2) :=
    (Ignores.of_takes Piece.exists_of_scan?).map _
  unfold scan?
  split
  case h_12 =>
    split
    · exact (ignores_digit c b y).map _
    · exact ⟨nofun, nofun⟩
  any_goals exact hone _
  any_goals exact ignores_word _ _
  · exact hstring
  · exact (Number.ignores_scan? true b y).map _

end Token

/-! ## Texts with a mark in them -/

/-- Behind a text that does not break a closing mark is a token, and so is all that follows it. -/
theorem tokens_append_mark {s : Symbols} (hs : .broken ∉ tokens s) (b : Bracket) (y : Symbols) :
    tokens (s ++ some b.mark :: y) = tokens s ++ .closing b :: tokens y := by
  induction s using tokens_induction with
  | nil => rw [List.nil_append, tokens_mark, tokens_nil, List.nil_append]
  | stray rest =>
    rw [tokens_none] at hs
    exact absurd List.mem_cons_self hs
  | space c rest hc ih =>
    rw [tokens_space hc] at hs
    rw [List.cons_append, tokens_space hc, tokens_space hc, ih hs]
  | token c rest t rest' hc h ih =>
    rw [tokens_token hc h] at hs
    have h' := (Token.ignores_scan? c b y).append h
    rw [List.cons_append, tokens_token hc h', tokens_token hc h,
      ih fun hmem => hs (List.mem_cons_of_mem _ hmem)]
    rfl
  | broken c rest hc h =>
    rw [tokens_broken hc h] at hs
    exact absurd List.mem_cons_self hs

theorem Token.eq_of_scan?_closing {c : Char} {rest rest' : Symbols} {b : Bracket}
    (h : Token.scan? c rest = some (.closing b, rest')) : c = b.mark ∧ rest = rest' := by
  have hmap {α : Type} (o : Option α) (f : α → Token × Symbols) (hf : ∀ a, (f a).1 ≠ .closing b) :
      o.map f ≠ some (.closing b, rest') := by
    intro e
    obtain ⟨a, -, ha⟩ := Option.map_eq_some_iff.1 e
    exact hf a (congrArg Prod.fst ha)
  unfold scan? at h
  split at h
  case h_2 | h_4 =>
    cases h
    exact ⟨rfl, rfl⟩
  case h_12 =>
    split at h
    · exact absurd h (hmap _ _ fun a => by cases a; exact nofun)
    · cases h
  any_goals cases h
  all_goals exact absurd h (hmap _ _ fun a => by cases a <;> exact nofun)

/-- **A text is cut at a closing mark.** Before the mark stands a text with the tokens before it,
and behind it one with those that follow. -/
theorem exists_of_tokens_mark {s : Symbols} {ts us : List Token} {b : Bracket}
    (h : tokens s = ts ++ .closing b :: us) :
    ∃ p q, s = p ++ some b.mark :: q ∧ tokens p = ts ∧ tokens q = us := by
  induction s using tokens_induction generalizing ts with
  | nil =>
    rw [tokens_nil] at h
    simp at h
  | stray rest =>
    rw [tokens_none] at h
    rcases List.cons_eq_append_iff.1 h with ⟨-, hclosing⟩ | ⟨_, -, hnil⟩
    · cases hclosing
    · simp at hnil
  | space c rest hc ih =>
    rw [tokens_space hc] at h
    obtain ⟨p, q, rfl, hp, hq⟩ := ih h
    exact ⟨some c :: p, q, rfl, by rw [tokens_space hc, hp], hq⟩
  | token c rest t rest' hc hscan ih =>
    rw [tokens_token hc hscan] at h
    rcases List.cons_eq_append_iff.1 h with ⟨rfl, hclosing⟩ | ⟨ts', rfl, hrest⟩
    · -- The mark is the first token.
      obtain ⟨rfl, rfl⟩ := List.cons.inj hclosing
      obtain ⟨rfl, rfl⟩ := Token.eq_of_scan?_closing hscan
      exact ⟨[], rest, rfl, tokens_nil, rfl⟩
    · obtain ⟨p, q, rfl, rfl, rfl⟩ := ih hrest
      obtain ⟨w, rfl, hw⟩ := (Token.ignores_scan? c b q).strip hscan
      exact ⟨some c :: w, q, rfl, tokens_token hc hw, rfl⟩
  | broken c rest hc hscan =>
    rw [tokens_broken hc hscan] at h
    rcases List.cons_eq_append_iff.1 h with ⟨-, hclosing⟩ | ⟨_, -, hnil⟩
    · cases hclosing
    · simp at hnil

/-- What follows a text that ends in a mark and does not break falls into tokens by itself. -/
theorem tokens_append_of_closed {p : Symbols} {b : Bracket}
    (h : .broken ∉ tokens (p ++ [some b.mark])) (y : Symbols) :
    tokens (p ++ some b.mark :: y) = tokens (p ++ [some b.mark]) ++ tokens y := by
  have hp : .broken ∉ tokens p := by
    intro hmem
    rw [tokens_append (parts_last b.isBreak_mark), if_pos hmem] at h
    exact h hmem
  rw [tokens_append_mark hp, tokens_append_mark hp, tokens_nil, List.append_assoc]
  rfl

/-- A text without tokens holds only white space. -/
theorem isSpace_of_tokens_eq_nil {s : List Char} (h : tokens (s.map some) = []) :
    ∀ c ∈ s, isSpace c = true := by
  induction s with
  | nil => exact nofun
  | cons c s ih =>
    have hc : isSpace c = true := by
      by_contra hc
      rw [Bool.not_eq_true] at hc
      rw [List.map_cons] at h
      cases hscan : Token.scan? c (s.map some) with
      | none =>
        rw [tokens_broken hc hscan] at h
        cases h
      | some m =>
        rw [tokens_token hc hscan] at h
        cases h
    rw [List.map_cons, tokens_space hc] at h
    exact List.forall_mem_cons.2 ⟨hc, ih h⟩

/-! ## Values that are closed -/

/-- Whether a value is an array or an object. -/
def isNested : Json → Bool
  | .array .. | .object .. => true
  | _ => false

namespace Step

/-- An array or an object is completed by a closing mark. -/
theorem exists_closing_of_complete {stack : List Frame} {want : Want} {t : Token} {v : Json}
    (h : Step.of stack want t = .complete v) (hv : v.isNested = true) : ∃ b, t = .closing b := by
  have hput (w : Json) (hw : w.isNested = false) : put w stack ≠ .complete v := by
    intro hcomplete
    cases stack with
    | nil =>
      cases hcomplete
      rw [hw] at hv
      cases hv
    | cons f stack => cases f <;> cases hcomplete
  have hvalue : value stack t ≠ .complete v := by
    cases t with
    | opening b => cases b <;> exact nofun
    | null | bool | number | string => exact hput _ rfl
    | _ => exact nofun
  have hkey : key stack t ≠ .complete v := by
    cases stack with
    | nil => cases t <;> exact nofun
    | cons f stack => cases f <;> cases t <;> exact nofun
  cases t with
  | closing b => exact ⟨b, rfl⟩
  | _ =>
    cases want with
    | value | valueOrEnd => exact absurd h hvalue
    | key | keyOrEnd => exact absurd h hkey
    | colon => cases h
    | commaOrEnd =>
      cases stack with
      | nil => cases h
      | cons f stack => cases f <;> cases h

theorem exists_closing_of_run {stack : List Frame} {want : Want} {ts : List Token} {v : Json}
    (h : run stack want ts = .complete v) (hv : v.isNested = true) :
    ∃ us b, ts = us ++ [.closing b] := by
  induction ts generalizing stack want with
  | nil => cases h
  | cons t ts ih =>
    rcases run_cons_eq_complete_iff.1 h with ⟨_, _, -, hrest⟩ | ⟨hstep, rfl⟩
    · obtain ⟨us, b, rfl⟩ := ih hrest
      exact ⟨t :: us, b, rfl⟩
    · obtain ⟨b, rfl⟩ := exists_closing_of_complete hstep hv
      exact ⟨[], b, rfl⟩

end Step

namespace Format

variable {α : Type} {f : Format α}

theorem isNested_of_read {v : Json} {a : α} (h : f.read v = .ok a) : v.isNested = true := by
  cases v with
  | array | object => rfl
  | _ => cases h

/-- A prefix of a text that ends in a closing mark and is a value's text by itself. -/
structure Heads (f : Format α) (s p : List Char) (a : α) : Prop where
  isPrefix : p <+: s
  closed : p.getLast? = some '\x7d' ∨ p.getLast? = some ']'
  read : f.ofText? p = some a

theorem getLast?_closed_iff {p : List Char} :
    (p.getLast? = some '\x7d' ∨ p.getLast? = some ']') ↔ ∃ b : Bracket, ∃ q, p = q ++ [b.mark] := by
  simp only [List.getLast?_eq_some_iff]
  constructor
  · rintro (⟨q, hq⟩ | ⟨q, hq⟩)
    · exact ⟨.brace, q, hq⟩
    · exact ⟨.square, q, hq⟩
  · rintro ⟨b | b, q, hq⟩
    · exact .inr ⟨q, hq⟩
    · exact .inl ⟨q, hq⟩

/-- The tokens of a head complete a value, and what follows it falls into tokens by itself. -/
theorem Heads.tokens_eq {s p : List Char} {a : α} (h : f.Heads s p a) :
    Step.run [] .value (tokens (p.map some)) = .complete (readAll (p.map some)) ∧
      ∀ w, tokens ((p ++ w).map some) = tokens (p.map some) ++ tokens (w.map some) := by
  have hrun := exists_run_of_whole (whole_of_read (ofText?_eq_some_iff.1 h.read))
  refine ⟨hrun, fun w => ?_⟩
  obtain ⟨b, q, rfl⟩ := getLast?_closed_iff.1 h.closed
  have hbroken := Step.broken_not_mem_of_run hrun
  rw [List.map_append, List.map_singleton] at hbroken
  simpa using tokens_append_of_closed hbroken (w.map some)

/-- **What is read from the head of a text** is what a prefix holds that ends in a closing mark. -/
theorem read_iff_exists_heads {s : List Char} {a : α} :
    f.read (Json.read (s.map some)).1 = .ok a ↔ ∃ p, f.Heads s p a := by
  constructor
  · intro h
    rcases hbuild : Json.read (s.map some) with ⟨v, rest⟩
    rw [hbuild] at h
    obtain ⟨us, htokens, hrun⟩ := exists_run_of_build hbuild (whole_of_read h)
    obtain ⟨ts, b, rfl⟩ := Step.exists_closing_of_run hrun (isNested_of_read h)
    rw [List.append_assoc, List.singleton_append] at htokens
    obtain ⟨p, q, hs, hp, -⟩ := exists_of_tokens_mark htokens
    -- The text consists of characters, and so do its parts.
    obtain ⟨p, q, rfl, rfl, hq⟩ := List.map_eq_append_iff.1 hs
    obtain ⟨c, q, rfl, hc, rfl⟩ := List.map_eq_cons_iff.1 hq
    cases hc
    refine ⟨p ++ [b.mark], ⟨q, by simp⟩, getLast?_closed_iff.2 ⟨b, p, rfl⟩, ?_⟩
    have hbroken : .broken ∉ tokens (p.map some) := by
      rw [hp]
      exact fun hmem => Step.broken_not_mem_of_run hrun (List.mem_append_left _ hmem)
    have hclosed : tokens ((p ++ [b.mark]).map some) = ts ++ [.closing b] := by
      rw [List.map_append, List.map_singleton, tokens_append_mark hbroken, hp, tokens_nil]
    rw [ofText?_eq_some_iff, readAll_of_run (hclosed ▸ hrun)]
    exact h
  · rintro ⟨p, h⟩
    obtain ⟨hrun, htokens⟩ := h.tokens_eq
    obtain ⟨w, rfl⟩ := h.isPrefix
    rw [Json.read, htokens w, build_append_of_run hrun]
    exact ofText?_eq_some_iff.1 h.read

/-- A head of a text is no longer than another one, for behind the shorter there is only white
space. -/
theorem Heads.eq_of_prefix {s p p' : List Char} {a a' : α} (h : f.Heads s p a)
    (h' : f.Heads s p' a') (hp : p <+: p') : p = p' := by
  obtain ⟨w, rfl⟩ := hp
  obtain ⟨hrun, htokens⟩ := h.tokens_eq
  have hrun' := h'.tokens_eq.1
  rw [htokens w, Step.run_append, hrun] at hrun'
  have hnil : tokens (w.map some) = [] := by
    by_contra hne
    simp only [if_neg hne] at hrun'
    cases hrun'
  have hspace := isSpace_of_tokens_eq_nil hnil
  rcases List.eq_nil_or_concat w with rfl | ⟨w, c, rfl⟩
  · rw [List.append_nil]
  · -- A head ends in a mark, which is no white space.
    have hc : isSpace c = true := hspace c (by simp)
    have hlast := h'.closed
    rw [List.concat_eq_append, ← List.append_assoc, List.getLast?_append] at hlast
    rcases hlast with hlast | hlast
    all_goals
      cases hlast
      exact absurd hc (by decide)

/-- **A text has no two heads.** -/
theorem Heads.unique {s p p' : List Char} {a a' : α} (h : f.Heads s p a) (h' : f.Heads s p' a') :
    p = p' := by
  rcases List.prefix_or_prefix_of_prefix h.isPrefix h'.isPrefix with hp | hp
  · exact h.eq_of_prefix h' hp
  · exact (h'.eq_of_prefix h hp).symm

end Format

end NotebookGoto.Json
