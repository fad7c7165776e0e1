import Mathlib.Tactic.SplitIfs
import NotebookGoto.Proofs.Json.Spelling

/-!
# Whatever is scanned is spelled

The spellings of tokens leave none out. A scan that succeeds has taken a spelling of what it gives,
and what it leaves over starts with no digit where it has taken a number, so that only a text that
breaks could go on with one.

* **`allWritten_iff`**: the texts of some tokens are just those that fall into them without a break.
-/

namespace NotebookGoto.Json

open Text

/-! ## Strings -/

namespace Piece

/-- All pieces denote something: from the first on, two make a pair or the one stands alone. -/
theorem exists_denotes : ∀ ps : List Piece, ∃ s, Denotes ps s
  | [] => ⟨[], .nil⟩
  | .plain u :: ps =>
    let ⟨s, h⟩ := exists_denotes ps
    ⟨u :: s, .plain h⟩
  | [.code n] => ⟨[alone n], .alone (fun _ hp => nomatch hp) .nil⟩
  | .code n :: .plain u :: ps =>
    let ⟨s, h⟩ := exists_denotes (.plain u :: ps)
    ⟨alone n :: s, .alone (by rintro p ⟨⟩; rfl) h⟩
  | .code n :: .code m :: ps => by
    cases hpair : isPair (.code n) (.code m) with
    | true =>
      obtain ⟨s, h⟩ := exists_denotes ps
      exact ⟨_, .pair hpair h⟩
    | false =>
      obtain ⟨s, h⟩ := exists_denotes (.code m :: ps)
      exact ⟨_, .alone (by rintro p ⟨⟩; exact hpair) h⟩

theorem denotes_assemble (ps : List Piece) : Denotes ps (assemble [] ps.reverse) := by
  obtain ⟨s, h⟩ := exists_denotes ps
  rwa [assemble_reverse h]

theorem written_of_code? {p : Piece} {s : List Char} {rest : Symbols}
    (h : code? (s.map some) = some (p, rest)) :
    ∃ text s', s = text ++ s' ∧ rest = s'.map some ∧ p.Written ('\\' :: 'u' :: text) := by
  match s with
  | a :: b :: c :: d :: s =>
    simp only [List.map_cons, code?, Option.bind_eq_bind, Option.bind_eq_some_iff, Option.pure_def,
      Option.some.injEq, Prod.mk.injEq] at h
    obtain ⟨w, ha, x, hb, y, hc, z, hd, rfl, rfl⟩ := h
    exact ⟨[a, b, c, d], s, rfl, rfl, .digits ha hb hc hd⟩
  | [] | [_] | [_, _] | [_, _, _] => cases h

theorem written_of_escape? {p : Piece} {s : List Char} {rest : Symbols}
    (h : escape? (s.map some) = some (p, rest)) :
    ∃ text s', s = text ++ s' ∧ rest = s'.map some ∧ p.Written ('\\' :: text) := by
  cases s with
  | nil => cases h
  | cons c s =>
    have hletter {d : Char} (hd : (c, d) ∈ escapes)
        (h : some (plain (some d), s.map some) = some (p, rest)) :
        ∃ text s', c :: s = text ++ s' ∧ rest = s'.map some ∧ p.Written ('\\' :: text) := by
      cases h
      exact ⟨[c], s, rfl, rfl, .letter hd⟩
    rw [List.map_cons, escape?] at h
    split_ifs at h with hmark hb hf hn hr ht hu
    · exact hletter (by rcases hmark with rfl | rfl | rfl <;> decide) h
    · exact hletter (hb ▸ by decide) h
    · exact hletter (hf ▸ by decide) h
    · exact hletter (hn ▸ by decide) h
    · exact hletter (hr ▸ by decide) h
    · exact hletter (ht ▸ by decide) h
    · obtain ⟨text, s', rfl, rfl, hp⟩ := written_of_code? h
      exact ⟨'u' :: text, s', hu ▸ rfl, rfl, hp⟩

theorem body_of_scan? {done : List Piece} {s : List Char} {u rest : Symbols}
    (h : scan? done (s.map some) = some (u, rest)) :
    ∃ ps text s', Body ps text ∧ u = assemble [] (ps.reverse ++ done) ∧ s = text ++ '"' :: s' ∧
      rest = s'.map some := by
  generalize hx : s.map some = x at h
  fun_induction scan? done x generalizing s with
  | case1 => cases h
  | case2 => cases s <;> cases hx
  | case3 done rest' =>
    -- The closing quote: no piece is taken any more.
    obtain ⟨c, s, rfl, ⟨⟩, rfl⟩ := List.map_eq_cons_iff.1 hx
    cases h
    exact ⟨[], [], s, .nil, rfl, rfl, rfl⟩
  | case4 done rest' p rest'' he _ ih =>
    -- An escape is the first of the pieces.
    obtain ⟨c, s, rfl, ⟨⟩, rfl⟩ := List.map_eq_cons_iff.1 hx
    obtain ⟨text, s₁, rfl, rfl, hp⟩ := written_of_escape? he
    obtain ⟨ps, body, s', hbody, rfl, rfl, rfl⟩ := ih rfl h
    exact ⟨p :: ps, '\\' :: text ++ body, s', .cons hp hbody, by simp, by simp, rfl⟩
  | case5 => cases h
  | case6 => cases h
  | case7 done c rest' hquote hback hlow ih =>
    -- So is a character that stands for itself.
    obtain ⟨d, s, rfl, ⟨⟩, rfl⟩ := List.map_eq_cons_iff.1 hx
    obtain ⟨ps, body, s', hbody, rfl, rfl, rfl⟩ := ih rfl h
    exact ⟨.plain (some c) :: ps, [c] ++ body, s', .cons (.plain (by omega) hquote hback) hbody,
      by simp, by simp, rfl⟩

end Piece

/-! ## Numbers -/

/-- A text that does not start with a digit. -/
def NoDigit (s : List Char) : Prop :=
  ∀ c ∈ s.head?, c.isDigit = false

namespace Number

theorem spanDigits_map_some (s : List Char) :
    spanDigits (s.map some) = (s.takeWhile Char.isDigit, (s.dropWhile Char.isDigit).map some) := by
  induction s with
  | nil => rfl
  | cons c s ih =>
    rw [List.map_cons, spanDigits, ih]
    cases hc : c.isDigit <;> simp [hc]

theorem isDigits_of_span {s ds : List Char} {rest : Symbols}
    (h : spanDigits (s.map some) = (ds, rest)) (hne : ds ≠ []) :
    IsDigits ds ∧ ∃ s', s = ds ++ s' ∧ rest = s'.map some ∧ NoDigit s' := by
  rw [spanDigits_map_some] at h
  cases h
  have hdigits : ∀ c ∈ s.takeWhile Char.isDigit, c.isDigit = true := fun c hc =>
    List.all_eq_true.1 List.all_takeWhile c hc
  have hnext : NoDigit (s.dropWhile Char.isDigit) := by
    intro c hc
    have hhead := List.head?_dropWhile_not Char.isDigit s
    rw [Option.mem_def.1 hc] at hhead
    simpa using hhead
  exact ⟨⟨hne, hdigits⟩, _, List.takeWhile_append_dropWhile.symm, rfl, hnext⟩

theorem isDigits_of_whole? {s ds : List Char} {rest : Symbols}
    (h : whole? (s.map some) = some (ds, rest)) :
    IsDigits ds ∧ (ds.head? = some '0' → ds = ['0']) ∧
      ∃ s', s = ds ++ s' ∧ rest = s'.map some ∧ NoDigit s' := by
  rw [whole?] at h
  split at h
  next => cases h
  next hspan =>
    cases h
    obtain ⟨hdigits, hrest⟩ := isDigits_of_span hspan (List.cons_ne_nil _ _)
    exact ⟨hdigits, fun _ => rfl, hrest⟩
  next => cases h
  next hne _ hzero hspan =>
    cases h
    obtain ⟨hdigits, hrest⟩ := isDigits_of_span hspan hne
    refine ⟨hdigits, fun hhead => ?_, hrest⟩
    obtain ⟨tail, htail⟩ := List.head?_eq_some_iff.1 hhead
    exact (hzero tail htail).elim

theorem fraction_of_fraction? {s ds : List Char} {rest : Symbols} (hs : NoDigit s)
    (h : fraction? (s.map some) = some (ds, rest)) :
    ∃ text s', Fraction ds text ∧ s = text ++ s' ∧ rest = s'.map some ∧ NoDigit s' := by
  unfold fraction? at h
  split at h
  next r hx =>
    obtain ⟨c, t, rfl, ⟨⟩, rfl⟩ := List.map_eq_cons_iff.1 hx
    split at h
    next => cases h
    next hne hspan =>
      cases h
      obtain ⟨hdigits, s', rfl, rfl, hnext⟩ := isDigits_of_span hspan hne
      exact ⟨_, s', .point hdigits, rfl, rfl, hnext⟩
  next =>
    cases h
    exact ⟨[], s, .none, rfl, rfl, hs⟩

theorem exponent_of_exponent? {s : List Char} {exponent : Option (Bool × List Char)}
    {rest : Symbols} (hs : NoDigit s) (h : exponent? (s.map some) = some (exponent, rest)) :
    ∃ text s', Exponent exponent text ∧ s = text ++ s' ∧ rest = s'.map some ∧ NoDigit s' := by
  cases s with
  | nil =>
    cases h
    exact ⟨[], [], .none, rfl, rfl, hs⟩
  | cons c s =>
    rw [List.map_cons, exponent?] at h
    split at h
    next hc =>
      have hsign : ∃ sign t, (sign, (exponentSign (s.map some)).1) ∈
          [([], false), (['+'], false), (['-'], true)] ∧ s = sign ++ t ∧
            (exponentSign (s.map some)).2 = t.map some := by
        unfold exponentSign
        split
        next hx =>
          obtain ⟨d, t, rfl, ⟨⟩, rfl⟩ := List.map_eq_cons_iff.1 hx
          exact ⟨['+'], t, by simp, rfl, rfl⟩
        next hx =>
          obtain ⟨d, t, rfl, ⟨⟩, rfl⟩ := List.map_eq_cons_iff.1 hx
          exact ⟨['-'], t, by simp, rfl, rfl⟩
        next => exact ⟨[], s, by simp, rfl, rfl⟩
      obtain ⟨sign, t, hmem, rfl, ht⟩ := hsign
      dsimp only at h
      rw [ht] at h
      split at h
      next => cases h
      next hne hspan =>
        cases h
        obtain ⟨hdigits, s', rfl, rfl, hnext⟩ := isDigits_of_span hspan hne
        exact ⟨_, s', .mark hc hmem hdigits, by simp, rfl, hnext⟩
    next =>
      cases h
      exact ⟨[], c :: s, .none, rfl, rfl, hs⟩

theorem written_of_scan? {negative : Bool} {s : List Char} {n : Number} {rest : Symbols}
    (h : scan? negative (s.map some) = some (n, rest)) :
    ∃ text s', n.Written ((if negative then ['-'] else []) ++ text) ∧ s = text ++ s' ∧
      rest = s'.map some ∧ NoDigit s' := by
  simp only [scan?, Option.bind_eq_bind, Option.bind_eq_some_iff, Option.pure_def,
    Option.some.injEq, Prod.mk.injEq, Prod.exists] at h
  obtain ⟨whole, r₁, h₁, fraction, r₂, h₂, exponent, r₃, h₃, rfl, rfl⟩ := h
  obtain ⟨hwhole, hzero, s₁, rfl, rfl, hnext₁⟩ := isDigits_of_whole? h₁
  obtain ⟨fractionText, s₂, hfraction, rfl, rfl, hnext₂⟩ := fraction_of_fraction? hnext₁ h₂
  obtain ⟨exponentText, s₃, hexponent, rfl, rfl, hnext₃⟩ := exponent_of_exponent? hnext₂ h₃
  exact ⟨_, s₃, .mk hwhole hzero hfraction hexponent, by simp, rfl, hnext₃⟩

end Number

/-! ## Tokens -/

namespace Token

theorem eq_of_afterWord? {word s : List Char} {rest : Symbols}
    (h : afterWord? word (s.map some) = some rest) : ∃ s', s = word ++ s' ∧ rest = s'.map some := by
  obtain ⟨w, s', rfl, hw, rfl⟩ := List.map_eq_append_iff.1 (afterPrefix?_eq_some_iff.1 h)
  have hword : w = word := (List.map_inj_right fun _ _ => Option.some.inj).1 hw
  subst hword
  exact ⟨s', rfl, rfl⟩

/-- A text that starts with a spelling of a token, and what this leaves over. Behind a number no
digit is left. -/
def StartsWith (t : Token) (s : List Char) (rest : Symbols) : Prop :=
  ∃ text s', t.Written text ∧ s = text ++ s' ∧ rest = s'.map some ∧ ∀ n, t = .number n → NoDigit s'

theorem startsWith_of_scan? {c : Char} {t : Token} {s : List Char} {rest : Symbols}
    (h : scan? c (s.map some) = some (t, rest)) : t.StartsWith (c :: s) rest := by
  -- Marks are spelled by themselves, and words by their letters.
  have hmark {u : Token} (hu : u.Written [c]) (hno : ∀ n, u ≠ .number n)
      (h : some (u, s.map some) = some (t, rest)) : t.StartsWith (c :: s) rest := by
    cases h
    exact ⟨[c], s, hu, rfl, rfl, fun n e => absurd e (hno n)⟩
  have hword {u : Token} {word : List Char} (hu : u.Written (c :: word)) (hno : ∀ n, u ≠ .number n)
      (h : (afterWord? word (s.map some)).map (fun r => (u, r)) = some (t, rest)) :
      t.StartsWith (c :: s) rest := by
    obtain ⟨r, hr, e⟩ := Option.map_eq_some_iff.1 h
    cases e
    obtain ⟨s', rfl, rfl⟩ := eq_of_afterWord? hr
    exact ⟨c :: word, s', hu, rfl, rfl, fun n e => absurd e (hno n)⟩
  unfold scan? at h
  split at h
  next => exact hmark .openingBrace nofun h
  next => exact hmark .closingBrace nofun h
  next => exact hmark .openingSquare nofun h
  next => exact hmark .closingSquare nofun h
  next => exact hmark .comma nofun h
  next => exact hmark .colon nofun h
  next =>
    obtain ⟨⟨u, r⟩, hu, e⟩ := Option.map_eq_some_iff.1 h
    cases e
    obtain ⟨ps, text, s', hbody, rfl, rfl, rfl⟩ := Piece.body_of_scan? hu
    refine ⟨'"' :: (text ++ ['"']), s', ?_, by simp, rfl, nofun⟩
    rw [List.append_nil]
    exact .string hbody (Piece.denotes_assemble ps)
  next =>
    obtain ⟨⟨n, r⟩, hn, e⟩ := Option.map_eq_some_iff.1 h
    cases e
    obtain ⟨text, s', hwritten, rfl, rfl, hnext⟩ := Number.written_of_scan? hn
    exact ⟨'-' :: text, s', .number hwritten, rfl, rfl, fun _ _ => hnext⟩
  next => exact hword .null nofun h
  next => exact hword .true nofun h
  next => exact hword .false nofun h
  next =>
    split at h
    next =>
      obtain ⟨⟨n, r⟩, hn, e⟩ := Option.map_eq_some_iff.1 h
      cases e
      obtain ⟨text, s', hwritten, hs, rfl, hnext⟩ := Number.written_of_scan? (s := c :: s) hn
      exact ⟨text, s', .number hwritten, hs, rfl, fun _ _ => hnext⟩
    next => cases h

end Token

/-! ## Texts -/

/-- Where no token breaks behind a number, the number ends. A point or a letter is the start of
none. -/
theorem endsNumber_of_tokens {s : List Char} (hs : NoDigit s) (h : .broken ∉ tokens (s.map some)) :
    EndsNumber (s.map some) := by
  intro c r hx
  obtain ⟨d, t, rfl, ⟨⟩, rfl⟩ := List.map_eq_cons_iff.1 hx
  have hstart (hc : isSpace c = false) (hscan : Token.scan? c (t.map some) = none) : False :=
    h (by rw [List.map_cons, tokens_broken hc hscan]; exact List.mem_singleton_self _)
  refine ⟨hs c rfl, ?_, ?_, ?_⟩
  all_goals
    rintro rfl
    exact hstart (by decide) rfl

theorem AllWritten.space {ts : List Token} {c : Char} {text : List Char} (hc : isSpace c = true)
    (h : AllWritten ts text) : AllWritten ts (c :: text) := by
  cases h with
  | nil hws => exact .nil (by rw [List.all_cons, hc, hws]; rfl)
  | @cons t ts ws text rest hws ht hend h =>
    have hspaces : (c :: ws).all isSpace = true := by rw [List.all_cons, hc, hws]; rfl
    exact .cons hspaces ht hend h

/-- **A text is a text of the tokens into which it falls**, if it falls into tokens up to its
end. -/
theorem allWritten_tokens {s : List Char} (h : .broken ∉ tokens (s.map some)) :
    AllWritten (tokens (s.map some)) s := by
  generalize hx : s.map some = x at h ⊢
  induction x using tokens_induction generalizing s with
  | nil =>
    rw [List.map_eq_nil_iff.1 hx, tokens_nil]
    exact .nil rfl
  | stray => cases s <;> cases hx
  | space c rest hc ih =>
    obtain ⟨d, s, rfl, ⟨⟩, rfl⟩ := List.map_eq_cons_iff.1 hx
    rw [tokens_space hc] at h ⊢
    exact (ih rfl h).space hc
  | token c rest t rest' hc hscan ih =>
    obtain ⟨d, s, rfl, ⟨⟩, rfl⟩ := List.map_eq_cons_iff.1 hx
    obtain ⟨text, s', ht, hs, rfl, hnext⟩ := Token.startsWith_of_scan? hscan
    rw [tokens_token hc hscan] at h ⊢
    have hrest : .broken ∉ tokens (s'.map some) := fun hmem => h (List.mem_cons_of_mem t hmem)
    have hspaces : ([] : List Char).all isSpace = true := rfl
    rw [hs]
    exact .cons hspaces ht (fun n e => endsNumber_of_tokens (hnext n e) hrest) (ih rfl hrest)
  | broken c rest hc hscan =>
    rw [tokens_broken hc hscan] at h
    exact absurd (List.mem_singleton_self _) h

theorem Token.Written.ne_broken {t : Token} {text : List Char} (h : t.Written text) :
    t ≠ .broken := by
  cases h <;> exact Token.noConfusion

theorem broken_not_mem_of_allWritten {ts : List Token} {text : List Char} (h : AllWritten ts text) :
    .broken ∉ ts := by
  induction h with
  | nil => exact List.not_mem_nil
  | cons _ ht _ _ ih => exact List.not_mem_cons_of_ne_of_not_mem ht.ne_broken.symm ih

/-- **The texts of some tokens are those that fall into them**, without a break. -/
theorem allWritten_iff {ts : List Token} {text : List Char} :
    AllWritten ts text ↔ tokens (text.map some) = ts ∧ .broken ∉ ts := by
  constructor
  · intro h
    exact ⟨tokens_of_allWritten h, broken_not_mem_of_allWritten h⟩
  · rintro ⟨rfl, h⟩
    exact allWritten_tokens h

end NotebookGoto.Json
