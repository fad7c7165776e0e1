import NotebookGoto.Domain.Name
import NotebookGoto.Text.Blank

/-!
# The characters of names

A name in ASCII holds no character that is denied to names, whichever way it was found: it is what
was written, in small letters, or its labels are ASCII characters of the mapped text and, in
Punycode, letters, digits and hyphens (`Name.inName_of_ascii?`).
-/

namespace NotebookGoto.Domain

open Text

/-- An ASCII character that a name may hold. -/
def Name.inName (c : Char) : Bool :=
  c.toNat < 0x80 && !Name.isDenied c

theorem Name.inName_of_isAlphanum {c : Char} (h : c.isAlphanum = true) : inName c = true :=
  of_ascii (q := fun c => inName c = true) (by decide) (toNat_of_isAlphanum h) h

/-! ## Punycode -/

namespace Punycode

theorem isAlphanum_digitChar {d : Nat} (h : d < 36) : (digitChar d).isAlphanum = true := by
  revert d
  decide

theorem isAlphanum_of_mem_digits {bias position n : Nat} {c : Char}
    (hc : c ∈ digits bias position n) : c.isAlphanum = true := by
  have hpos := bound_pos bias position
  have hle := bound_le bias position
  rw [digits] at hc
  split at hc
  · rw [List.mem_singleton.1 hc]
    exact isAlphanum_digitChar (by omega)
  · rcases List.mem_cons.1 hc with rfl | hc
    · have := Nat.mod_lt (n - bound bias position) (show 0 < 36 - bound bias position by omega)
      exact isAlphanum_digitChar (by omega)
    · exact isAlphanum_of_mem_digits hc
termination_by n
decreasing_by
  have := Nat.div_le_self (n - bound bias position) (36 - bound bias position)
  omega

namespace Progress

/-- Whether only digits have been written. -/
def IsPlain (p : Progress) : Prop :=
  ∀ c ∈ p.written, c.isAlphanum = true

theorem IsPlain.pass {p : Progress} (h : p.IsPlain) (code basic : Nat) (c : Char) :
    (p.pass code basic c).IsPlain := by
  unfold Progress.pass
  split
  · exact h
  · split
    · exact List.forall_mem_append.2 ⟨h, fun _ => isAlphanum_of_mem_digits⟩
    · exact h

theorem IsPlain.foldl {p : Progress} (h : p.IsPlain) (code basic : Nat) (label : List Char) :
    (label.foldl (Progress.pass code basic) p).IsPlain := by
  induction label generalizing p with
  | nil => exact h
  | cons c label ih => exact ih (h.pass code basic c)

theorem IsPlain.writeAll {p : Progress} (h : p.IsPlain) (label : List Char) (basic code : Nat)
    (codes : List Nat) : (p.writeAll label basic code codes).IsPlain := by
  induction codes generalizing p code with
  | nil => exact h
  | cons next codes ih =>
    have hsteps : IsPlain { p with steps := p.steps + (next - code) * (p.placed + 1) } := h
    rw [Progress.writeAll]
    refine ih ?_ (next + 1)
    exact fun c hc => hsteps.foldl next basic label c hc

end Progress

/-- What a label becomes consists of its ASCII characters, hyphens and digits. -/
theorem mem_encode {label : List Char} {c : Char} (hc : c ∈ encode label) :
    (c ∈ label ∧ c.toNat < 0x80) ∨ c = '-' ∨ c.isAlphanum = true := by
  rw [encode, List.mem_append, List.mem_append] at hc
  rcases hc with (hc | hc) | hc
  · obtain ⟨hmem, hascii⟩ := List.mem_filter.1 hc
    exact .inl ⟨hmem, of_decide_eq_true hascii⟩
  · right
    left
    split at hc
    · cases hc
    · exact List.mem_singleton.1 hc
  · have hstart : (⟨[], 0, 72, (label.filter (·.toNat < 0x80)).length⟩ : Progress).IsPlain := nofun
    exact .inr (.inr (hstart.writeAll _ _ _ _ c hc))

end Punycode

/-! ## Labels and names -/

theorem Name.inName_of_not_isDenied {c : Char} (h : isDenied c = false) (hc : c.toNat < 0x80) :
    inName c = true := by
  rw [inName, h, decide_eq_true hc]
  rfl

theorem Name.inName_of_isAscii {s : List Char} (hascii : Label.isAscii s = true)
    (hs : ∀ c ∈ s, isDenied c = false) : ∀ c ∈ s, inName c = true :=
  fun c hc => inName_of_not_isDenied (hs c hc) (of_decide_eq_true (List.all_eq_true.1 hascii c hc))

/-- What is written for a label is made of what may stand in the text of which it is one. -/
theorem Label.inName_of_ofMapped? {s : List Char} {l : Label} (h : ofMapped? s = some l)
    (hs : ∀ c ∈ s, Name.isDenied c = false) : ∀ c ∈ l.written, Name.inName c = true := by
  have hmark : ∀ c ∈ mark, Name.inName c = true := forall_mem_of_all (by decide)
  unfold ofMapped? at h
  split at h
  · rename_i rest hrest
    obtain ⟨meant, hdecode, rfl⟩ := Option.map_eq_some_iff.1 h
    have hrestAscii : isAscii rest = true := by
      cases hrest : isAscii rest with
      | true => rfl
      | false =>
        rw [decode?, if_pos (by simp [hrest])] at hdecode
        cases hdecode
    obtain rfl := afterPrefix?_eq_some_iff.1 hrest
    rw [List.forall_mem_append] at hs
    exact List.forall_mem_append.2 ⟨hmark, Name.inName_of_isAscii hrestAscii hs.2⟩
  · split at h
    · cases h
      exact Name.inName_of_isAscii ‹_› hs
    · split at h
      · cases h
      · cases h
        refine List.forall_mem_append.2 ⟨hmark, fun c hc => ?_⟩
        rcases Punycode.mem_encode hc with ⟨hmem, hlow⟩ | rfl | halnum
        · exact Name.inName_of_not_isDenied (hs c hmem) hlow
        · decide
        · exact Name.inName_of_isAlphanum halnum

theorem exists_of_mem_mapM {α β : Type} {f : α → Option β} {as : List α} {bs : List β}
    (h : as.mapM f = some bs) {b : β} (hb : b ∈ bs) : ∃ a ∈ as, f a = some b := by
  induction as generalizing bs with
  | nil =>
    cases h
    cases hb
  | cons a as ih =>
    rw [List.mapM_cons] at h
    obtain ⟨b', hb', h⟩ := Option.bind_eq_some_iff.1 h
    obtain ⟨bs', hbs', h⟩ := Option.bind_eq_some_iff.1 h
    cases h
    rcases List.mem_cons.1 hb with rfl | hb
    · exact ⟨a, List.mem_cons_self, hb'⟩
    · obtain ⟨a', ha', hf⟩ := ih hbs' hb
      exact ⟨a', List.mem_cons_of_mem a ha', hf⟩

namespace Name

theorem inName_of_ofMapped? {s name : List Char} (h : ofMapped? s = some name)
    (hs : ∀ c ∈ s, isDenied c = false) : ∀ c ∈ name, inName c = true := by
  rw [ofMapped?] at h
  obtain ⟨labels, hlabels, h⟩ := Option.bind_eq_some_iff.1 h
  split at h
  · cases h
    intro c hc
    rcases mem_of_mem_intercalate hc with hpoint | ⟨written, hwritten, hc⟩
    · rw [List.mem_singleton.1 hpoint]
      decide
    · obtain ⟨l, hl, rfl⟩ := List.mem_map.1 hwritten
      obtain ⟨part, hpart, hmapped⟩ := exists_of_mem_mapM hlabels hl
      refine Label.inName_of_ofMapped? hmapped (fun d hd => ?_) c hc
      exact hs d (mem_of_mem_splitOn hpart hd)
  · cases h

/-- **A name in ASCII holds only characters of names.** -/
theorem inName_of_ascii? {s name : List Char} (h : ascii? s = some name) :
    ∀ c ∈ name, inName c = true := by
  unfold ascii? at h
  dsimp only at h
  split at h
  · rename_i hplain
    simp only [Option.bind_eq_bind, Option.bind_some] at h
    split at h
    · cases h
    · rename_i hdenied
      cases h
      rw [Bool.and_eq_true] at hplain
      exact inName_of_isAscii hplain.1 (by simpa using hdenied)
  · rename_i hplain
    obtain ⟨mapped, -, h⟩ := Option.bind_eq_some_iff.1 h
    split at h
    · cases h
    · rename_i hdenied
      exact inName_of_ofMapped? h (by simpa using hdenied)

end Name

end NotebookGoto.Domain
