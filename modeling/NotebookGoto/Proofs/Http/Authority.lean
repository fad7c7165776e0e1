import Mathlib.Data.List.Count
import NotebookGoto.Http.Host
import NotebookGoto.Http.Target
import NotebookGoto.Proofs.Domain.Name

/-!
# Hosts in targets

A host that was read from a URL is written with letters, digits and marks, and it can stand in a
target with a port behind it unless one of four marks is among them: names may hold these, and
targets may not (`Host.isAuthority_iff`).
-/

namespace NotebookGoto.Http

open Text

/-! ## What an authority accepts -/

namespace Target

theorem inAuthority_of_accepts {a : Authority} {s : List Char} (h : a.accepts s = true) :
    ∀ c ∈ s, inAuthority c = true := by
  induction s generalizing a with
  | nil => exact nofun
  | cons c s ih =>
    rw [Authority.accepts, Bool.and_eq_true] at h
    refine List.forall_mem_cons.2 ⟨h.1, ?_⟩
    have hrest := h.2
    split at hrest
    · exact ih (Bool.and_eq_true_iff.1 hrest).2
    split at hrest
    · exact ih (Bool.and_eq_true_iff.1 hrest).2
    split at hrest
    · exact ih (Bool.and_eq_true_iff.1 hrest).2
    split at hrest
    · exact ih (Bool.and_eq_true_iff.1 hrest).2
    split at hrest
    · exact ih hrest
    · exact ih hrest

/-- A character of an authority that says nothing about its parts. -/
def isPlain (c : Char) : Bool :=
  inAuthority c && c ∉ [':', '[', ']', '@', '%']

/-- Plain characters are passed over, and colons are counted up to eight. -/
theorem accepts_append {a : Authority} {s : List Char} (hs : ∀ c ∈ s, isPlain c = true ∨ c = ':')
    (hcolons : a.colons + s.count ':' ≤ 8) (t : List Char) :
    a.accepts (s ++ t) = Authority.accepts { a with colons := a.colons + s.count ':' } t := by
  induction s generalizing a with
  | nil => rfl
  | cons c s ih =>
    have hrest : ∀ d ∈ s, isPlain d = true ∨ d = ':' := fun d hd => hs d (List.mem_cons_of_mem c hd)
    rw [List.cons_append, Authority.accepts]
    rcases hs c List.mem_cons_self with hplain | rfl
    · rw [isPlain, Bool.and_eq_true, decide_eq_true_eq] at hplain
      obtain ⟨hin, hmarks⟩ := hplain
      simp only [List.mem_cons, List.not_mem_nil, or_false, not_or] at hmarks
      obtain ⟨hcolon, hopen, hclose, hat, hescape⟩ := hmarks
      rw [List.count_cons_of_ne hcolon] at hcolons ⊢
      rw [hin, if_neg hcolon, if_neg hopen, if_neg hclose, if_neg hat, if_neg hescape,
        Bool.true_and, ih hrest hcolons]
    · rw [List.count_cons_self] at hcolons ⊢
      have hroom : a.colons < 8 := by omega
      have hin : inAuthority ':' = true := by decide
      rw [hin, if_pos rfl, decide_eq_true hroom, Bool.true_and, Bool.true_and,
        ih hrest (by simpa using by omega)]
      congr 2
      show a.colons + 1 + s.count ':' = a.colons + (s.count ':' + 1)
      omega

end Target

/-- A port behind its colon, where there is one. -/
def portText (port : Option Nat) : List Char :=
  (port.map fun n => ':' :: Decimal.digits n).getD []

namespace Target

theorem isPlain_of_isDigit {c : Char} (h : c.isDigit = true) : isPlain c = true :=
  of_ascii (q := fun c => isPlain c = true) (by decide) (toNat_of_isDigit h) h

theorem isDigit_of_mem_digits {n : Nat} {c : Char} (hc : c ∈ Decimal.digits n) :
    c.isDigit = true :=
  Nat.isDigit_of_mem_toDigits (b := 10) (by decide) (by decide) hc

theorem count_colon_eq_zero {s : List Char} (hs : ∀ c ∈ s, isPlain c = true) : s.count ':' = 0 :=
  List.count_eq_zero.2 (not_mem_of_all_class hs (by decide))

/-- A port may stand behind a host, in which brackets are closed again. -/
theorem accepts_portText (both : Bool) (port : Option Nat) :
    Authority.accepts ⟨0, both, both, false⟩ (portText port) = true := by
  cases port with
  | none => cases both <;> rfl
  | some n =>
    have hdigits : ∀ c ∈ Decimal.digits n, isPlain c = true :=
      fun c hc => isPlain_of_isDigit (isDigit_of_mem_digits hc)
    have hcount : (':' :: Decimal.digits n).count ':' = 1 := by
      rw [List.count_cons_self, count_colon_eq_zero hdigits]
    have hchars : ∀ c ∈ ':' :: Decimal.digits n, isPlain c = true ∨ c = ':' :=
      List.forall_mem_cons.2 ⟨.inr rfl, fun c hc => .inl (hdigits c hc)⟩
    show Authority.accepts _ (':' :: Decimal.digits n) = true
    rw [← List.append_nil (':' :: Decimal.digits n), accepts_append hchars (by simp [hcount]),
      hcount]
    cases both <;> rfl

theorem isAuthority_of_plain {s : List Char} (hs : ∀ c ∈ s, isPlain c = true) (port : Option Nat) :
    isAuthority (s ++ portText port) = true := by
  have hcount := count_colon_eq_zero hs
  rw [isAuthority, accepts_append (fun c hc => .inl (hs c hc)) (by simp [hcount]), hcount]
  exact accepts_portText false port

theorem isAuthority_of_brackets {s : List Char} (hs : ∀ c ∈ s, isPlain c = true ∨ c = ':')
    (hcount : s.count ':' ≤ 8) (port : Option Nat) :
    isAuthority (['['] ++ s ++ [']'] ++ portText port) = true := by
  have hopen : Authority.accepts ⟨0, false, false, false⟩ ('[' :: (s ++ ']' :: portText port)) =
      Authority.accepts ⟨0, true, false, false⟩ (s ++ ']' :: portText port) := rfl
  have hclose (n : Nat) : Authority.accepts ⟨n, true, false, false⟩ (']' :: portText port) =
      Authority.accepts ⟨0, true, true, false⟩ (portText port) := rfl
  have htext : ['['] ++ s ++ [']'] ++ portText port = '[' :: (s ++ ']' :: portText port) := by simp
  rw [isAuthority, htext, hopen, accepts_append hs (by simpa using hcount), hclose]
  exact accepts_portText true port

end Target

/-! ## Addresses -/

open IpAddress

theorem isPlain_digitChar {d : Nat} (h : d < 16) : Target.isPlain (Nat.digitChar d) = true := by
  revert d
  decide

theorem isPlain_of_mem_hexDigits {n : Nat} {c : Char} (hc : c ∈ Decimal.hexDigits n) :
    Target.isPlain c = true := by
  induction n using Nat.strongRecOn with
  | ind n ih =>
    rw [Decimal.hexDigits, Nat.toDigits_eq_if (by decide)] at hc
    split at hc
    · rw [List.mem_singleton.1 hc]
      exact isPlain_digitChar ‹_›
    · rcases List.mem_append.1 hc with hc | hc
      · exact ih (n / 16) (by omega) hc
      · rw [List.mem_singleton.1 hc]
        exact isPlain_digitChar (Nat.mod_lt n (by decide))

theorem isPlain_textV4 (a b c d : Nat) : ∀ u ∈ textV4 a b c d, Target.isPlain u = true := by
  intro u hu
  rcases mem_of_mem_intercalate hu with hpoint | ⟨ds, hds, hu⟩
  · rw [List.mem_singleton.1 hpoint]
    decide
  · obtain ⟨n, -, rfl⟩ := List.mem_map.1 hds
    exact Target.isPlain_of_isDigit (Target.isDigit_of_mem_digits hu)

theorem mem_textGroups {groups : List Nat} {c : Char} (hc : c ∈ textGroups groups) :
    Target.isPlain c = true ∨ c = ':' := by
  rcases mem_of_mem_intercalate hc with hcolon | ⟨ds, hds, hc⟩
  · exact .inr (List.mem_singleton.1 hcolon)
  · obtain ⟨n, -, rfl⟩ := List.mem_map.1 hds
    exact .inl (isPlain_of_mem_hexDigits hc)

theorem count_textGroups (groups : List Nat) : (textGroups groups).count ':' ≤ groups.length := by
  have hzero (n : Nat) : (Decimal.hexDigits n).count ':' = 0 :=
    Target.count_colon_eq_zero fun _ => isPlain_of_mem_hexDigits
  induction groups with
  | nil => exact Nat.zero_le _
  | cons n groups ih =>
    cases groups with
    | nil =>
      rw [textGroups, List.map_singleton, List.intercalate_singleton, hzero]
      exact Nat.zero_le _
    | cons m groups =>
      rw [textGroups, List.map_cons] at ih ⊢
      rw [List.map_cons, List.intercalate_cons_cons, List.count_append, List.count_append, hzero]
      simp only [List.count_singleton_self, List.length_cons] at ih ⊢
      omega

theorem longestZeros_le (groups : List Nat) :
    (longestZeros groups).1 + (longestZeros groups).2 ≤ groups.length := by
  induction groups with
  | nil => exact Nat.le_refl 0
  | cons g groups ih =>
    have hzeros : zeros (g :: groups) ≤ (g :: groups).length := (List.takeWhile_sublist _).length_le
    rw [longestZeros]
    dsimp only
    split
    · simpa using hzeros
    · simp only [List.length_cons]
      omega

theorem mem_textV6 {groups : List Nat} {c : Char} (hc : c ∈ textV6 groups) :
    Target.isPlain c = true ∨ c = ':' := by
  rw [textV6] at hc
  dsimp only at hc
  split at hc
  · exact mem_textGroups hc
  · simp only [List.mem_append] at hc
    rcases hc with (hc | hc) | hc
    · exact mem_textGroups hc
    · right
      simpa using hc
    · exact mem_textGroups hc

/-- An address of eight groups holds no more colons than groups, however it is written. -/
theorem count_textV6 {groups : List Nat} (h : groups.length = 8) :
    (textV6 groups).count ':' ≤ 8 := by
  have hzeros := longestZeros_le groups
  have hall := count_textGroups groups
  rw [textV6]
  dsimp only
  split
  · omega
  · have hfront := count_textGroups (groups.take (longestZeros groups).1)
    have hback := count_textGroups
      (groups.drop ((longestZeros groups).1 + (longestZeros groups).2))
    have hmarks : [':', ':'].count ':' = 2 := rfl
    rw [List.length_take] at hfront
    rw [List.length_drop] at hback
    rw [List.count_append, List.count_append, hmarks]
    omega

theorem length_readGroups (first : Bool) (room : Nat) (s : List Char) :
    (readGroups first room s).1.length ≤ room := by
  induction room generalizing first s with
  | zero => exact Nat.le_refl 0
  | succ room ih =>
    rw [readGroups]
    split
    · exact Nat.zero_le _
    · rename_i start _
      split
      · -- An address of version 4 is two groups, and is only tried where there is room for both.
        rename_i hv4
        have hroom : room ≠ 0 := by
          rintro rfl
          cases hv4
        simp only [List.length_cons, List.length_nil]
        omega
      · split
        · exact Nat.zero_le _
        · rename_i g rest _
          exact Nat.succ_le_succ (ih false rest)

theorem length_of_readV6? {s rest : List Char} {groups : List Nat}
    (h : readV6? s = some (groups, rest)) : groups.length = 8 := by
  have hfront := length_readGroups true 8 s
  rw [readV6?] at h
  dsimp only at h
  split at h
  · cases h
    assumption
  · split at h
    · cases h
    · obtain ⟨t, -, ht⟩ := Option.map_eq_some_iff.1 h
      have hback := length_readGroups true (7 - (readGroups true 8 s).1.length) t
      cases ht
      simp only [List.length_append, List.length_replicate]
      omega

/-! ## Hosts -/

namespace Host

/-- The characters that a name may hold and a target may not. -/
def unsendable : List Char :=
  ['"', '\x60', '\x7b', '\x7d']

theorem isPlain_of_inName {c : Char} (h : Domain.Name.inName c = true) (hc : c ∉ unsendable) :
    Target.isPlain c = true := by
  have hascii : c.toNat < 0x80 := of_decide_eq_true (Bool.and_eq_true_iff.1 h).1
  exact of_ascii (q := fun c => c ∉ unsendable → Target.isPlain c = true) (by decide) hascii h hc

theorem exists_of_v4? {numbers : List Nat} {address : IpAddress} (h : v4? numbers = some address) :
    ∃ a b c d, address = .v4 a b c d := by
  unfold v4? at h
  dsimp only at h
  split at h
  · cases h
  · split at h
    · cases h
    · split at h
      · cases h
        exact ⟨_, _, _, _, rfl⟩
      · cases h

/-- What a host is that was read: a name that holds characters of names only, or an address, whose
groups are eight. -/
theorem spec_of_ofText? {s : List Char} {h : Host} (hs : ofText? s = some h) :
    (∃ name, h = .name name ∧ name ≠ [] ∧ ∀ c ∈ name, Domain.Name.inName c = true) ∨
      (∃ a b c d, h = .address (.v4 a b c d)) ∨
      ∃ groups, h = .address (.v6 groups) ∧ groups.length = 8 := by
  unfold ofText? at hs
  split at hs
  · split at hs
    · cases hs
      exact .inr (.inr ⟨_, rfl, length_of_readV6? ‹_›⟩)
    · cases hs
  · obtain ⟨text, -, hs⟩ := Option.bind_eq_some_iff.1 hs
    obtain ⟨name, hname, hs⟩ := Option.bind_eq_some_iff.1 hs
    rw [ofName?] at hs
    split at hs
    · cases hs
    rename_i hne
    split at hs
    · obtain ⟨numbers, -, hs⟩ := Option.bind_eq_some_iff.1 hs
      obtain ⟨address, haddress, rfl⟩ := Option.map_eq_some_iff.1 hs
      obtain ⟨a, b, c, d, rfl⟩ := exists_of_v4? haddress
      exact .inr (.inl ⟨a, b, c, d, rfl⟩)
    · cases hs
      exact .inl ⟨name, rfl, by simpa using hne, Domain.Name.inName_of_ascii? hname⟩

theorem text_ne_nil {s : List Char} {h : Host} (hs : ofText? s = some h) : h.text ≠ [] := by
  rcases spec_of_ofText? hs with ⟨name, rfl, hne, -⟩ | ⟨a, b, c, d, rfl⟩ | ⟨groups, rfl, -⟩
  · exact hne
  · have hdigits : Decimal.digits a ≠ [] := Nat.toDigits_ne_nil
    intro htext
    simp [text, textV4, hdigits] at htext
  · exact List.cons_ne_nil _ _

/-- Nothing in a host ends the authority in which it stands. -/
theorem inside_of_mem_text {s : List Char} {h : Host} (hs : ofText? s = some h) {c : Char}
    (hc : c ∈ h.text) : decide (c ∉ ['/', '?', '#']) = true := by
  have hplain {c : Char} (hc : Target.isPlain c = true) : decide (c ∉ ['/', '?', '#']) = true :=
    decide_eq_true (not_mem_of_class hc (by decide))
  rcases spec_of_ofText? hs with ⟨name, rfl, -, hname⟩ | ⟨a, b, e, d, rfl⟩ | ⟨groups, rfl, -⟩
  · exact decide_eq_true (not_mem_of_class (hname c hc) (by decide))
  · exact hplain (isPlain_textV4 a b e d c hc)
  · simp only [text, List.mem_append, List.mem_singleton] at hc
    rcases hc with (rfl | hc) | rfl
    · decide
    · rcases mem_textV6 hc with hc | rfl
      · exact hplain hc
      · decide
    · decide

/-- **A host that was read can stand in a target**, with any port, unless it holds one of four
marks. -/
theorem isAuthority_iff {s : List Char} {h : Host} (hs : ofText? s = some h) (port : Option Nat) :
    Target.isAuthority (h.text ++ portText port) = true ↔ ∀ c ∈ h.text, c ∉ unsendable := by
  constructor
  · intro hauthority c hc
    have hin := Target.inAuthority_of_accepts hauthority c (List.mem_append_left _ hc)
    exact not_mem_of_class hin (by decide)
  · intro hchars
    rcases spec_of_ofText? hs with
      ⟨name, rfl, -, hname⟩ | ⟨a, b, c, d, rfl⟩ | ⟨groups, rfl, hlength⟩
    · exact Target.isAuthority_of_plain
        (fun c hc => isPlain_of_inName (hname c hc) (hchars c hc)) port
    · exact Target.isAuthority_of_plain (isPlain_textV4 a b c d) port
    · exact Target.isAuthority_of_brackets (fun c => mem_textV6) (count_textV6 hlength) port

end Host

end NotebookGoto.Http
