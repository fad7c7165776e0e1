import Mathlib.Data.List.Basic
import NotebookGoto.Http.Token

/-!
# Tokens in header fields

A credential is one of two words in any letter case, a space and a token, with white space around
them. The first field named `Authorization` decides by itself if its value can be read and is a
credential (`Request.Carries`). In every other case it is as if there were no such field.

* **`Request.credential?_eq_some_iff`**: what is read as a credential.
* **`Request.token?_of_carries`** and **`Request.token?_of_not_carries`**: the two cases.
* **`Request.token?_of_credential`**: the token of a request with one credential and no query.
-/

namespace NotebookGoto.Http

open Text

/-! ## Credentials -/

namespace Request

/-- One of the words that stand before a token, in any letter case. -/
def IsScheme (s : List Char) : Prop :=
  Header.fold s = "token".toList ∨ Header.fold s = "bearer".toList

/-- Whether a value is a credential for a token: between white space one of the words, a space and
the token, with any more white space between them. -/
def IsCredential (value token : List Char) : Prop :=
  ∃ scheme rest, trim value = scheme ++ ' ' :: rest ∧ IsScheme scheme ∧ token = trim rest

theorem schemes_any_iff {s : List Char} :
    schemes.any (Header.sameName · s) = true ↔ IsScheme s := by
  have hwords : Header.fold "token".toList = "token".toList ∧
      Header.fold "bearer".toList = "bearer".toList := by decide
  simp only [schemes, Header.sameName, List.any_cons, List.any_nil, Bool.or_false, Bool.or_eq_true,
    decide_eq_true_eq, hwords, IsScheme]
  exact or_congr eq_comm eq_comm

/-- The characters of a scheme in lower case are letters. -/
theorem toLower_of_mem_scheme {s : List Char} (h : IsScheme s) {c : Char} (hc : c ∈ s) :
    c.toLower ∈ "tokenbearer".toList := by
  have hmem : c.toLower ∈ Header.fold s := List.mem_map_of_mem hc
  rcases h with h | h
  · rw [h] at hmem
    exact forall_mem_of_all (p := (· ∈ "tokenbearer".toList)) (by decide) _ hmem
  · rw [h] at hmem
    exact forall_mem_of_all (p := (· ∈ "tokenbearer".toList)) (by decide) _ hmem

theorem toLower_of_isBlank {c : Char} (h : isBlank c = true) : c.toLower = c := by
  unfold Char.toLower
  rw [dif_neg]
  rintro ⟨hlow, hhigh⟩
  have hA : 65 ≤ c.toNat := hlow
  have hZ : c.toNat ≤ 90 := hhigh
  unfold isBlank at h
  simp at h
  omega

theorem not_isBlank_of_mem_scheme {s : List Char} (h : IsScheme s) {c : Char} (hc : c ∈ s) :
    ¬ isBlank c := by
  intro hblank
  have hletter := toLower_of_mem_scheme h hc
  rw [toLower_of_isBlank hblank] at hletter
  have hnone : ∀ d ∈ "tokenbearer".toList, isBlank d = false := forall_mem_of_all (by decide)
  rw [hnone c hletter] at hblank
  cases hblank

theorem scheme_ne_nil {s : List Char} (h : IsScheme s) : s ≠ [] := by
  unfold IsScheme at h
  intro hnil
  rw [hnil] at h
  revert h
  decide

/-- **What is read as a credential.** -/
theorem credential?_eq_some_iff {value token : List Char} :
    credential? value = some token ↔ IsCredential value token := by
  unfold credential? IsCredential
  generalize trim value = text
  constructor
  · intro h
    have hparts := List.takeWhile_append_dropWhile (p := (· ≠ ' ')) (l := text)
    dsimp only at h
    split at h
    · cases h
    · rename_i c rest hdrop
      split at h
      · rename_i hscheme
        have hspace : c = ' ' := by
          have hhead := List.head?_dropWhile_not (· ≠ ' ') text
          rw [hdrop] at hhead
          simpa using hhead
        rw [hdrop, hspace] at hparts
        exact ⟨_, rest, hparts.symm, schemes_any_iff.1 hscheme, (Option.some.inj h).symm⟩
      · cases h
  · rintro ⟨scheme, rest, htext, hscheme, htoken⟩
    -- A scheme holds no space, so the first space is the one behind it.
    have hword : ∀ c ∈ scheme, decide (c ≠ ' ') = true := by
      intro c hc
      apply decide_eq_true
      intro hspace
      exact not_isBlank_of_mem_scheme hscheme hc (by rw [hspace]; decide)
    have htake : text.takeWhile (· ≠ ' ') = scheme := by
      rw [htext, takeWhile_append_cons hword (by decide)]
    have hdrop : text.dropWhile (· ≠ ' ') = ' ' :: rest := by
      rw [htext, dropWhile_append_cons hword (by decide)]
    simp only [htake, hdrop, schemes_any_iff.2 hscheme, if_true, htoken]

/-- Nothing but white space is no token: the space behind the word would be at the end of the
value. -/
theorem IsCredential.ne_nil {value token : List Char} (h : IsCredential value token) :
    token ≠ [] := by
  obtain ⟨scheme, rest, htext, -, htoken⟩ := h
  intro hnil
  obtain ⟨before, behind, hrest, hbefore, hbehind⟩ := exists_trimBy isBlank rest
  rw [show trimBy isBlank rest = [] from htoken.symm.trans hnil, List.nil_append] at hrest
  have hall : (' ' :: rest).all isBlank = true := by
    rw [hrest, List.all_cons, List.all_append, hbefore, hbehind]
    decide
  have hlast : ∀ c ∈ (trim value).getLast?, ¬ isBlank c := fun c => not_of_getLast?_trimBy
  rw [htext, List.getLast?_append_of_ne_nil _ (List.cons_ne_nil ' ' rest)] at hlast
  obtain ⟨c, hc⟩ := List.getLast?_isSome.2 (List.cons_ne_nil ' ' rest) |> Option.isSome_iff_exists.1
  exact hlast c hc (List.all_eq_true.1 hall c (List.mem_of_getLast? hc))

/-- **A token is read back from its credential**, whatever white space stands around it. -/
theorem isCredential_between {start scheme gap token stop : List Char} (hscheme : IsScheme scheme)
    (hstart : start.all isBlank = true) (hgap : gap.all isBlank = true)
    (hstop : stop.all isBlank = true) (hne : token ≠ []) (hhead : ∀ c ∈ token.head?, ¬ isBlank c)
    (hlast : ∀ c ∈ token.getLast?, ¬ isBlank c) :
    IsCredential (start ++ (scheme ++ ' ' :: (gap ++ token) ++ stop)) token := by
  refine ⟨scheme, gap ++ token, ?_, hscheme, ?_⟩
  · refine trimBy_between hstart hstop (fun c hc => ?_) (fun c hc => ?_)
    · rw [List.head?_append_of_ne_nil _ (scheme_ne_nil hscheme)] at hc
      exact not_isBlank_of_mem_scheme hscheme (List.mem_of_head? hc)
    · rw [show scheme ++ ' ' :: (gap ++ token) = (scheme ++ ' ' :: gap) ++ token by simp,
        List.getLast?_append_of_ne_nil _ hne] at hc
      exact hlast c hc
  · show token = trimBy isBlank (gap ++ token)
    rw [trimBy_append_of_all hgap, trimBy_eq_self hhead hlast]

theorem credential?_append_of_all {value e : List Char} (he : e.all isBlank = true) :
    credential? (value ++ e) = credential? value := by
  rw [credential?, credential?, trim, trim, trimBy_append_of_all_right he]

/-- The credential that clients write. Its token comes back without the white space around it, and
not at all if it is nothing but white space: then the space behind the word is lost with it. -/
theorem credential?_token (t : List Char) :
    credential? ("token ".toList ++ t) = if t.all isBlank then none else some (trim t) := by
  have hword : "token ".toList ++ t = "token".toList ++ ' ' :: t := by simp
  rw [hword]
  cases hblank : t.all isBlank with
  | true =>
    have hall : (' ' :: t).all isBlank = true := by
      rw [List.all_cons, hblank]
      decide
    -- With the space behind it gone the word alone is left.
    rw [credential?_append_of_all hall]
    show credential? "token".toList = none
    decide
  | false =>
    obtain ⟨gap, stop, ht, hgap, hstop⟩ := exists_trimBy isBlank t
    have hne : trim t ≠ [] := by
      intro hnil
      rw [show trimBy isBlank t = [] from hnil, List.nil_append] at ht
      rw [ht, List.all_append, hgap, hstop] at hblank
      cases hblank
    have hcredential :
        IsCredential ([] ++ ("token".toList ++ ' ' :: (gap ++ trim t) ++ stop)) (trim t) :=
      isCredential_between (.inl (by decide)) rfl hgap hstop hne
        (fun c => not_of_head?_trimBy) (fun c => not_of_getLast?_trimBy)
    have hvalue : "token".toList ++ ' ' :: t =
        [] ++ ("token".toList ++ ' ' :: (gap ++ trim t) ++ stop) := by
      conv_lhs => rw [ht]
      simp [trim]
    rw [hvalue, credential?_eq_some_iff.2 hcredential]
    rfl

end Request

/-! ## The first field -/

/-- Whether a field is there for a credential. -/
def Header.isAuthorization (h : Header) : Bool :=
  sameName h.name "authorization".toList

namespace Request

theorem header?_eq_some_iff {r : Request} {name value : List Char} :
    r.header? name = some value ↔ ∃ before h after, r.headers = before ++ h :: after ∧
      (∀ g ∈ before, Header.sameName g.name name = false) ∧ Header.sameName h.name name = true ∧
      h.value.all Header.isVisible = true ∧ h.value = value := by
  unfold header?
  constructor
  · intro hvalue
    split at hvalue
    · rename_i h hfind
      obtain ⟨hname, before, after, hheaders, hbefore⟩ := List.find?_eq_some_iff_append.1 hfind
      split at hvalue
      · rename_i hvisible
        exact ⟨before, h, after, hheaders, by simpa using hbefore, hname, hvisible,
          Option.some.inj hvalue⟩
      · cases hvalue
    · cases hvalue
  · rintro ⟨before, h, after, hheaders, hbefore, hname, hvisible, hvalue⟩
    have hfind : r.headers.find? (fun g => Header.sameName g.name name) = some h :=
      List.find?_eq_some_iff_append.2 ⟨hname, before, after, hheaders, by simpa using hbefore⟩
    rw [hfind]
    dsimp only
    rw [if_pos hvisible, hvalue]

/-- Whether the first field for a credential can be read and is one for a token. Neither the fields
behind it nor the query count. -/
def Carries (r : Request) (token : List Char) : Prop :=
  ∃ before h after, r.headers = before ++ h :: after ∧
    (∀ g ∈ before, g.isAuthorization = false) ∧ h.isAuthorization = true ∧
    h.value.all Header.isVisible = true ∧ IsCredential h.value token

theorem header?_bind_eq_some_iff {r : Request} {token : List Char} :
    (r.header? "authorization".toList).bind credential? = some token ↔ r.Carries token := by
  rw [Option.bind_eq_some_iff]
  constructor
  · rintro ⟨value, hvalue, hcredential⟩
    obtain ⟨before, h, after, hheaders, hbefore, hname, hvisible, rfl⟩ :=
      header?_eq_some_iff.1 hvalue
    exact ⟨before, h, after, hheaders, hbefore, hname, hvisible,
      credential?_eq_some_iff.1 hcredential⟩
  · rintro ⟨before, h, after, hheaders, hbefore, hname, hvisible, hcredential⟩
    exact ⟨h.value,
      header?_eq_some_iff.2 ⟨before, h, after, hheaders, hbefore, hname, hvisible, rfl⟩,
      credential?_eq_some_iff.2 hcredential⟩

theorem not_carries_iff {r : Request} :
    (∀ token, ¬ r.Carries token) ↔ (r.header? "authorization".toList).bind credential? = none := by
  rw [Option.eq_none_iff_forall_ne_some]
  exact forall_congr' fun token => not_congr header?_bind_eq_some_iff.symm

/-- **The first field decides** if it is a credential. -/
theorem token?_of_carries {r : Request} {token : List Char} (h : r.Carries token) :
    r.token? = some (String.ofList token) := by
  rw [token?, header?_bind_eq_some_iff.2 h]
  rfl

/-- **The query decides** if the first field is no credential. -/
theorem token?_of_not_carries {r : Request} (h : ∀ token, ¬ r.Carries token) :
    r.token? = (r.target.query.bind (Query.single? "token".toList)).map String.ofList := by
  rw [token?, not_carries_iff.1 h]
  rfl

theorem not_carries_of_no_field {r : Request} (h : ∀ g ∈ r.headers, g.isAuthorization = false)
    (token : List Char) : ¬ r.Carries token := by
  rintro ⟨before, g, after, hheaders, _, hname, _⟩
  have hmem : g ∈ r.headers := hheaders ▸ List.mem_append_right before List.mem_cons_self
  rw [h g hmem] at hname
  cases hname

/-- The token of a request with one credential and no query, as the credential arrives. -/
theorem token?_of_credential {r : Request} {t : List Char} {p : Char → Bool}
    (hheaders : r.headers = [⟨"authorization".toList, trimEndBy p ("token ".toList ++ t)⟩])
    (hquery : r.target.query = none) (hp : ∀ c, p c = true → isBlank c = true)
    (ht : ∀ c ∈ t, Header.isVisible c = true) :
    r.token? = if t.all isBlank then none else some (String.ofList (trim t)) := by
  have hvisible : (trimEndBy p ("token ".toList ++ t)).all Header.isVisible = true := by
    rw [List.all_eq_true]
    intro c hc
    rcases List.mem_append.1 (mem_of_mem_trimEndBy hc) with hword | hc
    · have hall : ∀ d ∈ "token ".toList, Header.isVisible d = true :=
        forall_mem_of_all (by decide)
      exact hall c hword
    · exact ht c hc
  have hname : Header.sameName "authorization".toList "authorization".toList = true := by decide
  have hheader : r.header? "authorization".toList =
      some (trimEndBy p ("token ".toList ++ t)) :=
    header?_eq_some_iff.2 ⟨[], _, [], hheaders, nofun, hname, hvisible, rfl⟩
  obtain ⟨e, he, hall⟩ := exists_trimEndBy p ("token ".toList ++ t)
  have hblank : e.all isBlank = true :=
    List.all_eq_true.2 fun c hc => hp c (List.all_eq_true.1 hall c hc)
  have hcredential : credential? (trimEndBy p ("token ".toList ++ t)) =
      if t.all isBlank then none else some (trim t) := by
    rw [← credential?_append_of_all hblank, ← he, credential?_token]
  rw [token?, hheader, hquery, Option.bind_some, hcredential]
  split <;> rfl

end Request

end NotebookGoto.Http
