import NotebookGoto.Proofs.Http.Admission
import NotebookGoto.Proofs.Http.Query

/-!
# Presenting a token

A token can be presented in a header field, in one of two words, or in the query, in any spelling.
Where both are there the field goes before the query, also with a wrong token. A site reads no more
of a request than path, method, token, content type and body, so it does not tell one way of
presenting a token from another.

* **`Site.respond_congr`**: what a site reads of a request.
* **`Request.spelled_token_is_presented`**: tokens in the query.
* **`Request.first_field_goes_before_query`**: tokens in header fields, and both ways compared.
-/

namespace NotebookGoto.Http

open Text

/-! ## What a site reads -/

namespace Site

variable {r r' : Request}

theorem admits_iff_of_token? {t : String} (h : r.token? = some t) (hne : t ≠ "") (s : Site) :
    s.admits r = true ↔ s.token.secret = t := by
  rw [admits_iff, Request.Presents, h, Option.some.injEq]
  constructor
  · exact fun hr => hr.1.symm
  · intro hsecret
    rw [hsecret]
    exact ⟨rfl, hne⟩

/-- **A site reads no more of a request** than its path, method, token, content type and body. -/
theorem respond_congr (hpath : r.target.path = r'.target.path) (hmethod : r.method = r'.method)
    (htoken : r.token? = r'.token?) (hbody : r.body = r'.body)
    (htype : r.header? "content-type".toList = r'.header? "content-type".toList) (s : Site) :
    s.respond r = s.respond r' := by
  have hadmits : s.admits r = s.admits r' := by
    unfold admits
    rw [htoken]
  have hlookup : r.lookup = r'.lookup := by
    unfold Request.lookup Request.hasJson
    rw [htype, hbody]
  have hserve (e : Endpoint) (m : Method) : s.serve r e m = s.serve r' e m := by
    unfold serve render
    rw [hlookup, hbody]
  have hanswer (e : Endpoint) : s.answer r e = s.answer r' e := by
    unfold answer method?
    rw [hmethod, hadmits]
    simp only [hserve]
  unfold respond
  rw [hpath]
  simp only [hanswer]

end Site

namespace Request

/-! ## In the query -/

/-- **A token is presented by every spelling of it.** In a request without a credential one pair of
the query has the key `token`, whatever other pairs stand around it, and key and value are spelled
in any way. Then the value is presented, and just the sites with this token let the request in.
Where two pairs have that key no token is presented. -/
theorem spelled_token_is_presented :
    (∀ (r : Request) (query : List Char) (t : String), (∀ u, ¬ r.Carries u) →
      r.target.query = some query → Query.Holds "token".toList t.toList query →
        r.token? = some t ∧
          (t ≠ "" → ∀ s : Site, s.admits r = true ↔ s.token.secret = t)) ∧
    ∀ (r : Request) (before middle after : List (List Char)) (p q : List Char),
      (∀ u, ¬ r.Carries u) → (Query.pair p).1 = "token".toList →
      (Query.pair q).1 = "token".toList →
      (∀ piece ∈ before ++ p :: middle ++ q :: after, '&' ∉ piece) →
      r.target.query = some (['&'].intercalate (before ++ p :: middle ++ q :: after)) →
        r.token? = none ∧ ∀ s : Site, s.admits r = false := by
  refine ⟨fun r query t hr hquery hholds => ?_,
    fun r before middle after p q hr hp hq hmarks hquery => ?_⟩
  · have htoken : r.token? = some t := by
      rw [token?_of_holds hr hquery hholds, String.ofList_toList]
    exact ⟨htoken, fun hne s => Site.admits_iff_of_token? htoken hne s⟩
  · have htoken : r.token? = none := by
      rw [token?_of_not_carries hr, hquery, Option.bind_some,
        Query.single?_of_two (by decide) hp hq hmarks]
      rfl
    refine ⟨htoken, fun s => ?_⟩
    unfold Site.admits
    rw [htoken]
    rfl

/-- A key and a value with every kind of spelling among empty pairs, malformed escapes and other
keys, and a key that is there twice. -/
theorem spelled_token_among_others :
    let r (query : String) : Request := ⟨"GET".toList, ⟨"/a/ext/hello".toList, some query.toList⟩,
      [⟨"Authorization".toList, "Basic token".toList⟩], []⟩
    (r "&%=1&%74oke%6E=%C3%a9+é%26%2b&=token&tokens=t").token? = some "é é&+" ∧
    (∀ s : Site, s.admits (r "&%=1&%74oke%6E=%C3%a9+é%26%2b&=token&tokens=t") = true ↔
      s.token.secret = "é é&+") ∧
    (r "token=a&x&t%6Fken=a").token? = none := by
  intro r
  have hkey : Query.IsSpelling "%74oke%6E".toList "token".toList :=
    .escape (by decide) (by decide) <| .literal (c := 'o') (by decide) <|
      .literal (c := 'k') (by decide) <| .literal (c := 'e') (by decide) <|
        .escape (by decide) (by decide) .nil
  have hvalue : Query.IsSpelling "%C3%a9+é%26%2b".toList "é é&+".toList :=
    .escape (by decide) (by decide) <| .escape (by decide) (by decide) <| .plus <|
      .literal (c := 'é') (by decide) <| .escape (by decide) (by decide) <|
        .escape (by decide) (by decide) .nil
  have hholds : Query.Holds "token".toList "é é&+".toList
      "&%=1&%74oke%6E=%C3%a9+é%26%2b&=token&tokens=t".toList :=
    ⟨["".toList, "%=1".toList], _, _, ["=token".toList, "tokens=t".toList], by decide, hkey, hvalue,
      by decide +kernel⟩
  obtain ⟨htoken, hadmits⟩ := spelled_token_is_presented.1 (r _) _ "é é&+"
    (not_carries_iff.2 (by decide +kernel)) rfl hholds
  refine ⟨htoken, hadmits (by decide), ?_⟩
  exact (spelled_token_is_presented.2 (r "token=a&x&t%6Fken=a") [] ["x".toList] [] "token=a".toList
    "t%6Fken=a".toList (not_carries_iff.2 (by decide +kernel)) (by decide +kernel)
    (by decide +kernel) (by decide) (by decide)).1

/-! ## In a header field -/

/-- A text that a header field can present as a token: there is something of it, all of it can be
read, and no white space stands at its ends. -/
structure Presentable (t : List Char) : Prop where
  ne_nil : t ≠ []
  visible : ∀ c ∈ t, Header.isVisible c = true
  head : ∀ c ∈ t.head?, ¬ isBlank c
  last : ∀ c ∈ t.getLast?, ¬ isBlank c

/-- The white space that may stand in a header field. -/
def IsGap (s : List Char) : Prop :=
  ∀ c ∈ s, c = ' ' ∨ c = '\t'

/-- Whether a field presents a token, with any white space around its parts. -/
def IsFieldOf (h : Header) (t : List Char) : Prop :=
  h.isAuthorization = true ∧ ∃ start scheme gap stop,
    h.value = start ++ (scheme ++ ' ' :: (gap ++ t) ++ stop) ∧ IsScheme scheme ∧
      IsGap start ∧ IsGap gap ∧ IsGap stop

theorem IsGap.all_isBlank {s : List Char} (h : IsGap s) : s.all isBlank = true := by
  rw [List.all_eq_true]
  intro c hc
  rcases h c hc with rfl | rfl <;> decide

theorem IsGap.isVisible {s : List Char} (h : IsGap s) {c : Char} (hc : c ∈ s) :
    Header.isVisible c = true := by
  rcases h c hc with rfl | rfl <;> decide

theorem isVisible_of_mem_scheme {s : List Char} (h : IsScheme s) {c : Char} (hc : c ∈ s) :
    Header.isVisible c = true := by
  have hletter := toLower_of_mem_scheme h hc
  have hvisible : ∀ d ∈ "tokenbearer".toList, Header.isVisible d = true :=
    forall_mem_of_all (by decide)
  unfold Char.toLower at hletter
  split at hletter
  · rename_i hupper
    have hlow : 65 ≤ c.toNat := hupper.1
    have hhigh : c.toNat ≤ 90 := hupper.2
    unfold Header.isVisible
    simp
    omega
  · exact hvisible c hletter

theorem carries_of_isFieldOf {r : Request} {t : List Char} {front back : List Header} {h : Header}
    (ht : Presentable t) (hh : IsFieldOf h t) (hfront : ∀ g ∈ front, g.isAuthorization = false)
    (hheaders : r.headers = front ++ h :: back) : r.Carries t := by
  obtain ⟨hname, start, scheme, gap, stop, hvalue, hscheme, hstart, hgap, hstop⟩ := hh
  refine ⟨front, h, back, hheaders, hfront, hname, ?_, ?_⟩
  · rw [hvalue, List.all_eq_true]
    intro c hc
    simp only [List.mem_append, List.mem_cons] at hc
    rcases hc with hc | (hc | rfl | hc | hc) | hc
    · exact hstart.isVisible hc
    · exact isVisible_of_mem_scheme hscheme hc
    · decide
    · exact hgap.isVisible hc
    · exact ht.visible c hc
    · exact hstop.isVisible hc
  · rw [hvalue]
    exact isCredential_between hscheme hstart.all_isBlank hgap.all_isBlank hstop.all_isBlank
      ht.ne_nil ht.head ht.last

/-- A field that is there for a credential is not found under another name. -/
theorem header?_insert {h : Header} {name : List Char} (hname : Header.sameName h.name name = false)
    (method : List Char) (target target' : Target) (front back : List Header) (body : Bytes) :
    (⟨method, target, front ++ h :: back, body⟩ : Request).header? name =
      (⟨method, target', front ++ back, body⟩ : Request).header? name := by
  unfold header?
  dsimp only
  rw [List.find?_append, List.find?_append, List.find?_cons_of_neg (by simpa using hname)]

/-- A request without the fields that are there for a credential. -/
def withoutCredentials (r : Request) : Request :=
  { r with headers := r.headers.filter fun h => !h.isAuthorization }

theorem token?_withoutCredentials {r : Request} (h : ∀ t, ¬ r.Carries t) :
    r.token? = r.withoutCredentials.token? := by
  have hfields : ∀ g ∈ r.withoutCredentials.headers, g.isAuthorization = false := by
    intro g hg
    simpa using (List.mem_filter.1 hg).2
  rw [token?_of_not_carries h, token?_of_not_carries (not_carries_of_no_field hfields)]
  rfl

theorem token_ne_empty_of_carries {r : Request} {t : List Char} (h : r.Carries t) :
    String.ofList t ≠ "" := by
  obtain ⟨before, g, after, -, -, -, -, hcredential⟩ := h
  intro hempty
  have hlist := congrArg String.toList hempty
  rw [String.toList_ofList] at hlist
  exact hcredential.ne_nil hlist

/-- **The first field goes before the query.** If the first field for a credential can be read and
is one, its token is presented, whatever fields follow and whatever the query says: just the sites
with this token let the request in, and the others refuse it. If it is none, all such fields might
as well be missing. So a token that a field can present gets the same answer in a field, after
either word and with any white space, as in the query in any spelling. -/
theorem first_field_goes_before_query :
    (∀ (r : Request) (t : List Char), r.Carries t →
      r.token? = some (String.ofList t) ∧
      (∀ s : Site, s.admits r = true ↔ s.token.secret = String.ofList t) ∧
      ∀ (s : Site) (e : Endpoint), s.endpoint? r.target.path = some e →
        s.token.secret ≠ String.ofList t → s.respond r = .refusal e r.method) ∧
    (∀ r : Request, (∀ t, ¬ r.Carries t) → r.token? = r.withoutCredentials.token?) ∧
    ∀ (t : List Char) (h : Header) (front back : List Header) (query : List Char), Presentable t →
      IsFieldOf h t → (∀ g ∈ front ++ back, g.isAuthorization = false) →
      Query.Holds "token".toList t query →
        ∀ (s : Site) (method path : List Char) (other : Option (List Char)) (body : Bytes),
          s.respond ⟨method, ⟨path, other⟩, front ++ h :: back, body⟩ =
            s.respond ⟨method, ⟨path, some query⟩, front ++ back, body⟩ := by
  refine ⟨fun r t hr => ?_, fun r => token?_withoutCredentials,
    fun t h front back query ht hh hfields hquery s method path other body => ?_⟩
  · have hadmits : ∀ s : Site, s.admits r = true ↔ s.token.secret = String.ofList t :=
      Site.admits_iff_of_token? (token?_of_carries hr) (token_ne_empty_of_carries hr)
    refine ⟨token?_of_carries hr, hadmits, fun s e he hne => ?_⟩
    exact Site.respond_eq_refusal he fun hpresents =>
      hne ((hadmits s).1 (Site.admits_iff.2 hpresents))
  · have hfront : ∀ g ∈ front, g.isAuthorization = false :=
      fun g hg => hfields g (List.mem_append_left back hg)
    have hfield : (⟨method, ⟨path, other⟩, front ++ h :: back, body⟩ : Request).token? =
        some (String.ofList t) :=
      token?_of_carries (carries_of_isFieldOf ht hh hfront rfl)
    have hspelled : (⟨method, ⟨path, some query⟩, front ++ back, body⟩ : Request).token? =
        some (String.ofList t) :=
      token?_of_holds (not_carries_of_no_field hfields) rfl hquery
    have hname : Header.sameName h.name "content-type".toList = false := by
      have hfold : Header.fold h.name = Header.fold "authorization".toList := of_decide_eq_true hh.1
      unfold Header.sameName
      rw [hfold]
      decide
    refine Site.respond_congr ?_ ?_ ?_ ?_ ?_ s
    · rfl
    · rfl
    · rw [hfield, hspelled]
    · rfl
    · exact header?_insert hname method _ _ front back body

/-- A wrong token in the first of two fields against the right one behind it and in the query,
another scheme, and a token with white space inside. -/
theorem first_field_of_several :
    let s : Site := ⟨"/a", "ext", ⟨"a\tb c"⟩, "x", fun _ => none⟩
    let r (first : String) : Request :=
      ⟨"PUT".toList, ⟨"/a/ext/hello".toList, some "token=a%09b+c".toList⟩,
        [⟨"accept".toList, "*/*".toList⟩, ⟨"AUTHORIZATION".toList, first.toList⟩,
          ⟨"authorization".toList, "token a\tb c".toList⟩], []⟩
    (r " BeaRer  abc\t").token? = some "abc" ∧
    s.respond (r " BeaRer  abc\t") = .refusal .hello "PUT".toList ∧
    (r "Basic abc").token? = (r "Basic abc").withoutCredentials.token? ∧
    s.respond ⟨"PUT".toList, ⟨"/a/ext/hello".toList, none⟩,
        [⟨"accept".toList, "*/*".toList⟩, ⟨"authorization".toList, "\ttOKEN  a\tb c ".toList⟩],
        []⟩ =
      s.respond ⟨"PUT".toList, ⟨"/a/ext/hello".toList, some "token=a%09b+c".toList⟩,
        [⟨"accept".toList, "*/*".toList⟩], []⟩ := by
  intro s r
  have hcarries : (r " BeaRer  abc\t").Carries "abc".toList :=
    header?_bind_eq_some_iff.1 (by decide +kernel)
  have hwrong := first_field_goes_before_query.1 (r " BeaRer  abc\t") "abc".toList hcarries
  have hpresentable : Presentable "a\tb c".toList :=
    ⟨by decide, forall_mem_of_all (by decide), fun c hc => by cases hc; decide,
      fun c hc => by cases hc; decide⟩
  have hfield : IsFieldOf ⟨"authorization".toList, "\ttOKEN  a\tb c ".toList⟩ "a\tb c".toList :=
    ⟨by decide, "\t".toList, "tOKEN".toList, " ".toList, " ".toList, by decide,
      .inl (by decide), forall_mem_of_all (by decide), forall_mem_of_all (by decide),
      forall_mem_of_all (by decide)⟩
  have hvalue : Query.IsSpelling "a%09b+c".toList "a\tb c".toList :=
    .literal (c := 'a') (by decide) <| .escape (by decide) (by decide) <|
      .literal (c := 'b') (by decide) <| .plus <| .literal (c := 'c') (by decide) .nil
  have hholds : Query.Holds "token".toList "a\tb c".toList "token=a%09b+c".toList :=
    ⟨[], "token".toList, _, [], by decide,
      Query.isSpelling_of_all_literal (forall_mem_of_all (by decide)), hvalue, nofun⟩
  refine ⟨hwrong.1, hwrong.2.2 s .hello (by decide) (by decide), ?_, ?_⟩
  · exact first_field_goes_before_query.2.1 (r "Basic abc") (not_carries_iff.2 (by decide +kernel))
  · exact first_field_goes_before_query.2.2 _ _ [⟨"accept".toList, "*/*".toList⟩] [] _ hpresentable
      hfield (by decide) hholds s _ _ none []

end Request

end NotebookGoto.Http
