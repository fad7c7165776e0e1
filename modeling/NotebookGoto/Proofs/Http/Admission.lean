import NotebookGoto.Http.Site
import NotebookGoto.Proofs.Http.Route

/-!
# Who is let in

A request is let in if it presents the site's token (`Request.Presents`). All others are refused at
an endpoint, before the site looks at the method, the content type or the body, and the refusal is
made of the endpoint and the method alone (`Response.refusal`).

* **`Site.endpoint?_eq_some_iff`**: the paths of endpoints, where they are literal.
* **`Site.answer_eq_refusal`**: what a request without the token is answered.
* **`Site.refuses_without_token`**: no two sites can be told apart by it.
-/

namespace NotebookGoto.Http

/-- Whether a request presents a token. The empty text is no token. -/
def Request.Presents (r : Request) (t : Token) : Prop :=
  r.token? = some t.secret ∧ t.secret ≠ ""

/-- The refusal at an endpoint. Only a method that the endpoint does not have is told the others. -/
def Response.refusal (e : Endpoint) (method : List Char) : Response where
  status := 403
  contentType := some "application/json"
  allow :=
    if (Method.allowed e).any (·.name.toList = method) then none
    else some (",".intercalate ((Method.allowed e).map (·.name)))
  body := if method = "HEAD".toList then [] else "\x7b\"message\":\"Forbidden\"\x7d".toList

theorem Token.verify_iff {t : Token} {presented : String} :
    t.verify presented = true ↔ presented = t.secret ∧ t.secret ≠ "" := by
  rw [verify, Bool.and_eq_true, decide_eq_true_iff, decide_eq_true_iff]
  constructor
  · rintro ⟨hne, rfl⟩
    exact ⟨rfl, hne⟩
  · rintro ⟨rfl, hne⟩
    exact ⟨hne, rfl⟩

theorem Method.ofName?_eq_some_iff {name : List Char} {m : Method} :
    ofName? name = some m ↔ name = m.name.toList := by
  constructor
  · intro h
    rw [ofName?] at h
    exact (of_decide_eq_true (List.find?_some h :)).symm
  · rintro rfl
    cases m <;> decide

namespace Site

/-- A site whose base path and extension's name stand for themselves, with no mark of a capture or
of a wildcard in them. -/
def Literal (s : Site) : Prop :=
  ':' ∉ s.baseUrl.toList ++ s.extensionName.toList ∧
    '*' ∉ s.baseUrl.toList ++ s.extensionName.toList

theorem literal_of_words {s : Site} {words : List (List Char)} {word : List Char}
    (hbase : Route.IsBase s.baseUrl words) (hname : Route.IsName s.extensionName word) :
    s.Literal := by
  have hchar {c : Char} (hc : c ∈ s.baseUrl.toList ++ s.extensionName.toList) :
      c = '/' ∨ Route.inWord c = true :=
    (List.mem_append.1 hc).elim (Route.inWord_or_slash_of_mem_base hbase)
      (Route.inWord_or_slash_of_mem_name hname)
  constructor
  · intro hcolon
    exact absurd (hchar hcolon) (by decide)
  · intro hstar
    exact absurd (hchar hstar) (by decide)

/-- Where paths are literal an endpoint is reached by its own path and by no other. -/
theorem endpoint?_eq_some_iff {s : Site} (hs : s.Literal) {path : List Char} {e : Endpoint} :
    s.endpoint? path = some e ↔ path = Route.path s.baseUrl s.extensionName e := by
  have hcolon : ∀ e, ':' ∉ Route.path s.baseUrl s.extensionName e :=
    Route.not_mem_path (by decide) (fun e => by cases e <;> decide) hs.1
  constructor
  · intro h
    rw [endpoint?] at h
    exact (Route.accepts_iff (hcolon e)).1 (List.find?_some h :)
  · rintro rfl
    have hself : ∀ e', Route.accepts (Route.path s.baseUrl s.extensionName e')
        (Route.path s.baseUrl s.extensionName e) = true ↔ e' = e := by
      intro e'
      rw [Route.accepts_iff (hcolon e')]
      exact ⟨fun h => (Route.path_injective h).symm, fun h => by rw [h]⟩
    have hhello := hself .hello
    have hcode := hself .code
    cases e <;> simp_all [endpoint?, Endpoint.all]

variable {s : Site} {r : Request} {e : Endpoint}

theorem admits_iff : s.admits r = true ↔ r.Presents s.token := by
  rw [admits, Request.Presents]
  cases htoken : r.token? with
  | none => simp
  | some presented => simp [Token.verify_iff]

theorem method?_eq_some_iff {m : Method} :
    method? e r = some m ↔ r.method = m.name.toList ∧ m ∈ Method.allowed e := by
  rw [method?, Option.filter_eq_some_iff, Method.ofName?_eq_some_iff, decide_eq_true_iff]

/-- An endpoint has a method just when one of its methods has that name. -/
theorem any_allowed_iff : (Method.allowed e).any (·.name.toList = r.method) = true ↔
    (method? e r).isSome = true := by
  rw [Option.isSome_iff_exists, List.any_eq_true]
  constructor
  · rintro ⟨m, hm, hname⟩
    exact ⟨m, method?_eq_some_iff.2 ⟨(of_decide_eq_true hname).symm, hm⟩⟩
  · rintro ⟨m, hm⟩
    obtain ⟨hname, hmem⟩ := method?_eq_some_iff.1 hm
    exact ⟨m, hmem, decide_eq_true hname.symm⟩

/-- **Without the token there is only the refusal**, which neither the site nor anything of the
request but its method goes into. -/
theorem answer_eq_refusal (h : ¬ r.Presents s.token) : s.answer r e = .refusal e r.method := by
  have hadmits : s.admits r = false := by
    rw [Bool.eq_false_iff]
    exact fun hr => h (admits_iff.1 hr)
  have hbody : Response.forbidden.body = "\x7b\"message\":\"Forbidden\"\x7d".toList := by decide
  have hhead : Method.head ∈ Method.allowed e := by cases e <;> decide
  have hnames := any_allowed_iff (r := r) (e := e)
  cases hm : method? e r with
  | none =>
    -- Every endpoint has `HEAD`, so a method that it does not have is another one.
    have hmethod : r.method ≠ "HEAD".toList := by
      intro hname
      rw [method?_eq_some_iff.2 ⟨hname, hhead⟩] at hm
      cases hm
    rw [hm] at hnames
    rw [answer, Response.refusal, hm, if_neg (fun h => nomatch hnames.1 h), if_neg hmethod, ← hbody]
    simp only [hadmits]
    rfl
  | some m =>
    have hname := (method?_eq_some_iff.1 hm).1
    rw [hm] at hnames
    rw [answer, Response.refusal, hm, if_pos (hnames.2 rfl), ← hbody]
    simp only [hadmits]
    -- Only the body tells `HEAD` from the other methods.
    by_cases hm' : m = .head
    · have hmethod : r.method = "HEAD".toList := by
        rw [hname, hm']
        rfl
      rw [if_pos hmethod, if_pos hm']
      rfl
    · have hmethod : r.method ≠ "HEAD".toList := by
        intro heq
        exact hm' (Option.some.inj (hm.symm.trans (method?_eq_some_iff.2 ⟨heq, hhead⟩)))
      rw [if_neg hmethod, if_neg hm']
      rfl

theorem respond_eq_refusal (he : s.endpoint? r.target.path = some e) (h : ¬ r.Presents s.token) :
    s.respond r = .refusal e r.method := by
  rw [respond, he]
  exact answer_eq_refusal h

/-- A request with the token for an endpoint, by one of the endpoint's methods. -/
structure Asked (s : Site) (e : Endpoint) (m : Method) (r : Request) : Prop where
  endpoint : s.endpoint? r.target.path = some e
  method : r.method = m.name.toList
  allowed : m ∈ Method.allowed e
  presents : r.Presents s.token

/-- A request that is let in is answered by its endpoint. -/
theorem respond_of_asked {m : Method} (h : s.Asked e m r) (hm : m ≠ .head) :
    s.respond r = s.serve r e m := by
  have hmethod : method? e r = some m := method?_eq_some_iff.2 ⟨h.method, h.allowed⟩
  have hadmits : s.admits r = true := admits_iff.2 h.presents
  rw [respond, h.endpoint]
  show s.answer r e = s.serve r e m
  rw [answer, hmethod, hadmits]
  exact if_neg hm

/-- **No answer without the token, and nothing to learn from the refusal.** At an endpoint whatever
is not a refusal goes to a request that presents the token, and all other requests get the same
response for the same endpoint and method, from any site. A site whose token is empty refuses every
request. The paths at which this holds are those of the endpoints, where they are literal. -/
theorem refuses_without_token :
    (∀ s : Site, s.Literal → ∀ (path : List Char) (e : Endpoint),
      s.endpoint? path = some e ↔ path = Route.path s.baseUrl s.extensionName e) ∧
    (∀ (s : Site) (r : Request) (e : Endpoint), s.endpoint? r.target.path = some e →
      ((s.respond r).status ≠ 403 → r.token? = some s.token.secret ∧ s.token.secret ≠ "") ∧
      (¬ r.Presents s.token → s.respond r = .refusal e r.method) ∧
      (s.token.secret = "" → s.respond r = .refusal e r.method)) ∧
    ∀ (s s' : Site) (r r' : Request) (e : Endpoint), s.endpoint? r.target.path = some e →
      s'.endpoint? r'.target.path = some e → r.method = r'.method → ¬ r.Presents s.token →
        ¬ r'.Presents s'.token → s.respond r = s'.respond r' := by
  refine ⟨fun s hs path e => endpoint?_eq_some_iff hs, fun s r e he => ⟨?_, ?_, ?_⟩, ?_⟩
  · intro hstatus
    by_contra hpresents
    rw [respond_eq_refusal he hpresents] at hstatus
    exact hstatus rfl
  · exact respond_eq_refusal he
  · intro hempty
    exact respond_eq_refusal he fun hpresents => hpresents.2 hempty
  · intro s s' r r' e he he' hmethod hpresents hpresents'
    rw [respond_eq_refusal he hpresents, respond_eq_refusal he' hpresents', hmethod]

/-- Two sites with different tokens and templates, and two requests that differ in all but the path
and the method. -/
theorem refuses_alike :
    (⟨"/a", "ext", ⟨"abc"⟩, "x", fun _ => none⟩ : Site).respond
        ⟨"DELETE".toList, ⟨"/a/ext/hello".toList, some "token=abcd".toList⟩, [], []⟩ =
      (⟨"a/", "/ext", ⟨""⟩, "y", fun _ => some "EOF"⟩ : Site).respond
        ⟨"DELETE".toList, ⟨"/a/ext/hello".toList, none⟩,
          [⟨"Authorization".toList, "token abc".toList⟩], [0x7b]⟩ ∧
    (⟨"/a", "ext", ⟨"abc"⟩, "x", fun _ => none⟩ : Site).endpoint? "/a/ext/hello".toList =
      some .hello ∧
    (⟨"HEAD".toList, ⟨"/a/ext/hello".toList, none⟩,
      [⟨"Authorization".toList, "Bearer abc".toList⟩], []⟩ : Request).token? = some "abc" ∧
    (⟨"/a", "ext", ⟨"abc"⟩, "x", fun _ => none⟩ : Site).respond
        ⟨"HEAD".toList, ⟨"/a/ext/hello".toList, none⟩, [], []⟩ = .refusal .hello "HEAD".toList ∧
    (⟨"/a", "ext", ⟨""⟩, "x", fun _ => none⟩ : Site).respond
        ⟨"GET".toList, ⟨"/a/ext/hello".toList, some "token=".toList⟩, [], []⟩ =
      .refusal .hello "GET".toList :=
  ⟨refuses_without_token.2.2 _ _ _ _ .hello (by decide) (by decide) rfl
      (fun h => absurd h.1 (by decide +kernel)) (fun h => h.2 rfl),
    (refuses_without_token.1 _ (by unfold Literal; decide) _ _).2 (by decide),
    ((refuses_without_token.2.1 ⟨"/a", "ext", ⟨"abc"⟩, "x", fun _ => none⟩ _ .hello (by decide)).1
      (by decide +kernel)).1,
    (refuses_without_token.2.1 _ _ .hello (by decide)).2.1 (fun h => absurd h.1 (by decide)),
    (refuses_without_token.2.1 _ _ .hello (by decide)).2.2 rfl⟩

end Site

end NotebookGoto.Http
