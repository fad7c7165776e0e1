import NotebookGoto.Proofs.Http.Admission

/-!
# The status of an answer

A site looks at the path, the token, the method and the body in this order, and the first of them
that is wrong decides the status. What the body can be wrong about is always the client's fault:
rendering fails for no other reason than the line of the lookup (`Site.render_status`), so no answer
tells of an error of the server.

* **`Site.answer_status_of_presents`**: what decides the status of a request with the token.
* **`Site.respond_head`**: `HEAD` is answered like `GET`, without the body.
* **`Site.respond_status`**: the status of every answer.
-/

namespace NotebookGoto.Http

namespace Site

variable {s : Site} {r : Request} {e : Endpoint}

/-! ## Bodies -/

/-- A lookup that was read is rendered, or its line does not exist. -/
theorem render_status (s : Site) (r : Request) :
    (s.render r).status = 200 ∨ (s.render r).status = 400 := by
  rw [render]
  cases r.lookup with
  | error fault => exact .inr rfl
  | ok l =>
    by_cases hline : l.OnLine
    · simp only [Template.render, if_pos hline]
      exact .inl rfl
    · simp only [Template.render, if_neg hline]
      exact .inr rfl

/-- An endpoint only complains about what was sent to it. -/
theorem serve_status (s : Site) (r : Request) (e : Endpoint) (m : Method) :
    (s.serve r e m).status = 200 ∨ (s.serve r e m).status = 400 ∧ m = .post := by
  cases e with
  | hello => exact .inl rfl
  | code =>
    cases m with
    | post => exact (render_status s r).imp id fun h => ⟨h, rfl⟩
    | get | head => exact .inl rfl

/-! ## Methods -/

/-- The methods that an endpoint does not have. -/
theorem method?_eq_none_iff : method? e r = none ↔
    r.method ≠ "GET".toList ∧ r.method ≠ "HEAD".toList ∧
      ¬ (e = .code ∧ r.method = "POST".toList) := by
  rw [Option.eq_none_iff_forall_ne_some]
  constructor
  · intro h
    have hname (m : Method) (hm : m ∈ Method.allowed e) : r.method ≠ m.name.toList :=
      fun hname => h m (method?_eq_some_iff.2 ⟨hname, hm⟩)
    refine ⟨hname .get ?_, hname .head ?_, ?_⟩
    · cases e <;> decide
    · cases e <;> decide
    · rintro ⟨rfl, hpost⟩
      exact hname .post (by decide) hpost
  · rintro ⟨hget, hhead, hpost⟩ m hm
    obtain ⟨hname, hmem⟩ := method?_eq_some_iff.1 hm
    cases m with
    | get => exact hget hname
    | head => exact hhead hname
    | post =>
      cases e with
      | hello => revert hmem; decide
      | code => exact hpost ⟨rfl, hname⟩

/-- **Who is let in** is told of a method that the endpoint does not have, and otherwise gets what
the endpoint answers. -/
theorem answer_status_of_presents (h : r.Presents s.token) :
    (method? e r = none ∧ (s.answer r e).status = 405) ∨
      (∃ m, method? e r = some m ∧ (s.answer r e).status = (s.serve r e m).status) := by
  have hadmits : s.admits r = true := admits_iff.2 h
  cases hm : method? e r with
  | none =>
    left
    rw [answer, hm, hadmits]
    exact ⟨rfl, rfl⟩
  | some m =>
    right
    refine ⟨m, rfl, ?_⟩
    rw [answer, hm, hadmits]
    by_cases hhead : m = .head
    · simp only [if_pos hhead, if_true]
    · simp only [if_neg hhead, if_true]

theorem answer_status_eq_forbidden_iff : (s.answer r e).status = 403 ↔ ¬ r.Presents s.token := by
  constructor
  · intro hstatus h
    rcases answer_status_of_presents (e := e) h with ⟨-, h405⟩ | ⟨m, -, hserve⟩
    · omega
    · have := serve_status s r e m
      omega
  · intro h
    rw [answer_eq_refusal h]
    rfl

theorem answer_status_eq_methodNotAllowed_iff (h : r.Presents s.token) :
    (s.answer r e).status = 405 ↔ method? e r = none := by
  rcases answer_status_of_presents (e := e) h with ⟨hm, h405⟩ | ⟨m, hm, hserve⟩
  · exact iff_of_true h405 hm
  · have := serve_status s r e m
    rw [hm]
    exact iff_of_false (by omega) (Option.some_ne_none m)

/-- Only a `POST` can be wrong in its body. -/
theorem answer_status_of_allowed (h : r.Presents s.token) (hm : method? e r ≠ none) :
    (s.answer r e).status = 200 ∨ (s.answer r e).status = 400 ∧ r.method = "POST".toList := by
  rcases answer_status_of_presents (e := e) h with ⟨hnone, -⟩ | ⟨m, hsome, hserve⟩
  · exact absurd hnone hm
  · rw [hserve]
    refine (serve_status s r e m).imp id fun ⟨hbad, hpost⟩ => ⟨hbad, ?_⟩
    rw [(method?_eq_some_iff.1 hsome).1, hpost]
    rfl

/-- An endpoint has no other status than these. -/
theorem answer_status_mem (s : Site) (r : Request) (e : Endpoint) :
    (s.answer r e).status ∈ [200, 400, 403, 405] := by
  by_cases h : r.Presents s.token
  · by_cases hm : method? e r = none
    · simp [(answer_status_eq_methodNotAllowed_iff h).2 hm]
    · rcases answer_status_of_allowed h hm with hok | ⟨hbad, -⟩
      · simp [hok]
      · simp [hbad]
  · simp [answer_status_eq_forbidden_iff.2 h]

/-- An endpoint answers `HEAD` like `GET`, but for the body. -/
theorem answer_head (s : Site) (r : Request) (e : Endpoint) :
    s.answer { r with method := "HEAD".toList } e =
      { s.answer { r with method := "GET".toList } e with body := [] } := by
  have hhead : method? e { r with method := "HEAD".toList } = some .head :=
    method?_eq_some_iff.2 ⟨rfl, by cases e <;> decide⟩
  have hget : method? e { r with method := "GET".toList } = some .get :=
    method?_eq_some_iff.2 ⟨rfl, by cases e <;> decide⟩
  -- Neither the token nor what is served depends on which of the two methods it is.
  have hadmits : s.admits { r with method := "HEAD".toList } =
      s.admits { r with method := "GET".toList } := rfl
  have hserve : s.serve { r with method := "HEAD".toList } e .head =
      s.serve { r with method := "GET".toList } e .get := by
    cases e <;> rfl
  rw [answer, answer, hhead, hget]
  simp only [hadmits, hserve, if_true, if_neg (show Method.get ≠ .head by decide)]

/-- **`HEAD` is answered like `GET`**, with the same status and header fields and no body. -/
theorem respond_head (s : Site) (r : Request) :
    s.respond { r with method := "HEAD".toList } =
      { s.respond { r with method := "GET".toList } with body := [] } := by
  rw [respond, respond]
  cases s.endpoint? r.target.path with
  | none => rfl
  | some e => exact answer_head s r e

/-! ## Paths -/

/-- Where paths are literal, all but those of the endpoints lead nowhere. -/
theorem endpoint?_eq_none_iff (hs : s.Literal) {path : List Char} :
    s.endpoint? path = none ↔ ∀ e, path ≠ Route.path s.baseUrl s.extensionName e := by
  rw [Option.eq_none_iff_forall_ne_some]
  exact forall_congr' fun e => not_congr (endpoint?_eq_some_iff hs)

/-- **The status of every answer.** Where paths are literal a request is answered with 404 just when
its path is that of no endpoint. At an endpoint it gets 403 unless it presents the token; then 405
if the endpoint does not have its method; and then 200, or 400 for a `POST`. There is no other
status, so the server is never at fault. Whoever asks by `HEAD` gets the answer to `GET` without its
body. -/
theorem respond_status (s : Site) (hs : s.Literal) (htoken : s.token.secret ≠ "") :
    (∀ r : Request,
      ((s.respond r).status = 404 ↔
        ∀ e, r.target.path ≠ Route.path s.baseUrl s.extensionName e) ∧
      (∀ e, r.target.path = Route.path s.baseUrl s.extensionName e →
        ((s.respond r).status = 403 ↔ r.token? ≠ some s.token.secret) ∧
        (r.token? = some s.token.secret →
          ((s.respond r).status = 405 ↔ r.method ≠ "GET".toList ∧ r.method ≠ "HEAD".toList ∧
            ¬ (e = .code ∧ r.method = "POST".toList)) ∧
          ((s.respond r).status ≠ 405 → (s.respond r).status = 200 ∨
            (s.respond r).status = 400 ∧ r.method = "POST".toList))) ∧
      (s.respond r).status < 500) ∧
    ∀ r : Request, s.respond { r with method := "HEAD".toList } =
      { s.respond { r with method := "GET".toList } with body := [] } := by
  have hpresents (r : Request) : r.Presents s.token ↔ r.token? = some s.token.secret :=
    and_iff_left htoken
  refine ⟨fun r => ?_, respond_head s⟩
  rw [← endpoint?_eq_none_iff hs]
  cases he : s.endpoint? r.target.path with
  | none =>
    have hrespond : s.respond r = .empty 404 := by rw [respond, he]
    rw [hrespond]
    refine ⟨iff_of_true rfl rfl, fun e hpath => ?_, by decide⟩
    exact absurd hpath ((endpoint?_eq_none_iff hs).1 he e)
  | some e =>
    have hrespond : s.respond r = s.answer r e := by rw [respond, he]
    have hstatus := answer_status_mem s r e
    simp only [List.mem_cons, List.not_mem_nil, or_false] at hstatus
    rw [hrespond]
    refine ⟨iff_of_false (by omega) (Option.some_ne_none e), fun e' hpath => ?_, by omega⟩
    have hsame : e' = e := by
      rw [(endpoint?_eq_some_iff hs).2 hpath] at he
      exact Option.some.inj he
    subst hsame
    refine ⟨by rw [answer_status_eq_forbidden_iff, hpresents], fun h => ?_⟩
    have hmethod : (s.answer r e').status = 405 ↔ method? e' r = none :=
      answer_status_eq_methodNotAllowed_iff ((hpresents r).2 h)
    refine ⟨by rw [hmethod, method?_eq_none_iff], fun h405 => ?_⟩
    exact answer_status_of_allowed ((hpresents r).2 h) fun hm => h405 (hmethod.2 hm)

/-- A site at which a method in small letters is not allowed, no method is without the token, and a
path with one more slash leads nowhere. -/
theorem respond_status_of_strays :
    let s : Site := ⟨"/a", "ext", ⟨"abc"⟩, "x", fun _ => none⟩
    let r (method path query : String) : Request :=
      ⟨method.toList, ⟨path.toList, some query.toList⟩, [], [0x7b]⟩
    s.Literal ∧ s.token.secret ≠ "" ∧
    (s.respond (r "get" "/a/ext/hello" "token=abc")).status = 405 ∧
    (s.respond (r "get" "/a/ext/hello" "token=ab")).status = 403 ∧
    (s.respond (r "get" "/a/ext/hello/" "token=abc")).status = 404 ∧
    ((s.respond (r "POST" "/a/ext/introspection-code" "token=abc")).status = 200 ∨
      (s.respond (r "POST" "/a/ext/introspection-code" "token=abc")).status = 400) ∧
    s.respond (r "HEAD" "/a/ext/hello" "token=abc") =
      { s.respond (r "GET" "/a/ext/hello" "token=abc") with body := [] } := by
  intro s r
  have hs : s.Literal := by unfold Literal; decide
  have htoken : s.token.secret ≠ "" := by decide
  have hall := respond_status s hs htoken
  have htoken' : (r "get" "/a/ext/hello" "token=abc").token? = some s.token.secret := by
    decide +kernel
  refine ⟨hs, htoken, ?_, ?_, ?_, ?_, hall.2 (r "HEAD" "/a/ext/hello" "token=abc")⟩
  · exact (((hall.1 _).2.1 .hello (by decide)).2 htoken').1.2 (by decide)
  · exact ((hall.1 _).2.1 .hello (by decide)).1.2 (by decide +kernel)
  · exact (hall.1 _).1.2 fun e => by cases e <;> decide
  · have hpost := ((hall.1 (r "POST" "/a/ext/introspection-code" "token=abc")).2.1 .code
      (by decide)).2 (by decide +kernel)
    exact (hpost.2 fun h405 => (hpost.1.1 h405).2.2 ⟨rfl, rfl⟩).imp id And.left

end Site

end NotebookGoto.Http
