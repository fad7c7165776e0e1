import NotebookGoto.Program.Server
import NotebookGoto.Proofs.Config.Check
import NotebookGoto.Proofs.Http.Capture

/-!
# The routes of a checked configuration

The check looks at the base path and at the extension's name, each by itself, and the routes are
joined from both. What was checked is what is joined: the segments of a route are those of the base
path without the slashes at its ends, then the extension's name, then the endpoint
(`Config.routes_of_check`). Two configurations have the same routes where these segments are the
same.

No segment of a route starts with the mark of a capture or of a wildcard. But the mark may stand
further inside, and there it captures too. So the routes stand for themselves only where neither
setting holds one (`Config.literal_iff_of_check`).
-/

namespace NotebookGoto.Config

open Http Text

/-! ## Captures -/

/-- Routes hold a mark just where the settings do, for the checks and the joining lose nothing but
slashes and the endpoints' names hold none. -/
theorem forall_segment_not_mem_iff {c : Config} (hcheck : c.check = .ok ()) {mark : Char}
    (hslash : mark ≠ '/') (hname : ∀ e : Endpoint, mark ∉ e.name.toList) :
    (∀ e, ∀ segment ∈ (Route.path c.baseUrl c.extensionName e).splitOn '/', mark ∉ segment) ↔
      mark ∉ c.baseUrl.toList ++ c.extensionName.toList := by
  constructor
  · intro hfree hmem
    obtain ⟨segment, hsegment, hin⟩ := Route.mem_segment_of_mem hslash (List.mem_append.1 hmem)
    have hroute := hfree .hello segment
    rw [Route.splitOn_path c.baseUrl (isSegment_of_check hcheck)] at hroute
    exact hroute (by simp [hsegment]) hin
  · intro hfree e segment hsegment hin
    exact Route.not_mem_path hslash hname hfree e (mem_of_mem_splitOn hsegment hin)

/-- **Where the routes of a checked configuration are literal.** Their segments never start with a
mark and hold no brace. None of them holds a mark at all just where neither the base path nor the
extension's name does, and then the paths of the two endpoints are the only ones that lead to them.
A colon inside one of the settings, with a name behind it and no other mark in its segment, opens
the site to all paths with another text in the place of the capture. -/
theorem literal_iff_of_check (c : Config) (token : Token) (template : String)
    (hcheck : c.check = .ok ()) :
    (∀ e, ∀ segment ∈ (Route.path c.baseUrl c.extensionName e).splitOn '/', ¬ IsPattern segment) ∧
    ((∀ e, ∀ segment ∈ (Route.path c.baseUrl c.extensionName e).splitOn '/',
        ':' ∉ segment ∧ '*' ∉ segment) ↔
      ':' ∉ c.baseUrl.toList ++ c.extensionName.toList ∧
        '*' ∉ c.baseUrl.toList ++ c.extensionName.toList) ∧
    (':' ∉ c.baseUrl.toList ++ c.extensionName.toList →
      '*' ∉ c.baseUrl.toList ++ c.extensionName.toList →
        ∀ (path : List Char) (e : Endpoint), (c.site token template).endpoint? path = some e ↔
          path = Route.path c.baseUrl c.extensionName e) ∧
    ((∀ segment ∈ Route.segments c.baseUrl c.extensionName, Route.Registrable segment) →
      ':' ∈ c.baseUrl.toList ++ c.extensionName.toList →
        ∃ before literal name behind,
          Route.segments c.baseUrl c.extensionName = before ++ (literal ++ ':' :: name) :: behind ∧
          ∀ value : List Char, '/' ∉ value →
            let stray :=
              Route.ofWords (before ++ (literal ++ value) :: (behind ++ ["hello".toList]))
            (c.site token template).endpoint? stray = some .hello ∧
              (value ≠ ':' :: name → ∀ e, stray ≠ Route.path c.baseUrl c.extensionName e)) := by
  have hext := isSegment_of_check hcheck
  have hcolons := forall_segment_not_mem_iff (c := c) hcheck (show ':' ≠ '/' by decide)
    fun e => by cases e <;> decide
  have hstars := forall_segment_not_mem_iff (c := c) hcheck (show '*' ≠ '/' by decide)
    fun e => by cases e <;> decide
  refine ⟨?_, ?_, ?_, ?_⟩
  · intro e segment hmem
    rw [Route.splitOn_path c.baseUrl hext] at hmem
    rcases List.mem_cons.1 hmem with rfl | hmem
    · simp [IsPattern]
    rcases List.mem_append.1 hmem with hmem | hmem
    · exact not_isPattern_of_mem_segments hcheck hmem
    · rw [List.mem_singleton.1 hmem]
      cases e <;> simp [IsPattern, Endpoint.name]
  · rw [← hcolons, ← hstars]
    simp only [forall_and]
  · intro hcolon hstar path e
    exact Site.endpoint?_eq_some_iff (s := c.site token template) ⟨hcolon, hstar⟩
  · intro htaken hcolon
    exact Site.reached_through_capture (s := c.site token template) hext htaken hcolon

/-- A configuration that passes the check. -/
def atColon : Config :=
  ⟨"127.0.0.1:8888", "/user:name/", "e", none⟩

/-- The base path has one capture, and what stands behind it holds no mark. -/
theorem registrable_atColon :
    ∀ segment ∈ Route.segments atColon.baseUrl atColon.extensionName,
      Route.Registrable segment := by
  have hsegments : Route.segments atColon.baseUrl atColon.extensionName =
      ["user:name".toList, "e".toList] := by decide
  rw [hsegments, List.forall_mem_cons, List.forall_mem_singleton]
  refine ⟨⟨by decide, fun _ => ⟨"user".toList, "name".toList, ?_⟩⟩, by decide, fun hcolon => ?_⟩
  · exact ⟨by decide, by decide, by decide, by decide⟩
  · exact absurd hcolon (by decide)

/-- **A capture passes the check** if it does not stand at the start of its segment. The name behind
the colon is not part of the path, so the server answers below another one. A wildcard passes as
well, which no router takes. -/
theorem capture_passes_check :
    atColon.check = .ok () ∧
      "user:name".toList ∈ (Route.path atColon.baseUrl atColon.extensionName .hello).splitOn '/' ∧
      (atColon.site ⟨"t"⟩ "").endpoint? "/users/e/hello".toList = some .hello ∧
      "/users/e/hello".toList ≠ Route.path atColon.baseUrl atColon.extensionName .hello ∧
      "/users/e/hello".toList ≠ Route.path atColon.baseUrl atColon.extensionName .code ∧
      ({ atColon with baseUrl := "/a*b/" } : Config).check = .ok () := by
  decide +kernel

/-- A base path of two segments, with slashes at its end and one more between them. -/
def nested : Config :=
  ⟨"[::1]:80", "/user//al.ice//", "/ext/", none⟩

theorem literal_of_nested :
    nested.check = .ok () ∧ atColon.check = .ok () ∧
      (∀ path e, (nested.site ⟨"t"⟩ "").endpoint? path = some e ↔
        path = Route.path nested.baseUrl nested.extensionName e) ∧
      ∃ stray, (atColon.site ⟨"t"⟩ "").endpoint? stray = some .hello ∧
        ∀ e, stray ≠ Route.path atColon.baseUrl atColon.extensionName e := by
  have hnested : nested.check = .ok () := by decide +kernel
  have hcolon : atColon.check = .ok () := by decide +kernel
  obtain ⟨before, literal, name, behind, -, hreached⟩ :=
    (literal_iff_of_check atColon ⟨"t"⟩ "" hcolon).2.2.2 registrable_atColon (by decide)
  obtain ⟨hello, hstray⟩ := hreached [] nofun
  exact ⟨hnested, hcolon,
    (literal_iff_of_check nested ⟨"t"⟩ "" hnested).2.2.1 (by decide) (by decide),
    _, hello, hstray nofun⟩

/-! ## Segments -/

/-- **The routes of a checked configuration, and what is reported of another one.** A route is made
of the segments of the base path, one segment for the extension's name and one for what is named,
with no slash at its end; so the two endpoints have different routes, and the routes of two
configurations are the same just where their segments are. A configuration is refused just where a
setting is wrong, and the setting that is reported is the first one that is. -/
theorem routes_of_check :
    (∀ c : Config, c.check = .ok () →
      (∀ name : String, Route.IsSegment name.toList →
        (Route.pathTo c.baseUrl c.extensionName name).splitOn '/' =
            [] :: (Route.baseSegments c.baseUrl ++
              [Route.trimSlashes c.extensionName.toList, name.toList]) ∧
          Route.pathTo c.baseUrl c.extensionName name =
            Route.ofWords (Route.baseSegments c.baseUrl) ++
              '/' :: Route.trimSlashes c.extensionName.toList ++ '/' :: name.toList ∧
          Route.endsInSlash (Route.pathTo c.baseUrl c.extensionName name) = false) ∧
      Route.IsSegment (Route.trimSlashes c.extensionName.toList) ∧
      Route.path c.baseUrl c.extensionName .hello ≠ Route.path c.baseUrl c.extensionName .code) ∧
    (∀ c c' : Config, c.check = .ok () → c'.check = .ok () →
      ((∀ e, Route.path c.baseUrl c.extensionName e = Route.path c'.baseUrl c'.extensionName e) ↔
        Route.baseSegments c.baseUrl ++ [Route.trimSlashes c.extensionName.toList] =
          Route.baseSegments c'.baseUrl ++ [Route.trimSlashes c'.extensionName.toList])) ∧
    (∀ c : Config, (∃ e, c.check = .error e) ↔ ∃ key, c.Wrong key) ∧
    (∀ (c : Config) (e : Error), c.check = .error e → ∃ key fault, e = .setting key fault) ∧
    ∀ (c : Config) (key : Setting),
      (∃ fault, c.check = .error (.setting key fault)) ↔ c.FirstWrong key := by
  refine ⟨fun c hcheck => ⟨fun name hname => ?_, isSegment_of_check hcheck, ?_⟩, ?_, ?_, ?_, ?_⟩
  · have hext := isSegment_of_check hcheck
    have hwords := Route.pathTo_eq_ofWords c.baseUrl hext hname
    -- The segments, the text and its end are all read off the list of segments.
    refine ⟨?_, ?_, ?_⟩
    · rw [Route.splitOn_pathTo c.baseUrl hext hname, Route.segments, List.append_assoc]
      rfl
    · rw [hwords, Route.segments, Route.ofWords_append, Route.ofWords_append]
      simp [Route.ofWords]
    · rw [hwords, Route.ofWords_append]
      have hends : Route.ofWords [name.toList] = ['/'] ++ name.toList := by simp [Route.ofWords]
      rw [hends, ← List.append_assoc]
      exact Route.endsInSlash_append_of_isSegment hname _
  · intro heq
    cases Route.path_injective heq
  · intro c c' hcheck hcheck'
    have hsame := Route.path_eq_iff c.baseUrl c'.baseUrl
      (isSegment_of_check hcheck) (isSegment_of_check hcheck')
    exact ⟨fun h => (hsame .hello).1 (h .hello), fun h e => (hsame e).2 h⟩
  · intro c
    rcases check_cases c with ⟨hok, hright⟩ | ⟨key, fault, herror, hwrong⟩
    · rw [hok]
      constructor
      · rintro ⟨_, h⟩
        cases h
      · rintro ⟨key, hwrong⟩
        exact absurd hwrong (hright key)
    · exact iff_of_true ⟨_, herror⟩ ⟨key, hwrong.1⟩
  · intro c e he
    rcases check_cases c with ⟨hok, -⟩ | ⟨key, fault, herror, -⟩
    · rw [hok] at he
      cases he
    · rw [herror] at he
      exact ⟨key, fault, (Except.error.inj he).symm⟩
  · exact fun c key => exists_check_eq_error_iff

/-- Slashes inside the base path stay, those at its ends do not. Of two wrong settings the one that
is looked at first is reported. -/
theorem routes_of_nested :
    nested.check = .ok () ∧ ({ nested with baseUrl := "//user//al.ice" } : Config).check = .ok () ∧
      (Route.pathTo nested.baseUrl nested.extensionName "hello").splitOn '/' =
        [[], "user".toList, [], "al.ice".toList, "ext".toList, "hello".toList] ∧
      (∀ e, Route.path nested.baseUrl nested.extensionName e =
        Route.path "//user//al.ice" nested.extensionName e) ∧
      ({ nested with baseUrl := "/a/:b", extensionName := "//" } : Config).FirstWrong .baseUrl := by
  have hnested : nested.check = .ok () := by decide +kernel
  have hother : ({ nested with baseUrl := "//user//al.ice" } : Config).check = .ok () := by
    decide +kernel
  obtain ⟨hroutes, hsame, -, -, hfirst⟩ := routes_of_check
  refine ⟨hnested, hother, ?_, ?_, ?_⟩
  · rw [((hroutes nested hnested).1 "hello" ⟨by decide, by decide⟩).1]
    decide
  · exact (hsame nested { nested with baseUrl := "//user//al.ice" } hnested hother).2 (by decide)
  · exact (hfirst _ .baseUrl).1 ⟨.notLiteral ":b", by decide +kernel⟩

end NotebookGoto.Config
