import NotebookGoto.Program.Server
import NotebookGoto.Proofs.Config.Routes
import NotebookGoto.Proofs.Http.Query

/-!
# The announced URL

A server that had to make up its token announces where to present it: the path of the greeting with
the token in its query. Three things have to agree for that: the path is joined once for the
announcement and once for the route, the token is written into a query and read back from it, and
the token that is read is compared with the one that was made up. They do agree where the settings
hold no marks (`Route.isPlain`), as long as the URL can be sent at all.

* **`Config.greeting_of_token`**: what is answered to a token at that path.
* **`Program.Ready.announced_url_works`**: the announced URL, and any other in its place.
* **`Program.Ready.announced_url_out_of_reach`**: a URL that is too long.
-/

namespace NotebookGoto

open Http Text

/-! ## Made-up tokens -/

/-- A digit to base sixteen in lower case. -/
def Http.Token.isFreshDigit (c : Char) : Bool :=
  c ∈ "0123456789abcdef".toList

/-- Whether a text has the form of a token that was made up: 32 such digits. -/
def Http.Token.IsFresh (token : String) : Prop :=
  token.toList.length = 32 ∧ token.toList.all Http.Token.isFreshDigit = true

instance (token : String) : Decidable (Http.Token.IsFresh token) :=
  inferInstanceAs
    (Decidable (token.toList.length = 32 ∧ token.toList.all Http.Token.isFreshDigit = true))

namespace Http.Token

/-- What holds of the sixteen digits holds of all characters of such a token. -/
theorem IsFresh.forall_mem {p : Char → Prop} [DecidablePred p] {token : String} (h : IsFresh token)
    (hdigits : "0123456789abcdef".toList.all (p ·) = true) : ∀ c ∈ token.toList, p c := by
  intro c hc
  exact forall_mem_of_all hdigits c (of_decide_eq_true (List.all_eq_true.1 h.2 c hc))

theorem IsFresh.ne_empty {token : String} (h : IsFresh token) : token ≠ "" := by
  rintro rfl
  exact absurd h.1 (by decide)

theorem IsFresh.length_encode {token : String} (h : IsFresh token) :
    (Utf8.encode token.toList).length = 32 := by
  have hascii : ∀ c ∈ token.toList, c.toNat < 0x80 :=
    h.forall_mem (by decide)
  rw [Utf8.length_encode_of_ascii hascii, h.1]

end Http.Token

/-! ## Settings without marks -/

/-- A letter, a digit or one of the marks that mean nothing, or a slash. Whatever is not of ASCII
counts as a letter. -/
def Http.Route.isPlain (c : Char) : Bool :=
  c.isAlphanum || 0x80 ≤ c.toNat || c ∈ ['-', '.', '_', '~', '/']

/-- Whether the paths of a configuration hold nothing but such characters. -/
def Config.IsPlain (c : Config) : Prop :=
  (c.baseUrl.toList ++ c.extensionName.toList).all Route.isPlain = true

instance (c : Config) : Decidable c.IsPlain :=
  inferInstanceAs
    (Decidable ((c.baseUrl.toList ++ c.extensionName.toList).all Route.isPlain = true))

namespace Http.Route

theorem inPath_of_isPlain {c : Char} (h : isPlain c = true) : Target.inPath c = true := by
  rcases Nat.lt_or_ge c.toNat 0x80 with hascii | hhigh
  · exact of_ascii (q := fun c => Target.inPath c = true) (by decide) hascii h
  · -- Controls and the marks that a path cannot hold are all of ASCII.
    have hmarks : c ∉ ['#', '<', '>', '?', '\x60'] := by
      intro hmem
      have hlow : ∀ d ∈ ['#', '<', '>', '?', '\x60'], d.toNat < 0x80 :=
        forall_mem_of_all (by decide)
      have := hlow c hmem
      omega
    have hcontrol : Target.isControl c = false := by
      unfold Target.isControl
      simp
      omega
    rw [Target.inPath, hcontrol, decide_eq_true hmarks]
    rfl

end Http.Route

namespace Config

variable {c : Config}

theorem IsPlain.forall_mem (h : c.IsPlain) :
    ∀ d ∈ c.baseUrl.toList ++ c.extensionName.toList, Route.isPlain d = true :=
  List.all_eq_true.1 h

theorem isPlain_of_mem_path (h : c.IsPlain) {e : Endpoint} {d : Char}
    (hd : d ∈ Route.path c.baseUrl c.extensionName e) : Route.isPlain d = true := by
  rcases Route.mem_of_mem_path hd with rfl | hsettings | hname
  · decide
  · exact h.forall_mem d hsettings
  · have hletters : ∀ d ∈ e.name.toList, Route.isPlain d = true := by
      cases e <;> exact forall_mem_of_all (by decide)
    exact hletters d hname

theorem literal_of_isPlain (h : c.IsPlain) (token : Token) (template : String) :
    (c.site token template).Literal :=
  ⟨not_mem_of_all_class h.forall_mem (by decide), not_mem_of_all_class h.forall_mem (by decide)⟩

theorem not_isPattern_of_isPlain {segment : List Char} (h : ∀ d ∈ segment, Route.isPlain d = true) :
    ¬ IsPattern segment := by
  rintro (hhead | hhead | hbrace | hbrace)
  · exact absurd (h _ (List.mem_of_head? hhead)) (by decide)
  · exact absurd (h _ (List.mem_of_head? hhead)) (by decide)
  · exact absurd (h _ hbrace) (by decide)
  · exact absurd (h _ hbrace) (by decide)

/-- Without marks no segment can be wrong. -/
theorem check_of_isPlain (h : c.IsPlain) (hbind : SocketAddress.ofText? c.bind.toList ≠ none)
    (hslash : c.baseUrl.toList.head? = some '/')
    (hname : Route.IsSegment (Route.trimSlashes c.extensionName.toList)) : c.check = .ok () := by
  rw [check_eq_ok_iff]
  rintro (_ | _ | _)
  · exact hbind
  · rintro (hnone | ⟨segment, hmem, hpattern⟩)
    · exact hnone hslash
    · refine not_isPattern_of_isPlain (fun d hd => ?_) hpattern
      exact h.forall_mem d (List.mem_append_left _ (mem_of_mem_splitOn hmem hd))
  · rintro (hnil | hmany | ⟨segment, hmem, hpattern⟩)
    · exact hname.1 hnil
    · exact hname.2 hmany
    · refine not_isPattern_of_isPlain (fun d hd => ?_) hpattern
      apply h.forall_mem d (List.mem_append_right _ _)
      apply (List.dropWhile_suffix _).mem
      exact mem_of_mem_trimEndBy (mem_of_mem_splitOn hmem hd)

end Config

/-! ## Tokens that are presented -/

/-- The path and query at which a token is presented for the greeting. -/
def Config.greetingAt (c : Config) (token : String) : List Char :=
  Route.path c.baseUrl c.extensionName .hello ++ "?token=".toList ++ token.toList

/-- Header fields that can be sent, with no credential among them. -/
structure Http.Header.Anonymous (headers : List Header) : Prop where
  sendable : (headers.all fun h => Header.isToken h.name && h.value.all Header.inValue) = true
  nameless : ∀ h ∈ headers, Header.sameName h.name "authorization".toList = false

namespace Config

variable {c : Config} {token : String}

theorem length_greetingAt {other : String} (h : Token.IsFresh token) (h' : Token.IsFresh other) :
    (Utf8.encode (c.greetingAt token)).length = (Utf8.encode (c.greetingAt other)).length := by
  simp only [greetingAt, Utf8.encode_append, List.length_append, h.length_encode, h'.length_encode]

theorem ofText?_greetingAt (hplain : c.IsPlain) (hfresh : Token.IsFresh token) :
    Target.ofText? (c.greetingAt token) =
      if 65534 < (Utf8.encode (c.greetingAt token)).length then none
      else some ⟨Route.path c.baseUrl c.extensionName .hello,
        some ("token=".toList ++ token.toList)⟩ := by
  have hquery : ∀ d ∈ "token=".toList ++ token.toList, Target.inQuery d = true := by
    intro d hd
    rcases List.mem_append.1 hd with hd | hd
    · exact forall_mem_of_all (p := fun d => Target.inQuery d = true) (by decide) d hd
    · exact hfresh.forall_mem (p := fun d => Target.inQuery d = true) (by decide) d hd
  have htext : c.greetingAt token = Route.path c.baseUrl c.extensionName .hello ++
      '?' :: ("token=".toList ++ token.toList) := by
    simp [greetingAt]
  rw [htext]
  refine Target.ofText?_query ?_ (fun d hd => ?_) hquery
  · rfl
  · exact Route.inPath_of_isPlain (isPlain_of_mem_path hplain hd)

/-- **What is answered to a token at the path of the greeting**, if it can be sent there. -/
theorem greeting_of_token (hplain : c.IsPlain) (hfresh : Token.IsFresh token)
    (hshort : (Utf8.encode (c.greetingAt token)).length ≤ 65534) {headers : List Header}
    (hheaders : Header.Anonymous headers) (body : Bytes) {t : Token} (ht : t.secret ≠ "")
    (template : String) :
    ∃ request, Request.make? "GET".toList (c.greetingAt token) headers body = some request ∧
      (c.site t template).respond request =
        if token = t.secret then .json 200 (Wire.greeting.toText Endpoint.greeting)
        else .forbidden := by
  -- Path and token are read the same way whatever token the site has; only the comparison differs.
  obtain ⟨request, hrequest⟩ : ∃ request : Request, request =
      ⟨"GET".toList, ⟨Route.path c.baseUrl c.extensionName .hello,
        some ("token=".toList ++ token.toList)⟩, headers, body⟩ := ⟨_, rfl⟩
  have htoken : request.token? = some token := by
    have hmarks : ∀ d ∈ token.toList, Query.isPlain d = true := hfresh.forall_mem (by decide)
    rw [Request.token?_of_query (t := token.toList) (by simpa [hrequest] using hheaders.nameless)
      (by rw [hrequest]) hmarks, String.ofList_toList]
  have hpath : (c.site t template).endpoint? request.target.path = some .hello := by
    rw [hrequest]
    exact (Site.endpoint?_eq_some_iff (literal_of_isPlain hplain t template)).2 rfl
  refine ⟨request, ?_, ?_⟩
  · have hmethod : Header.isToken "GET".toList = true := by decide
    rw [Request.make?, hmethod, hheaders.sendable, ofText?_greetingAt hplain hfresh,
      if_neg (Nat.not_lt.2 hshort), hrequest]
    rfl
  · split
    · rename_i hsame
      have hasked : (c.site t template).Asked .hello .get request := by
        refine ⟨hpath, by rw [hrequest]; rfl, by decide, ?_, ht⟩
        rw [htoken, hsame]
        rfl
      rw [Site.respond_of_asked hasked (by decide)]
      rfl
    · rename_i hother
      have hnot : ¬ request.Presents (c.site t template).token := by
        rintro ⟨hsome, -⟩
        rw [htoken] at hsome
        exact hother (Option.some.inj hsome)
      have hmethod : request.method = "GET".toList := by rw [hrequest]
      rw [Site.respond_eq_refusal hpath hnot, hmethod]
      decide

end Config

/-! ## The server that is started -/

namespace Program.Ready

theorem ofConfig_of_check {c : Config} (hcheck : c.check = .ok ()) (fresh : String) :
    ∃ address, SocketAddress.ofText? c.bind.toList = some address ∧
      ofConfig c fresh = .ok ⟨address, c.site ⟨(c.ensureToken fresh).1⟩ Template.jedi,
        (c.ensureToken fresh).2⟩ := by
  have hbind : ¬ c.Wrong .bind := Config.check_eq_ok_iff.1 hcheck .bind
  obtain ⟨address, haddress⟩ := Option.ne_none_iff_exists'.1 hbind
  refine ⟨address, haddress, ?_⟩
  rw [ofConfig, hcheck, Config.address, haddress]
  rfl

/-- **The announced URL works.** A checked configuration without a token, whose paths hold no marks,
is served with the token that was made up, and the URL with this token is announced. Asked for
without a credential in a header field, it is answered with the greeting. With any other token of
the same form in its place the answer is the refusal. -/
theorem announced_url_works (c : Config) (fresh : String) (hcheck : c.check = .ok ())
    (hnone : c.token = none) (hplain : c.IsPlain) (hfresh : Token.IsFresh fresh)
    (hshort : (Utf8.encode (c.greetingAt fresh)).length ≤ 65534) :
    ∃ ready, ofConfig c fresh = .ok ready ∧ ready.announced? = some (c.greetingAt fresh) ∧
      ∀ (headers : List Header) (body : Bytes), Header.Anonymous headers →
        (∃ request, Request.make? "GET".toList (c.greetingAt fresh) headers body = some request ∧
          ready.site.respond request = .json 200 (Wire.greeting.toText Endpoint.greeting)) ∧
        ∀ other : String, Token.IsFresh other → other ≠ fresh →
          ∃ request, Request.make? "GET".toList (c.greetingAt other) headers body = some request ∧
            ready.site.respond request = .forbidden := by
  have hensure : c.ensureToken fresh = (fresh, true) := by rw [Config.ensureToken, hnone]
  obtain ⟨address, -, hready⟩ := ofConfig_of_check hcheck fresh
  rw [hensure] at hready
  refine ⟨_, hready, rfl, fun headers body hheaders => ⟨?_, fun other hother hne => ?_⟩⟩
  · have hanswer := Config.greeting_of_token hplain hfresh hshort hheaders body
      (t := ⟨fresh⟩) hfresh.ne_empty Template.jedi
    rwa [if_pos rfl] at hanswer
  · rw [Config.length_greetingAt hfresh hother] at hshort
    have hanswer := Config.greeting_of_token hplain hother hshort hheaders body
      (t := ⟨fresh⟩) hfresh.ne_empty Template.jedi
    rwa [if_neg hne] at hanswer

/-- A token that was made up. -/
def madeUp : String :=
  "0123456789abcdef0123456789abcdef"

/-- A server below the path of a user, at an address of version 6. The other token differs in its
last digit. -/
theorem announced_url_of_user :
    let c : Config := ⟨"[::1]:80", "/~al.ice//lab-1/", "/ext_2/", none⟩
    let headers : List Header := [⟨"accept".toList, "*/*".toList⟩]
    c.check = .ok () ∧ c.greetingAt madeUp =
        "/~al.ice//lab-1/ext_2/hello?token=0123456789abcdef0123456789abcdef".toList ∧
      ∃ ready, ofConfig c madeUp = .ok ready ∧
        (∃ request, Request.make? "GET".toList (c.greetingAt madeUp) headers [] = some request ∧
          ready.site.respond request = .json 200 (Wire.greeting.toText Endpoint.greeting)) ∧
        ∃ request, Request.make? "GET".toList (c.greetingAt "0123456789abcdef0123456789abcdee")
            headers [] = some request ∧
          ready.site.respond request = .forbidden := by
  intro c headers
  have hcheck : c.check = .ok () := by decide +kernel
  obtain ⟨ready, hready, -, hworks⟩ := announced_url_works c madeUp hcheck rfl (by decide)
    (by decide) (by decide +kernel)
  obtain ⟨hgreeting, hother⟩ := hworks headers [] ⟨by decide, by decide⟩
  exact ⟨hcheck, by decide, ready, hready, hgreeting, hother _ (by decide) (by decide)⟩

/-! ## Out of reach -/

/-- A configuration with a number of letters in its base path. -/
def wide (n : Nat) : Config :=
  ⟨"127.0.0.1:8888", String.ofList ('/' :: List.replicate n 'a'), "e", none⟩

theorem isPlain_wide (n : Nat) : (wide n).IsPlain := by
  unfold Config.IsPlain
  rw [List.all_eq_true]
  intro d hd
  have hparts : d ∈ ('/' :: List.replicate n 'a') ++ ['e'] := by
    simpa [wide] using hd
  rcases List.mem_append.1 hparts with hd | hd
  · rcases List.mem_cons.1 hd with rfl | hd
    · decide
    · rw [List.eq_of_mem_replicate hd]
      decide
  · rw [List.mem_singleton.1 hd]
    decide

theorem check_wide (n : Nat) : (wide n).check = .ok () := by
  apply Config.check_of_isPlain (isPlain_wide n)
  · show SocketAddress.ofText? "127.0.0.1:8888".toList ≠ none
    decide +kernel
  · simp [wide]
  · show Route.IsSegment (Route.trimSlashes "e".toList)
    exact ⟨by decide, by decide⟩

theorem long_greetingAt_wide {n : Nat} (h : 65534 < n) (token : String) :
    65534 < (Utf8.encode ((wide n).greetingAt token)).length := by
  have hletters : Route.IsSegment (List.replicate n 'a') :=
    Route.isSegment_replicate (by omega) (by decide)
  have hpath : (List.replicate n 'a').length ≤
      (Route.path (wide n).baseUrl (wide n).extensionName .hello).length :=
    Route.length_le_length_path_of_isSegment hletters (Config.isSegment_of_check (check_wide n))
      .hello
  have hbytes := Utf8.length_le_length_encode ((wide n).greetingAt token)
  rw [Config.greetingAt, List.length_append, List.length_append] at hbytes
  rw [List.length_replicate] at hpath
  rw [Config.greetingAt]
  omega

/-- **Not every announced URL can be asked for.** The check does not look at the length of the base
path, so the URL may be longer than a target may be. Then there is no request for it. -/
theorem announced_url_out_of_reach :
    (wide 65600).check = .ok () ∧ (wide 65600).token = none ∧ (wide 65600).IsPlain ∧
      Token.IsFresh madeUp ∧
      ∃ ready url, ofConfig (wide 65600) madeUp = .ok ready ∧ ready.announced? = some url ∧
        ∀ headers body, Request.make? "GET".toList url headers body = none := by
  have hcheck := check_wide 65600
  obtain ⟨address, -, hready⟩ := ofConfig_of_check hcheck madeUp
  have hensure : (wide 65600).ensureToken madeUp = (madeUp, true) := rfl
  rw [hensure] at hready
  refine ⟨hcheck, rfl, isPlain_wide 65600, by decide, _, (wide 65600).greetingAt madeUp, hready,
    rfl, fun headers body => ?_⟩
  rw [Request.make?, Target.ofText?_eq_none_of_long (long_greetingAt_wide (by decide) madeUp)]
  split <;> rfl

end Program.Ready

end NotebookGoto
