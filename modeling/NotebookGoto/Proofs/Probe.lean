import NotebookGoto.Probe
import NotebookGoto.Proofs.Http.Admission
import NotebookGoto.Proofs.Http.Token
import NotebookGoto.Proofs.Http.Url
import NotebookGoto.Proofs.Wire

/-!
# Probing a site

A client puts the base path of a site behind the origin at which the site is found, and the site
joins its base path to the name of its extension. Where both are made of words they arrive at the
same paths (`Probe.endpointUrl_forSite`), so a probe asks a site for its endpoints and nothing else
(`Probe.request?_eq_some_iff`), and whether it is let in depends on its token without the spaces
around it (`Probe.presents_asked_iff`).

* **`Probe.run_of_trim_eq`**: what a probe that is let in asks for and finds.
* **`Probe.run_of_trim_ne`**: what any other probe does.
* **`Probe.agrees_with_site`**: both together.
* **`Probe.sites_out_of_reach`**: sites that no probe finds.
-/

namespace NotebookGoto

open Http Text

/-! ## Tokens -/

/-- A character that can be printed, of ASCII. -/
def Http.Token.isPrintable (c : Char) : Bool :=
  0x20 ≤ c.toNat && c.toNat < 0x7F

/-- A token that can be printed, with no space at its ends. -/
structure Http.Token.Plain (t : Token) : Prop where
  ne : t.secret ≠ ""
  printable : t.secret.toList.all Token.isPrintable = true
  head : t.secret.toList.head? ≠ some ' '
  last : t.secret.toList.getLast? ≠ some ' '

namespace Http.Token

theorem inValue_of_isPrintable {c : Char} (h : isPrintable c = true) : Header.inValue c = true := by
  rw [isPrintable, Bool.and_eq_true, decide_eq_true_eq, decide_eq_true_eq] at h
  have hdelete : c.toNat ≠ 0x7F := by omega
  simp [Header.inValue, h.1, hdelete]

theorem isVisible_of_isPrintable {c : Char} (h : isPrintable c = true) :
    Header.isVisible c = true := by
  rw [isPrintable] at h
  rw [Header.isVisible, h, Bool.or_true]

theorem eq_space_of_isBlank {c : Char} (h : isPrintable c = true) (hblank : isBlank c = true) :
    c = ' ' := by
  have hascii : c.toNat < 0x80 := by
    have hbounds := h
    rw [isPrintable, Bool.and_eq_true, decide_eq_true_eq, decide_eq_true_eq] at hbounds
    omega
  exact of_ascii (q := fun c => isBlank c = true → c = ' ') (by decide) hascii h hblank

theorem Plain.trim_eq {t : Token} (ht : t.Plain) : trim t.secret.toList = t.secret.toList := by
  have hspace {c : Char} (hc : c ∈ t.secret.toList) (hblank : isBlank c = true) : c = ' ' :=
    eq_space_of_isBlank (List.all_eq_true.1 ht.printable c hc) hblank
  refine trimBy_eq_self (fun c hc hblank => ?_) (fun c hc hblank => ?_)
  · rw [hspace (List.mem_of_head? hc) hblank] at hc
    exact ht.head hc
  · rw [hspace (List.mem_of_getLast? hc) hblank] at hc
    exact ht.last hc

end Http.Token

/-! ## Requests -/

namespace Probe

/-- The probe of a site that is found at an origin. -/
def forSite (o : Origin) (s : Site) (token : String) : Probe where
  url := String.ofList (o.text ++ s.baseUrl.toList)
  extensionName := s.extensionName
  token

/-- The request by which a probe asks a site for an endpoint. -/
def asked (s : Site) (token : String) (e : Endpoint) : Request where
  method := Method.get.name.toList
  target := ⟨Route.path s.baseUrl s.extensionName e, none⟩
  headers := [⟨"authorization".toList,
    trimEndBy (fun c => c = ' ' || c = '\t') ("token ".toList ++ token.toList)⟩]
  body := []

variable {o : Origin} {s : Site} {words : List (List Char)} {word : List Char} {token : String}
  {e : Endpoint}

section Words

variable (hbase : Route.IsBase s.baseUrl words) (hname : Route.IsName s.extensionName word)

include hbase hname

/-- **Both ends join the parts of a path alike.** -/
theorem endpointUrl_forSite (o : Origin) (token : String) (e : Endpoint) :
    (forSite o s token).endpointUrl e = o.text ++ Route.path s.baseUrl s.extensionName e := by
  have hroot : Route.IsBase "/" [] := ⟨nofun, 0, rfl⟩
  rw [endpointUrl, Route.path_of_words hbase hname, Route.ofWords_append]
  show trimEndBy (· = '/') (String.ofList (o.text ++ s.baseUrl.toList)).toList ++
    Route.path "/" s.extensionName e = _
  rw [String.toList_ofList, Route.trimEndBy_append_base hbase o.ne_slash_of_getLast?_text,
    Route.path_of_words hroot hname, List.append_assoc]
  rfl

/-- **A probe asks a site for its endpoints**, as far as this can be sent. -/
theorem request?_eq_some_iff (htoken : token.toList.all Token.isPrintable = true) {r : Request} :
    (forSite o s token).request? e = some r ↔
      o.Sends (Route.path s.baseUrl s.extensionName e) ∧ r = asked s token e := by
  have hvalue : (forSite o s token).credential.all Header.inValue = true := by
    show ("token ".toList ++ token.toList).all Header.inValue = true
    rw [List.all_append, Bool.and_eq_true]
    refine ⟨by decide, List.all_eq_true.2 fun c hc => ?_⟩
    exact Token.inValue_of_isPrintable (List.all_eq_true.1 htoken c hc)
  have hwords : ∀ w ∈ words ++ [word, e.name.toList], Route.isWord w = true :=
    List.forall_mem_append.2 ⟨hbase.1, Route.isWord_names hname e⟩
  have hne : words ++ [word, e.name.toList] ≠ [] := by simp
  have htarget (t : Target) := o.target?_eq_some_iff hwords hne (t := t)
  rw [← Route.path_of_words hbase hname e] at htarget
  rw [request?, if_pos hvalue, endpointUrl_forSite hbase hname o token e, Option.map_eq_some_iff]
  constructor
  · rintro ⟨t, ht, rfl⟩
    obtain ⟨hsends, rfl⟩ := (htarget t).1 ht
    exact ⟨hsends, rfl⟩
  · rintro ⟨hsends, rfl⟩
    exact ⟨_, (htarget _).2 ⟨hsends, rfl⟩, rfl⟩

theorem endpoint?_path : s.endpoint? (Route.path s.baseUrl s.extensionName e) = some e :=
  (Site.endpoint?_eq_some_iff (Site.literal_of_words hbase hname)).2 rfl

end Words

/-- **A probe is let in by its token** without the spaces around it. -/
theorem presents_asked_iff (htoken : token.toList.all Token.isPrintable = true)
    (hne : s.token.secret ≠ "") :
    (asked s token e).Presents s.token ↔ String.ofList (trim token.toList) = s.token.secret := by
  have hlost : ∀ c : Char, (c = ' ' || c = '\t') = true → isBlank c = true := by
    intro c hc
    simp only [Bool.or_eq_true, decide_eq_true_eq] at hc
    rcases hc with rfl | rfl <;> decide
  have hvisible : ∀ c ∈ token.toList, Header.isVisible c = true := fun c hc =>
    Token.isVisible_of_isPrintable (List.all_eq_true.1 htoken c hc)
  have hpresented : (asked s token e).token? =
      if token.toList.all isBlank then none else some (String.ofList (trim token.toList)) :=
    Request.token?_of_credential rfl rfl hlost hvisible
  rw [Request.Presents, hpresented]
  split
  · -- Nothing but spaces is no token, and the site's token is not empty.
    rename_i hblank
    have hempty : trim token.toList = [] := by
      rw [trim, trimBy, dropWhile_of_all hblank]
      rfl
    rw [hempty]
    constructor
    · rintro ⟨hnone, -⟩
      cases hnone
    · intro h
      exact absurd h.symm hne
  · rw [Option.some.injEq]
    exact and_iff_left hne

/-! ## Answers -/

/-- What a site tells at an endpoint. -/
def told (s : Site) : Endpoint → String
  | .hello => Endpoint.greeting
  | .code => s.template

theorem read_json {f : Json.Format String} (hf : f.Sound) (e : Endpoint) (text : String) :
    read f e (.json 200 (f.toText text)) = .ok text := by
  have htext : f.ofText? (Response.json 200 (f.toText text)).body = some text :=
    Json.Format.ofText?_toText hf text
  rw [read, htext]
  rfl

theorem sound_format (e : Endpoint) : (format e).Sound := by
  cases e
  · exact Wire.sound_single "data"
  · exact Wire.sound_single "code"

section Words

variable (hbase : Route.IsBase s.baseUrl words) (hname : Route.IsName s.extensionName word)
  (htoken : token.toList.all Token.isPrintable = true)

include hbase hname htoken

/-- A probe that is let in reads at an endpoint what the site tells there. -/
theorem fetch_of_presents (hsends : o.Sends (Route.path s.baseUrl s.extensionName e))
    (hpresents : (asked s token e).Presents s.token) :
    (forSite o s token).fetch (.ofSite s) e = .ok (told s e) := by
  have hrequest := (request?_eq_some_iff hbase hname htoken).2 ⟨hsends, rfl⟩
  have hasked : s.Asked e .get (asked s token e) := by
    refine ⟨endpoint?_path hbase hname, rfl, ?_, hpresents⟩
    cases e <;> decide
  have hserve : s.serve (asked s token e) e .get = .json 200 ((format e).toText (told s e)) := by
    cases e <;> rfl
  rw [fetch, hrequest]
  show read (format e) e (s.respond (asked s token e)) = _
  rw [Site.respond_of_asked hasked (by decide), hserve, read_json (sound_format e)]

theorem fetch_of_not_presents (hsends : o.Sends (Route.path s.baseUrl s.extensionName e))
    (hpresents : ¬ (asked s token e).Presents s.token) :
    (forSite o s token).fetch (.ofSite s) e = .error (.probe (.rejected e)) := by
  have hrequest := (request?_eq_some_iff hbase hname htoken).2 ⟨hsends, rfl⟩
  rw [fetch, hrequest]
  show read (format e) e (s.respond (asked s token e)) = _
  rw [Site.respond_eq_refusal (endpoint?_path hbase hname) hpresents]
  rfl

theorem fetch_of_not_sends (hsends : ¬ o.Sends (Route.path s.baseUrl s.extensionName e))
    (network : Network) :
    (forSite o s token).request? e = none ∧
      (forSite o s token).fetch network e = .error (.http .request) := by
  have hnone : (forSite o s token).request? e = none := by
    rw [Option.eq_none_iff_forall_ne_some]
    intro r hr
    exact hsends ((request?_eq_some_iff hbase hname htoken).1 hr).1
  rw [fetch, hnone]
  exact ⟨rfl, rfl⟩

/-! ## Findings -/

/-- **A probe that is let in** finds what the site tells, unless its template lacks a
placeholder. -/
theorem run_of_trim_eq (hsends : ∀ e, o.Sends (Route.path s.baseUrl s.extensionName e))
    (hne : s.token.secret ≠ "") (htrim : String.ofList (trim token.toList) = s.token.secret) :
    (forSite o s token).requests (.ofSite s) = [asked s token .hello, asked s token .code] ∧
      (forSite o s token).run (.ofSite s) =
        match Template.missing s.template with
        | [] => .ok ⟨Endpoint.greeting, s.template.utf8ByteSize⟩
        | placeholders => .error (.probe (.missing placeholders)) := by
  have hfetch (e : Endpoint) : (forSite o s token).fetch (.ofSite s) e = .ok (told s e) :=
    fetch_of_presents hbase hname htoken (hsends e) ((presents_asked_iff htoken hne).2 htrim)
  have hrequest (e : Endpoint) : (forSite o s token).request? e = some (asked s token e) :=
    (request?_eq_some_iff hbase hname htoken).2 ⟨hsends e, rfl⟩
  constructor
  · rw [requests, hfetch, hrequest, hrequest]
    rfl
  · rw [run, hfetch, hfetch]
    rfl

/-- **A probe that is not let in** asks no further. -/
theorem run_of_trim_ne (hsends : o.Sends (Route.path s.baseUrl s.extensionName .hello))
    (hne : s.token.secret ≠ "") (htrim : String.ofList (trim token.toList) ≠ s.token.secret) :
    (forSite o s token).requests (.ofSite s) = [asked s token .hello] ∧
      (forSite o s token).run (.ofSite s) = .error (.probe (.rejected .hello)) := by
  have hfetch : (forSite o s token).fetch (.ofSite s) .hello = .error (.probe (.rejected .hello)) :=
    fetch_of_not_presents hbase hname htoken hsends
      fun hpresents => htrim ((presents_asked_iff htoken hne).1 hpresents)
  have hrequest : (forSite o s token).request? .hello = some (asked s token .hello) :=
    (request?_eq_some_iff hbase hname htoken).2 ⟨hsends, rfl⟩
  constructor
  · rw [requests, hfetch, hrequest]
    rfl
  · rw [run, hfetch]
    rfl

/-- A probe that cannot be sent says so, whatever would answer it. -/
theorem run_of_not_sends (hsends : ¬ o.Sends (Route.path s.baseUrl s.extensionName .hello))
    (network : Network) :
    (forSite o s token).requests network = [] ∧
      (forSite o s token).run network = .error (.http .request) := by
  obtain ⟨hnone, hfetch⟩ := fetch_of_not_sends hbase hname htoken hsends network
  constructor
  · rw [requests, hfetch, hnone]
    rfl
  · rw [run, hfetch]
    rfl

end Words

/-- **A probe and the site that it asks agree** on paths, token and contents, where base path and
extension's name are made of words and the URLs of the endpoints can be sent. With the site's token
the probe asks for the two endpoints at the paths where the site has them. It finds the greeting and
the size of the template if each placeholder occurs in it, and otherwise names those that do not, in
their order. With any other token the greeting is refused, where spaces around a token do not
count. -/
theorem agrees_with_site (o : Origin) (s : Site) {words : List (List Char)} {word : List Char}
    (hbase : Route.IsBase s.baseUrl words) (hname : Route.IsName s.extensionName word)
    (hsends : ∀ e, o.Sends (Route.path s.baseUrl s.extensionName e)) (hplain : s.token.Plain) :
    (∀ e, s.endpoint? (Route.path s.baseUrl s.extensionName e) = some e) ∧
      ((forSite o s s.token.secret).requests (.ofSite s)).map (·.target) =
        Endpoint.all.map (⟨Route.path s.baseUrl s.extensionName ·, none⟩) ∧
      ((∀ p : Placeholder, p.token.toList <:+: s.template.toList) →
        (forSite o s s.token.secret).run (.ofSite s) =
          .ok ⟨Endpoint.greeting, s.template.utf8ByteSize⟩) ∧
      ((∃ p : Placeholder, ¬ p.token.toList <:+: s.template.toList) →
        ∃ placeholders : List Placeholder,
          (forSite o s s.token.secret).run (.ofSite s) =
            .error (.probe (.missing placeholders)) ∧
          placeholders.Sublist Placeholder.all ∧
          (∀ p, p ∈ placeholders ↔ ¬ p.token.toList <:+: s.template.toList) ∧
          Error.message (.probe (.missing placeholders)) =
            "server check failed: template is missing placeholders: " ++
              ", ".intercalate (placeholders.map (·.token))) ∧
      ∀ token : String, token.toList.all Token.isPrintable = true →
        String.ofList (trim token.toList) ≠ s.token.secret →
        (forSite o s token).run (.ofSite s) = .error (.probe (.rejected .hello)) := by
  have htrim : String.ofList (trim s.token.secret.toList) = s.token.secret := by
    rw [hplain.trim_eq, String.ofList_toList]
  obtain ⟨hrequests, hrun⟩ :=
    run_of_trim_eq hbase hname hplain.printable hsends hplain.ne htrim
  refine ⟨fun e => endpoint?_path hbase hname, ?_, fun hall => ?_, fun ⟨p, hp⟩ => ?_,
    fun token htoken hother => ?_⟩
  · rw [hrequests]
    rfl
  · have hnone : Template.missing s.template = [] := by
      rw [List.eq_nil_iff_forall_not_mem]
      exact fun p hp => Template.mem_missing_iff.1 hp (hall p)
    rw [hrun, hnone]
  · refine ⟨Template.missing s.template, ?_, Template.missing_sublist _,
      fun p => Template.mem_missing_iff, rfl⟩
    rw [hrun]
    have hmem : p ∈ Template.missing s.template := Template.mem_missing_iff.2 hp
    cases hmissing : Template.missing s.template with
    | nil =>
      rw [hmissing] at hmem
      cases hmem
    | cons q placeholders => rfl
  · exact (run_of_trim_ne hbase hname htoken (hsends .hello) hplain.ne hother).2

/-- This machine, at a port of its own. -/
def loopback : Origin where
  secure := false
  written := "127.0.0.1".toList
  host := .address (.v4 127 0 0 1)
  port := some 8888
  reads := by decide +kernel
  undelimited := .inl (forall_mem_of_all (by decide))

/-- A text in which every placeholder occurs. -/
def crowded : String :=
  "__NOTEBOOK_SOURCE____CURSOR_LINE____CURSOR_COLUMN____NOTEBOOK_PATH__é"

theorem token_infix_crowded (p : Placeholder) : p.token.toList <:+: crowded.toList := by
  rw [← occurs_iff]
  cases p <;> decide

/-- A site below the path of a user, with a space in its token. -/
def userSite (template : String) : Site where
  baseUrl := "/user/alice//"
  extensionName := "/ext/"
  token := ⟨"a b"⟩
  template := template

/-- The site of a user with a template in which all placeholders occur, and with one in which one of
them is cut short. The wrong token has a space too many. -/
theorem agrees_with_userSite :
    (forSite loopback (userSite crowded) "a b").run (.ofSite (userSite crowded)) =
        .ok ⟨Endpoint.greeting, 70⟩ ∧
      (∃ placeholders, (forSite loopback (userSite "__CURSOR_LINE") "a b").run
          (.ofSite (userSite "__CURSOR_LINE")) = .error (.probe (.missing placeholders)) ∧
        Placeholder.line ∈ placeholders) ∧
      (forSite loopback (userSite crowded) "a  b").run (.ofSite (userSite crowded)) =
        .error (.probe (.rejected .hello)) := by
  have hbase : Route.IsBase "/user/alice//" ["user".toList, "alice".toList] :=
    ⟨by decide, 2, rfl⟩
  have hname : Route.IsName "/ext/" "ext".toList := ⟨by decide, 1, 1, rfl⟩
  have hsends (e : Endpoint) : loopback.Sends (Route.path "/user/alice//" "/ext/" e) :=
    ⟨forall_mem_of_all (by decide), by cases e <;> decide⟩
  have hplain : (⟨"a b"⟩ : Token).Plain := ⟨by decide, by decide, by decide, by decide⟩
  have hagrees (template : String) :=
    agrees_with_site loopback (userSite template) hbase hname hsends hplain
  obtain ⟨-, -, hfound, -, hrejected⟩ := hagrees crowded
  refine ⟨hfound token_infix_crowded, ?_, hrejected "a  b" (by decide) (by decide)⟩
  have hline : ¬ Placeholder.line.token.toList <:+: "__CURSOR_LINE".toList := by
    rw [← occurs_iff]
    decide
  obtain ⟨placeholders, hrun, -, hmem, -⟩ := (hagrees "__CURSOR_LINE").2.2.2.1 ⟨.line, hline⟩
  exact ⟨placeholders, hrun, (hmem .line).2 hline⟩

/-! ## Sites out of reach -/

/-- A site whose base path has a number of letters. -/
def wideSite (n : Nat) : Site where
  baseUrl := String.ofList ('/' :: List.replicate n 'a')
  extensionName := "e"
  token := ⟨"t"⟩
  template := crowded

theorem isBase_wideSite {n : Nat} (h : n ≠ 0) :
    Route.IsBase (wideSite n).baseUrl [List.replicate n 'a'] := by
  constructor
  · intro w hw
    rw [List.mem_singleton.1 hw, Route.isWord_iff]
    refine ⟨by simpa using h, fun c hc => ?_⟩
    rw [List.eq_of_mem_replicate hc]
    decide
  · refine ⟨0, ?_⟩
    rw [wideSite, String.toList_ofList, List.intercalate_singleton]
    exact (List.append_nil _).symm

/-- The endpoints of a site with so long a base path have URLs that are too long. -/
theorem not_sends_wideSite {n : Nat} (h : 65534 < n) (o : Origin) (e : Endpoint) :
    ¬ o.Sends (Route.path (wideSite n).baseUrl "e" e) := by
  have hletters : Route.IsSegment (List.replicate n 'a') :=
    Route.isSegment_replicate (by omega) (by decide)
  have hpath : (List.replicate n 'a').length ≤ (Route.path (wideSite n).baseUrl "e" e).length :=
    Route.length_le_length_path_of_isSegment hletters ⟨by decide, by decide⟩ e
  intro hsends
  have hshort := hsends.short
  have hlength := Utf8.length_le_length_encode
    (o.sent ++ Route.path (wideSite n).baseUrl "e" e)
  rw [List.length_append] at hlength
  rw [List.length_replicate] at hpath
  omega

/-- A host whose name holds a brace, which cannot stand in a target. -/
def braced : Origin where
  secure := false
  written := "a\x7bb".toList
  host := .name "a\x7bb".toList
  port := none
  reads := by decide +kernel
  undelimited := .inl (forall_mem_of_all (by decide))

/-- **Not every site can be asked.** A path may be too long, and a host may hold what no target
holds: then nothing is sent. A letter that is not of ASCII is sent as its bytes, and no endpoint is
there. -/
theorem sites_out_of_reach :
    (Route.IsBase (wideSite 65600).baseUrl [List.replicate 65600 'a'] ∧
        Route.IsName (wideSite 65600).extensionName ['e'] ∧ (wideSite 65600).token.Plain ∧
        (∀ p : Placeholder, p.token.toList <:+: (wideSite 65600).template.toList) ∧
        (forSite loopback (wideSite 65600) "t").requests (.ofSite (wideSite 65600)) = [] ∧
        (forSite loopback (wideSite 65600) "t").run (.ofSite (wideSite 65600)) =
          .error (.http .request)) ∧
      (forSite braced ⟨"/", "e", ⟨"t"⟩, crowded, fun _ => none⟩ "t").run
          (.ofSite ⟨"/", "e", ⟨"t"⟩, crowded, fun _ => none⟩) =
        .error (.http .request) ∧
      (forSite loopback ⟨"/é", "e", ⟨"t"⟩, crowded, fun _ => none⟩ "t").run
          (.ofSite ⟨"/é", "e", ⟨"t"⟩, crowded, fun _ => none⟩) =
        .error (.probe (.notFound .hello)) := by
  have hname : Route.IsName "e" ['e'] := ⟨by decide, 0, 0, by decide⟩
  have hplain : (⟨"t"⟩ : Token).Plain := ⟨by decide, by decide, by decide, by decide⟩
  have hlong := isBase_wideSite (n := 65600) (by decide)
  obtain ⟨hrequests, hrun⟩ := run_of_not_sends (s := wideSite 65600) hlong hname
    hplain.printable (not_sends_wideSite (by decide) loopback .hello) (.ofSite (wideSite 65600))
  refine ⟨⟨hlong, hname, hplain, token_infix_crowded, hrequests, hrun⟩, ?_, by decide +kernel⟩
  have hroot : Route.IsBase "/" [] := ⟨nofun, 0, by decide⟩
  have hbrace : ¬ braced.Sends (Route.path "/" "e" .hello) :=
    fun hsends => hsends.host '\x7b' (by decide) (by decide)
  exact (run_of_not_sends (s := ⟨"/", "e", ⟨"t"⟩, crowded, fun _ => none⟩) hroot hname
    hplain.printable hbrace _).2

end Probe

end NotebookGoto
