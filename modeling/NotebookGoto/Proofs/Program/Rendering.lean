import NotebookGoto.Program.Client
import NotebookGoto.Proofs.Http.Admission
import NotebookGoto.Proofs.Template.Literal
import NotebookGoto.Proofs.Wire

/-!
# The ways to the code

The code for a lookup can be had from a site, by sending the lookup or by asking for the template
and rendering it, and from the client program. All of them render the same template: what lies
between them is only reading and writing.

* **`Site.respond_of_sent`**: what a site answers to a lookup that is sent to it.
* **`client_render`**: what the client program prints.
* **`ways_to_code_agree`**: they agree, and they all refuse a lookup at line zero.
* **`line_zero_refused_unread`**: what a site says of such a lookup where it is too long to be read.
-/

namespace NotebookGoto

open Text

namespace Http

/-! ## Sending a lookup -/

/-- A request with the token that sends a lookup as it is written. -/
structure Site.Sent (s : Site) (l : Lookup) (r : Request) : Prop extends s.Asked .code .post r where
  contentType : r.header? "content-type".toList = some "application/json".toList
  body : r.body = Utf8.encode (Wire.lookup.toText l)

variable {s : Site} {l : Lookup} {r : Request}

theorem Site.Sent.hasJson (h : s.Sent l r) : r.hasJson = true := by
  rw [Request.hasJson, h.contentType]
  decide

/-- A lookup is read back from the body in which it is sent. -/
theorem Site.Sent.lookup_eq (h : s.Sent l r) :
    r.lookup = if Request.bodyLimit < (Utf8.encode (Wire.lookup.toText l)).length
      then .error .length else .ok l := by
  rw [Request.lookup, h.hasJson, if_neg (by decide), h.body]
  split
  · rfl
  · rw [Utf8.decode_encode, Json.Format.read_toText Wire.sound_lookup]
    rfl

/-- **A lookup that is sent is rendered**, where its body is not too long. -/
theorem Site.respond_of_sent (h : s.Sent l r) :
    s.respond r =
      if Request.bodyLimit < (Utf8.encode (Wire.lookup.toText l)).length then
        .problem 400 "Failed to buffer the request body: length limit exceeded"
      else match Template.render s.template l with
        | .ok code => .json 200 (Wire.code.toText code)
        | .error e => .ofError e := by
  rw [Site.respond_of_asked h.toAsked (by decide)]
  show s.render r = _
  rw [Site.render, h.lookup_eq]
  by_cases hlong : Request.bodyLimit < (Utf8.encode (Wire.lookup.toText l)).length
  · simp only [if_pos hlong, BodyFault.message]
  · cases hcode : Template.render s.template l <;> simp only [if_neg hlong, hcode]

/-- What the site answers to a request for the template. -/
theorem Site.respond_of_asked_code {g : Request} (h : s.Asked .code .get g) :
    s.respond g = .json 200 (Wire.code.toText s.template) :=
  Site.respond_of_asked h (by decide)

end Http

/-! ## The client program -/

/-- Whether the input of a name holds a text: the file at that path or, for a dash, the standard
input. -/
def Surroundings.Holds (w : Surroundings) (name text : String) : Prop :=
  if name = "-" then w.input = Utf8.encode text.toList
  else w.entry name = .ok (.file (Utf8.encode text.toList))

theorem textOfBytes_encode (text : String) :
    textOfBytes (Utf8.encode text.toList) = .ok text := by
  rw [textOfBytes, Utf8.text?_encode]
  show Except.ok (String.ofList text.toList) = .ok text
  rw [String.ofList_toList]

theorem Surroundings.readInput_of_holds {w : Surroundings} {name text : String}
    (h : w.Holds name text) : w.readInput name = .ok text := by
  rw [Holds] at h
  rw [readInput]
  split at h
  · rename_i hname
    rw [if_pos hname, h, textOfBytes_encode]
    rfl
  · rename_i hname
    rw [if_neg hname, readFile, h]
    show (textOfBytes (Utf8.encode text.toList)).mapError Error.io = .ok text
    rw [textOfBytes_encode]
    rfl

theorem Program.client_render {w : Surroundings} {network : Probe.Network} {input : String}
    {l : Lookup} (h : w.Holds input l.source) :
    client w network (.render input l.line l.column l.path) =
      plain (Template.render Template.jedi l) := by
  rw [client, readInput, Surroundings.readInput_of_holds h]
  rfl

/-! ## All ways -/

/-- **All ways to the code agree.** A site answers a lookup that is sent to it with the code that
its template gives, and whoever asks for the template and renders it has the same code; so has the
client program where the template is its own. At line zero there is no code in any way: the program
gives up because the position is invalid, and the site says the same, unless the body is so long
that it is refused unread. -/
theorem ways_to_code_agree (s : Http.Site) (l : Lookup) (r : Http.Request) (h : s.Sent l r) :
    (1 ≤ l.line → (Utf8.encode (Wire.lookup.toText l)).length ≤ 2097152 →
      ∃ code, Template.render s.template l = .ok code ∧
        (s.respond r).status = 200 ∧ Wire.code.ofText? (s.respond r).body = some code ∧
        (∀ g, s.Asked .code .get g → (s.respond g).status = 200 ∧
          ∃ template, Wire.code.ofText? (s.respond g).body = some template ∧
            Template.render template l = .ok code) ∧
        (s.template = Template.jedi → ∀ w network input, Surroundings.Holds w input l.source →
          Program.client w network (.render input l.line l.column l.path) = .ok code)) ∧
    (l.line = 0 →
      (s.respond r).status = 400 ∧
      ((Utf8.encode (Wire.lookup.toText l)).length ≤ 2097152 →
        Wire.problem.ofText? (s.respond r).body =
          some "invalid cursor position: line 0 (lines are 1-based)") ∧
      (2097152 < (Utf8.encode (Wire.lookup.toText l)).length →
        Wire.problem.ofText? (s.respond r).body =
          some "Failed to buffer the request body: length limit exceeded") ∧
      ∀ w network input, Surroundings.Holds w input l.source →
        Program.client w network (.render input l.line l.column l.path) =
          .error (.error none (.position 0))) := by
  have hlimit (hshort : (Utf8.encode (Wire.lookup.toText l)).length ≤ 2097152) :
      ¬ Http.Request.bodyLimit < (Utf8.encode (Wire.lookup.toText l)).length :=
    Nat.not_lt.2 hshort
  have hresponse := Http.Site.respond_of_sent h
  constructor
  · intro hline hshort
    -- Rendering succeeds for every template, so all ways give the same text.
    have hrender := Template.render_eq_ok hline
    rw [if_neg (hlimit hshort), hrender] at hresponse
    refine ⟨_, hrender s.template, ?_, ?_, ?_, ?_⟩
    · rw [hresponse]
      rfl
    · rw [hresponse]
      exact Wire.ofText?_toText_code _
    · intro g hg
      rw [Http.Site.respond_of_asked_code hg]
      exact ⟨rfl, s.template, Wire.ofText?_toText_code s.template, hrender s.template⟩
    · intro htemplate w network input hinput
      rw [Program.client_render hinput, htemplate, hrender]
      rfl
  · intro hline
    have hrender := Template.render_eq_error hline
    rw [hrender] at hresponse
    refine ⟨?_, ?_, ?_, ?_⟩
    -- A body that is too long has the same status, but another message.
    · rw [hresponse]
      split <;> rfl
    · intro hshort
      rw [hresponse, if_neg (hlimit hshort)]
      exact Wire.ofText?_toText_problem _
    · intro hlong
      rw [hresponse, if_pos (show Http.Request.bodyLimit < _ from hlong)]
      exact Wire.ofText?_toText_problem _
    · intro w network input hinput
      rw [Program.client_render hinput, hrender]
      rfl

/-- One lookup in all ways, and the same at line zero. -/
theorem ways_to_code_agree_on_umlaut :
    (∃ code, Template.render Template.jedi ⟨"ä = '\"'", 1, 0, "n.ipynb"⟩ = .ok code ∧
      ((⟨"/", "ext", ⟨"abc"⟩, Template.jedi, fun _ => none⟩ : Http.Site).respond
        ⟨"GET".toList, ⟨"/ext/introspection-code".toList, some "token=abc".toList⟩, [],
          []⟩).status = 200 ∧
      Program.client ⟨fun _ => .error .notFound, Utf8.encode "ä = '\"'".toList, fun _ => none⟩
        Probe.Network.unreachable (.render "-" 1 0 "n.ipynb") = .ok code) ∧
    ((⟨"/", "ext", ⟨"abc"⟩, "code", fun _ => none⟩ : Http.Site).respond
      ⟨"POST".toList, ⟨"/ext/introspection-code".toList, none⟩,
        [⟨"Authorization".toList, "Bearer abc".toList⟩,
          ⟨"Content-Type".toList, "application/json".toList⟩],
        Utf8.encode (Wire.lookup.toText ⟨"ä", 0, 0, ""⟩)⟩).status = 400 := by
  obtain ⟨code, hrender, -, -, hget, hclient⟩ :=
    (ways_to_code_agree ⟨"/", "ext", ⟨"abc"⟩, Template.jedi, fun _ => none⟩
      ⟨"ä = '\"'", 1, 0, "n.ipynb"⟩
      ⟨"POST".toList, ⟨"/ext/introspection-code".toList, some "token=abc".toList⟩,
        [⟨"Content-Type".toList, "application/json".toList⟩],
        Utf8.encode (Wire.lookup.toText ⟨"ä = '\"'", 1, 0, "n.ipynb"⟩)⟩
      ⟨⟨by decide, rfl, by decide, by decide +kernel, by decide⟩, by decide, rfl⟩).1
      (by decide) (by decide +kernel)
  refine ⟨⟨code, hrender, ?_, hclient rfl _ _ "-" rfl⟩, ?_⟩
  · exact (hget _ ⟨by decide, rfl, by decide, by decide +kernel, by decide⟩).1
  · exact ((ways_to_code_agree _ _ _
      ⟨⟨by decide, rfl, by decide, by decide +kernel, by decide⟩, by decide, rfl⟩).2 rfl).1

/-! ## Too long to be read -/

/-- No character of a string is written as nothing, and the quotes come on top. -/
theorem length_lt_length_writeString (s : List Char) : s.length < (Json.writeString s).length := by
  have hwritten (c : Char) : Json.writeChar c ≠ [] := by
    obtain ⟨d, r, hd, -⟩ := Python.exists_writeChar_eq c
    rw [hd]
    exact List.cons_ne_nil d r
  have hbody := length_le_length_flatMap hwritten s
  rw [Json.writeString, List.length_append, List.length_cons]
  omega

/-- A lookup as it is written. -/
theorem toText_lookup (l : Lookup) :
    Wire.lookup.toText l = "\x7b\"source\":".toList ++ (Json.writeString l.source.toList ++
      (",\"line\":".toList ++ (Decimal.digits l.line.toNat ++ (",\"column\":".toList ++
      (Decimal.digits l.column.toNat ++ (",\"path\":".toList ++
      (Json.writeString l.path.toList ++ "\x7d".toList))))))) := by
  show Json.writeRecord .compact [("source", .text l.source), ("line", .word l.line),
    ("column", .word l.column), ("path", .text l.path)] = _
  simp [Json.writeRecord, Json.Datum.write, Json.Layout.compact, Json.writeString, Json.writeChar]

/-- A lookup is sent in more bytes than its source has characters. -/
theorem length_source_lt (l : Lookup) :
    l.source.toList.length < (Utf8.encode (Wire.lookup.toText l)).length := by
  have hsource := length_lt_length_writeString l.source.toList
  have hbytes := Utf8.length_le_length_encode (Wire.lookup.toText l)
  rw [toText_lookup, List.length_append, List.length_append] at hbytes
  rw [toText_lookup]
  omega

/-- A lookup at line zero whose source has a number of letters. -/
def wordy (n : Nat) : Lookup :=
  ⟨String.ofList (List.replicate n 'a'), 0, 0, ""⟩

/-- **A lookup at line zero is not always refused for its position.** Where its source is too long
the site answers with the same status, but it has not read the line and names another reason. -/
theorem line_zero_refused_unread :
    let s : Http.Site := ⟨"/", "ext", ⟨"abc"⟩, "x", fun _ => none⟩
    let r : Http.Request :=
      ⟨"POST".toList, ⟨"/ext/introspection-code".toList, some "token=abc".toList⟩,
        [⟨"Content-Type".toList, "application/json".toList⟩],
        Utf8.encode (Wire.lookup.toText (wordy 2097153))⟩
    s.Sent (wordy 2097153) r ∧ (wordy 2097153).line = 0 ∧ (s.respond r).status = 400 ∧
      Wire.problem.ofText? (s.respond r).body =
        some "Failed to buffer the request body: length limit exceeded" ∧
      Wire.problem.ofText? (s.respond r).body ≠
        some "invalid cursor position: line 0 (lines are 1-based)" := by
  intro s r
  have hsent : s.Sent (wordy 2097153) r :=
    ⟨⟨by decide, rfl, by decide, by decide +kernel, by decide⟩, by decide, rfl⟩
  -- The body is never written out: it is longer than its source, of which the length is known.
  have hlong :
      Http.Request.bodyLimit < (Utf8.encode (Wire.lookup.toText (wordy 2097153))).length := by
    have hsource := length_source_lt (wordy 2097153)
    rw [wordy, String.toList_ofList, List.length_replicate] at hsource
    rw [Http.Request.bodyLimit, wordy]
    omega
  have hresponse := Http.Site.respond_of_sent hsent
  rw [if_pos hlong] at hresponse
  have hmessage : Wire.problem.ofText? (s.respond r).body =
      some "Failed to buffer the request body: length limit exceeded" := by
    rw [hresponse]
    exact Wire.ofText?_toText_problem _
  refine ⟨hsent, rfl, ?_, hmessage, ?_⟩
  · rw [hresponse]
    rfl
  · rw [hmessage]
    decide

end NotebookGoto
