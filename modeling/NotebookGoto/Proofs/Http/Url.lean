import NotebookGoto.Http.Url
import NotebookGoto.Proofs.Http.Authority
import NotebookGoto.Proofs.Http.Segments

/-!
# URLs of words

An origin is a scheme, a host as somebody writes it, and perhaps a port. A URL that is an origin
followed by words is read as these parts, with its path as it stands (`Url.ofText?_origin`). It is
written with the host in the form for the network and without a port that the scheme implies
(`Origin.text_url`), and what is requested are the words (`Origin.target?_eq_some_iff`).
-/

namespace NotebookGoto.Http

open Text

/-! ## Paths -/

namespace Route

theorem toNat_of_inWord {c : Char} (h : inWord c = true) : 0x20 < c.toNat ∧ c.toNat < 0x7F := by
  have hascii : c.toNat < 0x80 := by
    have hclass := h
    simp only [inWord, Bool.or_eq_true, decide_eq_true_eq] at hclass
    rcases hclass with (hletter | rfl) | rfl
    · exact toNat_of_isAlphanum hletter
    · decide
    · decide
  exact of_ascii (q := fun c => 0x20 < c.toNat ∧ c.toNat < 0x7F) (by decide) hascii h

theorem inWord_or_slash_of_mem {ws : List (List Char)} (hws : ∀ w ∈ ws, isWord w = true) {c : Char}
    (hc : c ∈ ofWords ws) : c = '/' ∨ inWord c = true := by
  obtain ⟨w, hw, hcw⟩ := List.mem_flatMap.1 hc
  rcases List.mem_cons.1 hcw with rfl | hcw
  · exact .inl rfl
  · exact .inr ((isWord_iff.1 (hws w hw)).2 c hcw)

theorem slash_not_mem_of_isWord {w : List Char} (h : isWord w = true) : '/' ∉ w :=
  not_mem_of_all_class (isWord_iff.1 h).2 (by decide)

end Route

namespace Url

open Route

theorem dots?_word {w : List Char} (h : isWord w = true) : dots? w = none := by
  obtain ⟨hne, hw⟩ := isWord_iff.1 h
  obtain ⟨c, w, rfl⟩ := List.exists_cons_of_ne_nil hne
  have hc := hw c List.mem_cons_self
  have hlow : c.toLower ≠ '.' ∧ c.toLower ≠ '%' := by
    have hbounds := toNat_of_inWord hc
    exact of_ascii (q := fun c => c.toLower ≠ '.' ∧ c.toLower ≠ '%') (by decide) (by omega) hc
  simp [dots?, Header.fold, hlow]

theorem resolve_words {ws : List (List Char)} (hws : ∀ w ∈ ws, isWord w = true)
    (done : List (List Char)) : resolve done ws = done.reverse ++ ws := by
  induction ws generalizing done with
  | nil => rw [resolve, List.append_nil]
  | cons w ws ih =>
    have hrest := ih (fun v hv => hws v (List.mem_cons_of_mem _ hv)) (w :: done)
    rw [resolve, dots?_word (hws w List.mem_cons_self)]
    simpa using hrest

theorem escape_word {marks : List Char} {w : List Char} (h : isWord w = true)
    (hmarks : marks.all (!inWord ·) = true) : escape marks w = w := by
  have hchar : ∀ c ∈ w, (if c.toNat ≤ 0x20 || 0x7F ≤ c.toNat || c ∈ marks then
      (Utf8.encodeChar c).flatMap escapeByte else [c]) = [c] := by
    intro c hc
    have hword := (isWord_iff.1 h).2 c hc
    have hbounds := toNat_of_inWord hword
    have hmem : c ∉ marks := not_mem_of_class hword hmarks
    rw [if_neg]
    simp only [Bool.or_eq_true, decide_eq_true_eq]
    rintro ((hlow | hhigh) | hmark)
    · omega
    · omega
    · exact hmem hmark
  rw [escape, List.flatMap_congr hchar]
  simp

/-- A path of words is sent as it stands. -/
theorem resolved_ofWords {ws : List (List Char)} (hws : ∀ w ∈ ws, isWord w = true) (hne : ws ≠ []) :
    resolved (ofWords ws) = ofWords ws := by
  have hslashes : (ofWords ws).map (fun c => if c = '\\' then '/' else c) = ofWords ws := by
    refine (List.map_congr_left fun c hc => ?_).trans (List.map_id _)
    have hback : c ≠ '\\' := by
      rcases inWord_or_slash_of_mem hws hc with rfl | hword
      · decide
      · exact ne_of_class hword (by decide)
    exact if_neg hback
  have hescape : ws.map (escape ['"', '<', '>', '\x60', '\x7b', '\x7d']) = ws := by
    refine (List.map_congr_left fun w hw => ?_).trans (List.map_id _)
    exact escape_word (hws w hw) (by decide)
  rw [resolved, hslashes, splitOn_ofWords (fun w hw => slash_not_mem_of_isWord (hws w hw)) hne]
  dsimp only
  rw [resolve_words hws, List.reverse_nil, List.nil_append, hescape, cons_intercalate hne]

end Url

/-! ## Origins -/

namespace Origin

/-- A character that may stand in a host outside brackets. -/
def inHost (c : Char) : Bool :=
  0x20 < c.toNat && c ∉ ['/', '\\', '?', '#', '@', ':', '[', ']']

/-- A host in which nothing can be taken for the end of it: a name, or an address in brackets. -/
def IsUndelimited (written : List Char) : Prop :=
  (∀ c ∈ written, inHost c = true) ∨
    ∃ w, written = '[' :: w ++ [']'] ∧ ∀ c ∈ w, inHost c = true ∨ c = ':'

end Origin

/-- Where a server is found: a scheme, a host as it is written, and perhaps a port. -/
structure Origin where
  secure : Bool
  written : List Char
  host : Host
  port : Option UInt16
  reads : Host.ofText? written = some host
  undelimited : Origin.IsUndelimited written

namespace Origin

/-- The name of a scheme. -/
def scheme (secure : Bool) : List Char :=
  if secure then "https".toList else "http".toList

/-- The port that is told, for the scheme does not imply it. -/
def toldPort (o : Origin) : Option Nat :=
  (o.port.map UInt16.toNat).filter (· ≠ if o.secure then 443 else 80)

/-- An origin as it is written. -/
def text (o : Origin) : List Char :=
  scheme o.secure ++ "://".toList ++ (o.written ++ portText (o.port.map UInt16.toNat))

/-- Host and port of an origin as they are sent. -/
def authority (o : Origin) : List Char :=
  o.host.text ++ portText o.toldPort

/-- An origin as it is sent. -/
def sent (o : Origin) : List Char :=
  scheme o.secure ++ "://".toList ++ o.authority

variable (o : Origin)

theorem written_ne_nil : o.written ≠ [] := by
  intro h
  have hreads := o.reads
  have hnone : Host.ofText? [] = none := by decide
  rw [h, hnone] at hreads
  cases hreads

/-- A character of an authority: it does not end the authority, nor does it part a user from it. -/
def inAuthority (c : Char) : Bool :=
  0x20 < c.toNat && c ∉ ['/', '\\', '?', '#', '@']

theorem inAuthority_of_mem_written {c : Char} (hc : c ∈ o.written) : inAuthority c = true := by
  have hhost : inHost c = true ∨ c ∈ [':', '[', ']'] := by
    rcases o.undelimited with hall | ⟨w, hw, hall⟩
    · exact .inl (hall c hc)
    · rw [hw] at hc
      simp only [List.cons_append, List.mem_cons, List.mem_append, List.not_mem_nil, or_false] at hc
      rcases hc with rfl | hc | rfl
      · exact .inr (by decide)
      · exact (hall c hc).imp id fun h => by rw [h]; decide
      · exact .inr (by decide)
  rcases hhost with hin | hmark
  · simp only [inHost, Bool.and_eq_true, decide_eq_true_eq, List.mem_cons, List.not_mem_nil,
      or_false, not_or] at hin
    simp [inAuthority, hin]
  · have hmarks : ∀ c ∈ [':', '[', ']'], inAuthority c = true := forall_mem_of_all (by decide)
    exact hmarks c hmark

theorem inAuthority_of_isDigit {c : Char} (h : c.isDigit = true) : inAuthority c = true :=
  of_ascii (q := fun c => inAuthority c = true) (by decide) (toNat_of_isDigit h) h

theorem inAuthority_of_mem_portText {port : Option Nat} {c : Char} (hc : c ∈ portText port) :
    inAuthority c = true := by
  cases port with
  | none => cases hc
  | some n =>
    rcases List.mem_cons.1 hc with rfl | hc
    · decide
    · exact inAuthority_of_isDigit (Target.isDigit_of_mem_digits hc)

theorem inAuthority_of_mem {c : Char}
    (hc : c ∈ o.written ++ portText (o.port.map UInt16.toNat)) : inAuthority c = true := by
  rcases List.mem_append.1 hc with hc | hc
  · exact o.inAuthority_of_mem_written hc
  · exact inAuthority_of_mem_portText hc

theorem ne_slash_of_getLast?_text : ∀ c ∈ o.text.getLast?, c ≠ '/' := by
  have hne : o.written ++ portText (o.port.map UInt16.toNat) ≠ [] :=
    List.append_ne_nil_of_left_ne_nil o.written_ne_nil _
  intro c hc
  rw [text, List.getLast?_append_of_ne_nil _ hne] at hc
  exact ne_of_class (o.inAuthority_of_mem (List.mem_of_getLast? hc)) (by decide)

theorem toNat_of_inAuthority {c : Char} (h : inAuthority c = true) : 0x20 < c.toNat := by
  simp only [inAuthority, Bool.and_eq_true, decide_eq_true_eq] at h
  exact h.1

theorem scheme_spec (secure : Bool) : ∀ c ∈ scheme secure, 0x20 < c.toNat ∧ c ≠ ':' := by
  cases secure <;> exact forall_mem_of_all (by decide)

/-- A URL of an origin and words holds no white space. -/
theorem toNat_of_mem_text {ws : List (List Char)} (hws : ∀ w ∈ ws, Route.isWord w = true) :
    ∀ c ∈ o.text ++ Route.ofWords ws, 0x20 < c.toNat := by
  intro c hc
  rw [text, List.append_assoc, List.append_assoc] at hc
  rcases List.mem_append.1 hc with hc | hc
  · exact (scheme_spec o.secure c hc).1
  rcases List.mem_append.1 hc with hc | hc
  · have hmarks : ∀ d ∈ "://".toList, 0x20 < d.toNat := forall_mem_of_all (by decide)
    exact hmarks c hc
  rcases List.mem_append.1 hc with hc | hc
  · exact toNat_of_inAuthority (o.inAuthority_of_mem hc)
  rcases Route.inWord_or_slash_of_mem hws hc with rfl | hword
  · decide
  · exact (Route.toNat_of_inWord hword).1

end Origin

/-! ## Reading -/

namespace Url

open Origin

/-- Characters by which a host does not end are taken into it. -/
theorem splitHost_append {bracketed : Bool} {s : List Char}
    (hs : ∀ c ∈ s, ¬ (c = ':' ∧ !bracketed) ∧ (c = '[' || (bracketed && c ≠ ']')) = bracketed)
    (t : List Char) :
    splitHost bracketed (s ++ t) =
      (s ++ (splitHost bracketed t).1, (splitHost bracketed t).2) := by
  induction s with
  | nil => rfl
  | cons c s ih =>
    obtain ⟨hcolon, hbracket⟩ := hs c List.mem_cons_self
    rw [List.cons_append, splitHost, if_neg hcolon, hbracket,
      ih fun d hd => hs d (List.mem_cons_of_mem _ hd)]
    rfl

theorem splitHost_portText (port : Option Nat) :
    splitHost false (portText port) = ([], portText port) := by
  cases port with
  | none => rfl
  | some n => rfl

/-- The host of an origin is what stands before its port. -/
theorem splitHost_written (o : Origin) (port : Option Nat) :
    splitHost false (o.written ++ portText port) = (o.written, portText port) := by
  rcases o.undelimited with hall | ⟨w, hw, hall⟩
  · rw [splitHost_append, splitHost_portText, List.append_nil]
    intro c hc
    have hcolon : c ≠ ':' := ne_of_class (hall c hc) (by decide)
    have hopen : c ≠ '[' := ne_of_class (hall c hc) (by decide)
    simp [hcolon, hopen]
  · -- From the opening bracket on a colon is part of the host, up to the closing one.
    have hinner : ∀ c ∈ w, ¬ (c = ':' ∧ !true) ∧ (c = '[' || (true && c ≠ ']')) = true := by
      intro c hc
      have hclose : c ≠ ']' := by
        rcases hall c hc with hin | rfl
        · exact ne_of_class hin (by decide)
        · decide
      simp [hclose]
    have hrest : splitHost true (']' :: portText port) = ([']'], portText port) := by
      rw [splitHost, if_neg (by decide)]
      show (']' :: (splitHost false (portText port)).1, (splitHost false (portText port)).2) = _
      rw [splitHost_portText]
    rw [hw, List.append_assoc, List.cons_append, splitHost, if_neg (by decide)]
    show ('[' :: (splitHost true (w ++ ([']'] ++ portText port))).1,
      (splitHost true (w ++ ([']'] ++ portText port))).2) = _
    rw [splitHost_append hinner, List.singleton_append, hrest]
    rfl

theorem port?_portText (o : Origin) :
    port? o.secure (portText (o.port.map UInt16.toNat)) = some o.toldPort := by
  cases hport : o.port with
  | none =>
    rw [toldPort, hport]
    rfl
  | some n =>
    have hdigits : (Decimal.digits n.toNat).all Char.isDigit = true :=
      List.all_eq_true.2 fun c hc => Target.isDigit_of_mem_digits hc
    have hne : (Decimal.digits n.toNat).isEmpty = false := by
      rw [List.isEmpty_eq_false_iff]
      exact Nat.toDigits_ne_nil
    have hmax : ¬ 65535 < n.toNat := by
      have := n.toNat_lt
      omega
    rw [toldPort, hport, port?]
    simp only [portText, Option.map_some, Option.getD_some, List.drop_succ_cons, List.drop_zero,
      hdigits, hne, Decimal.value_digits, Option.filter]
    by_cases himplied : n.toNat = if o.secure then 443 else 80
    · simp [hmax, ← himplied]
    · simp [himplied, hmax]

theorem ne_of_not_mem {mark : Char} {s : List Char} (h : mark ∉ s) :
    ∀ c ∈ s, decide (c ≠ mark) = true := by
  intro c hc
  simpa using fun e : c = mark => h (e ▸ hc)

theorem behind?_append_cons {mark : Char} {s : List Char} (h : mark ∉ s) (t : List Char) :
    behind? mark (s ++ mark :: t) = some t := by
  rw [behind?, dropWhile_append_cons (ne_of_not_mem h) (by simp)]

theorem takeWhile_ne_eq_self {mark : Char} {s : List Char} (h : mark ∉ s) :
    s.takeWhile (· ≠ mark) = s :=
  List.takeWhile_eq_self_iff.2 (ne_of_not_mem h)

theorem behind?_eq_none {mark : Char} {s : List Char} (h : mark ∉ s) : behind? mark s = none := by
  rw [behind?, List.dropWhile_eq_nil_iff.2 (ne_of_not_mem h)]

/-- A text without white space is read as it stands. -/
theorem trimBy_of_printed {s : List Char} (hs : ∀ c ∈ s, 0x20 < c.toNat) :
    trimBy (fun c => c.toNat ≤ 0x20) s = s := by
  refine trimBy_eq_self (fun c hc => ?_) (fun c hc => ?_)
  · simpa using hs c (List.mem_of_head? hc)
  · simpa using hs c (List.mem_of_getLast? hc)

theorem filter_of_printed {s : List Char} (hs : ∀ c ∈ s, 0x20 < c.toNat) :
    s.filter (· ∉ ['\t', '\n', '\r']) = s := by
  refine List.filter_eq_self.2 fun c hc => decide_eq_true fun hmem => ?_
  have hlow : ∀ d ∈ ['\t', '\n', '\r'], d.toNat ≤ 0x20 := forall_mem_of_all (by decide)
  exact Nat.not_le.2 (hs c hc) (hlow c hmem)

/-- A scheme ends at its colon. -/
theorem split_scheme (secure : Bool) (rest : List Char) :
    (scheme secure ++ ':' :: rest).takeWhile (· ≠ ':') = scheme secure ∧
      behind? ':' (scheme secure ++ ':' :: rest) = some rest := by
  have hcolon : ':' ∉ scheme secure := fun h => (scheme_spec secure ':' h).2 rfl
  constructor
  · exact takeWhile_append_cons (ne_of_not_mem hcolon) (by decide) rest
  · exact behind?_append_cons hcolon rest

/-- An authority lies between the slashes before it and the one that starts the path, and there is
no user in it. -/
theorem split_authority {authority : List Char} (hne : authority ≠ [])
    (hauthority : ∀ c ∈ authority, inAuthority c = true) (rest : List Char) :
    ('/' :: '/' :: (authority ++ '/' :: rest)).dropWhile (fun c => c = '/' ∨ c = '\\') =
        authority ++ '/' :: rest ∧
      (authority ++ '/' :: rest).takeWhile (· ∉ ['/', '\\', '?', '#']) = authority ∧
      (authority ++ '/' :: rest).dropWhile (· ∉ ['/', '\\', '?', '#']) = '/' :: rest ∧
      (authority.reverse.takeWhile (· ≠ '@')).reverse = authority := by
  have hinside : ∀ c ∈ authority, decide (c ∉ ['/', '\\', '?', '#']) = true := by
    intro c hc
    exact decide_eq_true (not_mem_of_class (hauthority c hc) (by decide))
  refine ⟨?_, takeWhile_append_cons hinside (by decide) rest,
    dropWhile_append_cons hinside (by decide) rest, ?_⟩
  · obtain ⟨c, authority, rfl⟩ := List.exists_cons_of_ne_nil hne
    have hslash : c ≠ '/' := ne_of_class (hauthority c List.mem_cons_self) (by decide)
    have hback : c ≠ '\\' := ne_of_class (hauthority c List.mem_cons_self) (by decide)
    simp [hslash, hback]
  · rw [takeWhile_ne_eq_self, List.reverse_reverse]
    rw [List.mem_reverse]
    exact not_mem_of_all_class hauthority (by decide)

/-- **A URL of an origin and words is read as these.** -/
theorem ofText?_origin (o : Origin) {ws : List (List Char)} (hws : ∀ w ∈ ws, Route.isWord w = true)
    (hne : ws ≠ []) :
    ofText? (o.text ++ Route.ofWords ws) =
      some ⟨o.secure, o.host, o.toldPort, Route.ofWords ws, none, none⟩ := by
  have hprinted := o.toNat_of_mem_text hws
  have hresolved := resolved_ofWords hws hne
  have hmark (mark : Char) (h : Route.inWord mark = false) (hslash : mark ≠ '/') :
      mark ∉ Route.ofWords ws := by
    intro hmem
    exact (Route.inWord_or_slash_of_mem hws hmem).elim hslash fun hword => ne_of_class hword h rfl
  have hquery := hmark '?' (by decide) (by decide)
  have hfragment := hmark '#' (by decide) (by decide)
  obtain ⟨rest, hpath⟩ : ∃ rest, Route.ofWords ws = '/' :: rest :=
    ⟨_, (Route.cons_intercalate hne).symm⟩
  rw [hpath] at hprinted hresolved hquery hfragment ⊢
  obtain ⟨authority, hauth⟩ : ∃ a, a = o.written ++ portText (o.port.map UInt16.toNat) := ⟨_, rfl⟩
  have hauthority : ∀ c ∈ authority, inAuthority c = true :=
    hauth ▸ fun c hc => o.inAuthority_of_mem hc
  have hauthorityNe : authority ≠ [] :=
    hauth ▸ List.append_ne_nil_of_left_ne_nil o.written_ne_nil _
  have htext : o.text ++ '/' :: rest =
      scheme o.secure ++ ':' :: '/' :: '/' :: (authority ++ '/' :: rest) := by
    simp [Origin.text, hauth]
  obtain ⟨hscheme, hbehind⟩ := split_scheme o.secure ('/' :: '/' :: (authority ++ '/' :: rest))
  rw [← htext] at hscheme hbehind
  have hsecure : isSecure? (Header.fold (scheme o.secure)) = some o.secure := by
    cases o.secure <;> decide
  obtain ⟨hslashes, htake, hdrop, huser⟩ := split_authority hauthorityNe hauthority rest
  have hhost : splitHost false authority = (o.written, portText (o.port.map UInt16.toNat)) := by
    rw [hauth, splitHost_written]
  rw [ofText?, trimBy_of_printed hprinted, filter_of_printed hprinted]
  simp only [hscheme, hsecure, hbehind, Option.bind_eq_bind, Option.bind_some, hslashes, htake,
    hdrop, huser, hhost, o.reads, port?_portText, takeWhile_ne_eq_self hfragment,
    takeWhile_ne_eq_self hquery, behind?_eq_none hfragment, behind?_eq_none hquery, hresolved]
  rfl

end Url

/-! ## Sending -/

namespace Target

theorem inPath_of_word {c : Char} (h : c = '/' ∨ Route.inWord c = true) : inPath c = true := by
  rcases h with rfl | hword
  · decide
  · have hbounds := Route.toNat_of_inWord hword
    exact of_ascii (q := fun c => inPath c = true) (by decide) (by omega) hword

/-- A path of words is a target by itself. -/
theorem ofPath?_ofWords {ws : List (List Char)} (hws : ∀ w ∈ ws, Route.isWord w = true) :
    ofPath? (Route.ofWords ws) = some ⟨Route.ofWords ws, none⟩ := by
  have hin : ∀ c ∈ Route.ofWords ws, inPath c = true :=
    fun c hc => inPath_of_word (Route.inWord_or_slash_of_mem hws hc)
  have hfragment : '#' ∉ Route.ofWords ws := not_mem_of_all_class hin (by decide)
  have hquery : '?' ∉ Route.ofWords ws := not_mem_of_all_class hin (by decide)
  have hdrop : (Route.ofWords ws).dropWhile (· ≠ '?') = [] :=
    List.dropWhile_eq_nil_iff.2 (Url.ne_of_not_mem hquery)
  rw [ofPath?, Url.takeWhile_ne_eq_self hfragment]
  simp only [Url.takeWhile_ne_eq_self hquery, hdrop, List.all_eq_true.2 hin]
  rfl

end Target

namespace Origin

/-- Whether the URL of a path can be sent: the host can stand in a target, and it is not too
long. -/
structure Sends (o : Origin) (path : List Char) : Prop where
  host : ∀ c ∈ o.host.text, c ∉ Host.unsendable
  short : (Utf8.encode (o.sent ++ path)).length ≤ 65534

variable (o : Origin) {ws : List (List Char)}

theorem afterScheme?_sent (rest : List Char) :
    Target.afterScheme? (scheme o.secure ++ ':' :: '/' :: '/' :: rest) =
      some ((scheme o.secure).length, rest) := by
  have hin : ∀ c ∈ scheme o.secure, Target.inScheme c = true := by
    cases o.secure <;> exact forall_mem_of_all (by decide)
  have hne : (scheme o.secure).isEmpty = false := by
    cases o.secure <;> rfl
  rw [Target.afterScheme?, takeWhile_append_cons hin (by decide),
    dropWhile_append_cons hin (by decide)]
  simp [afterPrefix?, hne]

theorem text_url (path : List Char) :
    (⟨o.secure, o.host, o.toldPort, path, none, none⟩ : Url).text = o.sent ++ path := by
  have hscheme : (if o.secure then "https://" else "http://").toList =
      scheme o.secure ++ "://".toList := by
    cases o.secure <;> rfl
  have hport : (o.toldPort.map Decimal.digits).map (':' :: ·) =
      o.toldPort.map fun n => ':' :: Decimal.digits n := by
    rw [Option.map_map]
    rfl
  simp only [Url.text, hscheme, hport, sent, authority, portText, Option.map_none, Option.getD_none,
    List.append_nil, List.append_assoc]

/-- What is sent for a URL of an origin and words: the words, if the host can be sent. -/
theorem target_sent (hws : ∀ w ∈ ws, Route.isWord w = true) (hne : ws ≠ []) :
    Target.ofText? (o.sent ++ Route.ofWords ws) =
      if 65534 < (Utf8.encode (o.sent ++ Route.ofWords ws)).length ∨
          Target.isAuthority o.authority = false then none
      else some ⟨Route.ofWords ws, none⟩ := by
  obtain ⟨rest, hpath⟩ : ∃ rest, Route.ofWords ws = '/' :: rest :=
    ⟨_, (Route.cons_intercalate hne).symm⟩
  have htext : o.sent ++ '/' :: rest =
      scheme o.secure ++ ':' :: '/' :: '/' :: (o.authority ++ '/' :: rest) := by
    simp [sent]
  have hletter : ∃ t, scheme o.secure = 'h' :: t := by
    cases o.secure <;> exact ⟨_, rfl⟩
  obtain ⟨t, hletter⟩ := hletter
  have hinside : ∀ c ∈ o.authority, decide (c ∉ ['/', '?', '#']) = true := by
    intro c hc
    rcases List.mem_append.1 hc with hc | hc
    · exact Host.inside_of_mem_text o.reads hc
    · exact decide_eq_true (not_mem_of_class (inAuthority_of_mem_portText hc) (by decide))
  have htake : (o.authority ++ '/' :: rest).takeWhile (· ∉ ['/', '?', '#']) = o.authority :=
    takeWhile_append_cons hinside (by decide) rest
  have hdrop : (o.authority ++ '/' :: rest).dropWhile (· ∉ ['/', '?', '#']) = '/' :: rest :=
    dropWhile_append_cons hinside (by decide) rest
  have hsome : o.authority.isEmpty = false := by
    rw [List.isEmpty_eq_false_iff]
    exact List.append_ne_nil_of_left_ne_nil (Host.text_ne_nil o.reads) _
  have hshort : ¬ 64 < (scheme o.secure).length := by
    cases o.secure <;> decide
  have hpathTarget := Target.ofPath?_ofWords hws
  rw [hpath] at hpathTarget ⊢
  rw [Target.ofText?]
  · rw [htext, afterScheme?_sent]
    simp only [htake, hdrop, hsome, hpathTarget, hshort]
    by_cases hlong : 65534 < (Utf8.encode (scheme o.secure ++ ':' :: '/' :: '/' ::
        (o.authority ++ '/' :: rest))).length
    · simp [hlong]
    · cases Target.isAuthority o.authority <;> simp [hlong]
  -- The text starts with a letter.
  all_goals
    rw [htext, hletter]
    exact nofun

/-- **A URL of an origin and words is requested by its words**, if it can be sent at all. -/
theorem target?_eq_some_iff (hws : ∀ w ∈ ws, Route.isWord w = true) (hne : ws ≠ [])
    {t : Target} :
    (Url.ofText? (o.text ++ Route.ofWords ws)).bind Url.target? = some t ↔
      o.Sends (Route.ofWords ws) ∧ t = ⟨Route.ofWords ws, none⟩ := by
  have hhost := Host.isAuthority_iff o.reads o.toldPort
  rw [Url.ofText?_origin o hws hne, Option.bind_some, Url.target?, text_url, target_sent o hws hne]
  split
  · rename_i hnot
    refine iff_of_false nofun fun ⟨hsends, _⟩ => ?_
    rcases hnot with hlong | hauthority
    · exact Nat.not_lt.2 hsends.short hlong
    · have hsent := hhost.2 hsends.host
      rw [authority] at hauthority
      rw [hauthority] at hsent
      cases hsent
  · rename_i hsent
    rw [not_or, Bool.not_eq_false, Nat.not_lt] at hsent
    have hsends : o.Sends (Route.ofWords ws) := ⟨hhost.1 hsent.2, hsent.1⟩
    rw [Option.some.injEq, eq_comm]
    exact ⟨fun h => ⟨hsends, h⟩, And.right⟩

end Origin

end NotebookGoto.Http
