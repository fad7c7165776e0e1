import Mathlib.Data.List.Basic
import Mathlib.Data.List.TakeWhile
import NotebookGoto.Http.Route
import NotebookGoto.Text.Affix

/-!
# Literal routes

A registered path without a colon matches itself and nothing else (`accepts_iff`), and the paths of
the two endpoints differ because each ends in the endpoint's name (`path_injective`). Together:
where base path and extension's name are literal, a request reaches an endpoint by its path alone.

Where they are made of words, the path of an endpoint is a list of words with a slash before each
(`path_of_words`), however many slashes stood around them.
-/

namespace NotebookGoto.Http.Route

open Text

/-! ## Matching -/

theorem matchesSegment_iff {registered segment : List Char} (h : ':' ∉ registered) :
    matchesSegment registered segment = true ↔ registered = segment := by
  have htake : registered.takeWhile (· ≠ ':') = registered := by
    rw [List.takeWhile_eq_self_iff]
    intro c hc
    exact decide_eq_true fun e => h (e ▸ hc)
  rw [matchesSegment, htake, if_pos rfl, decide_eq_true_iff]

theorem matchesAll_iff {registered : List (List Char)} (h : ∀ r ∈ registered, ':' ∉ r)
    (segments : List (List Char)) :
    matchesAll registered segments = true ↔ registered = segments := by
  induction registered generalizing segments with
  | nil => cases segments <;> simp [matchesAll]
  | cons r registered ih =>
    cases segments with
    | nil => simp [matchesAll]
    | cons s segments =>
      rw [matchesAll, Bool.and_eq_true, matchesSegment_iff (h r List.mem_cons_self),
        ih (fun r hr => h r (List.mem_cons_of_mem _ hr)), List.cons.injEq]

/-- A path without a colon stands for itself. -/
theorem accepts_iff {registered path : List Char} (h : ':' ∉ registered) :
    accepts registered path = true ↔ path = registered := by
  rw [accepts, matchesAll_iff fun r hr hc => h (mem_of_mem_splitOn hr hc)]
  constructor
  · intro e
    -- The segments of a path determine it.
    have hjoined := congrArg ['/'].intercalate e
    rw [List.intercalate_splitOn, List.intercalate_splitOn] at hjoined
    exact hjoined.symm
  · rintro rfl
    rfl

/-! ## What is left of the parts -/

/-- The parts without the slashes at their ends, as far as anything is left of them. -/
def kept (parts : List (List Char)) : List (List Char) :=
  (parts.map trimSlashes).filter (· ≠ [])

theorem kept_append (a b : List (List Char)) : kept (a ++ b) = kept a ++ kept b := by
  unfold kept
  rw [List.map_append, List.filter_append]

theorem kept_singleton {p : List Char} (h : trimSlashes p ≠ []) : kept [p] = [trimSlashes p] := by
  unfold kept
  rw [List.map_singleton, List.filter_cons_of_pos (by simpa using h), List.filter_nil]

/-! ## The paths of endpoints -/

theorem mem_of_mem_join {c : Char} {parts : List (List Char)} (h : c ∈ join parts) :
    c = '/' ∨ ∃ p ∈ parts, c ∈ p := by
  have hjoined (hc : c ∈ '/' :: ['/'].intercalate (kept parts)) :
      c = '/' ∨ ∃ p ∈ parts, c ∈ p := by
    rcases List.mem_cons.1 hc with rfl | hc
    · exact .inl rfl
    · rcases mem_of_mem_intercalate hc with hc | ⟨l, hl, hc⟩
      · exact .inl (List.mem_singleton.1 hc)
      · obtain ⟨p, hp, rfl⟩ := List.mem_map.1 (List.mem_filter.1 hl).1
        refine .inr ⟨p, hp, ?_⟩
        exact (List.dropWhile_suffix _).mem (mem_of_mem_trimEndBy hc)
  simp only [join] at h
  split at h
  · rcases List.mem_append.1 h with h | h
    · exact hjoined h
    · exact .inl (List.mem_singleton.1 h)
  · exact hjoined h

/-- What stands in the path of an endpoint besides slashes comes from the settings or from the name
of the endpoint. -/
theorem mem_of_mem_path {baseUrl extensionName : String} {e : Endpoint} {c : Char}
    (h : c ∈ path baseUrl extensionName e) :
    c = '/' ∨ c ∈ baseUrl.toList ++ extensionName.toList ∨ c ∈ e.name.toList := by
  rcases mem_of_mem_join h with hslash | ⟨p, hp, hc⟩
  · exact .inl hslash
  · simp only [List.mem_cons, List.not_mem_nil, or_false] at hp
    rcases hp with rfl | rfl | rfl
    · exact .inr (.inl (List.mem_append_left _ hc))
    · exact .inr (.inl (List.mem_append_right _ hc))
    · exact .inr (.inr hc)

theorem not_mem_path {baseUrl extensionName : String} {mark : Char} (hslash : mark ≠ '/')
    (hname : ∀ e : Endpoint, mark ∉ e.name.toList)
    (h : mark ∉ baseUrl.toList ++ extensionName.toList) (e : Endpoint) :
    mark ∉ path baseUrl extensionName e := by
  intro hmem
  rcases mem_of_mem_path hmem with heq | hsettings | hends
  · exact hslash heq
  · exact h hsettings
  · exact hname e hends

/-- The path of an endpoint ends in the endpoint's name. -/
theorem exists_path_eq (baseUrl extensionName : String) (e : Endpoint) :
    ∃ before, path baseUrl extensionName e = before ++ e.name.toList := by
  have hname : trimSlashes e.name.toList = e.name.toList ∧ e.name.toList ≠ [] ∧
      endsInSlash e.name.toList = false := by
    cases e <;> decide
  obtain ⟨htrim, hne, hslash⟩ := hname
  have hkept : kept [baseUrl.toList, extensionName.toList, e.name.toList] =
      kept [baseUrl.toList, extensionName.toList] ++ [e.name.toList] := by
    conv_rhs => rw [← htrim, ← kept_singleton (htrim.symm ▸ hne), ← kept_append]
    rfl
  obtain ⟨before, hbefore⟩ :=
    exists_intercalate_concat ['/'] (kept [baseUrl.toList, extensionName.toList]) e.name.toList
  rw [← hkept, kept] at hbefore
  refine ⟨'/' :: before, ?_⟩
  rw [path, pathTo, join, hbefore]
  simp [hslash]

theorem path_injective {baseUrl extensionName : String} {e e' : Endpoint}
    (h : path baseUrl extensionName e = path baseUrl extensionName e') : e = e' := by
  obtain ⟨before, hbefore⟩ := exists_path_eq baseUrl extensionName e
  obtain ⟨before', hbefore'⟩ := exists_path_eq baseUrl extensionName e'
  rw [hbefore, hbefore'] at h
  -- The names end in different letters.
  have hlast := congrArg List.getLast? h
  rw [List.getLast?_append, List.getLast?_append] at hlast
  revert hlast
  cases e <;> cases e' <;> simp [Endpoint.name]

/-! ## Paths of words -/

/-- A letter, a digit, a hyphen or a low line, all of ASCII. -/
def inWord (c : Char) : Bool :=
  c.isAlphanum || c = '-' || c = '_'

/-- Whether a text is a segment of such characters. -/
def isWord (s : List Char) : Bool :=
  !s.isEmpty && s.all inWord

/-- Words with a slash before each of them. -/
def ofWords (words : List (List Char)) : List Char :=
  words.flatMap ('/' :: ·)

/-- A base path of words: a slash, the words with slashes between them, and any slashes behind. -/
def IsBase (baseUrl : String) (words : List (List Char)) : Prop :=
  (∀ w ∈ words, isWord w = true) ∧
    ∃ n, baseUrl.toList = '/' :: ['/'].intercalate words ++ List.replicate n '/'

/-- An extension's name that is a word, with any slashes around it. -/
def IsName (extensionName : String) (word : List Char) : Prop :=
  isWord word = true ∧
    ∃ m n, extensionName.toList = List.replicate m '/' ++ word ++ List.replicate n '/'

theorem isWord_iff {s : List Char} : isWord s = true ↔ s ≠ [] ∧ ∀ c ∈ s, inWord c = true := by
  rw [isWord, Bool.and_eq_true, Bool.not_eq_true', List.isEmpty_eq_false_iff, List.all_eq_true]

theorem isWord_name (e : Endpoint) : isWord e.name.toList = true := by
  cases e <;> decide

theorem isWord_names {extensionName : String} {word : List Char} (h : IsName extensionName word)
    (e : Endpoint) : ∀ w ∈ [word, e.name.toList], isWord w = true := by
  simp only [List.mem_cons, List.not_mem_nil, or_false, forall_eq_or_imp, forall_eq]
  exact ⟨h.1, isWord_name e⟩

theorem ofWords_append (ws vs : List (List Char)) : ofWords (ws ++ vs) = ofWords ws ++ ofWords vs :=
  List.flatMap_append

theorem cons_intercalate {ws : List (List Char)} (h : ws ≠ []) :
    '/' :: ['/'].intercalate ws = ofWords ws := by
  induction ws with
  | nil => exact absurd rfl h
  | cons w ws ih =>
    cases ws with
    | nil => simp [ofWords]
    | cons v ws =>
      have hrest := ih (List.cons_ne_nil v ws)
      rw [List.intercalate_cons_cons, List.append_assoc, List.singleton_append, hrest]
      rfl

theorem inWord_or_slash_of_mem_base {baseUrl : String} {words : List (List Char)}
    (h : IsBase baseUrl words) {c : Char} (hc : c ∈ baseUrl.toList) :
    c = '/' ∨ inWord c = true := by
  obtain ⟨hwords, n, hbase⟩ := h
  rw [hbase] at hc
  rcases List.mem_append.1 hc with hc | hc
  · rcases List.mem_cons.1 hc with rfl | hc
    · exact .inl rfl
    rcases mem_of_mem_intercalate hc with hc | ⟨w, hw, hc⟩
    · exact .inl (List.mem_singleton.1 hc)
    · exact .inr ((isWord_iff.1 (hwords w hw)).2 c hc)
  · exact .inl (List.eq_of_mem_replicate hc)

theorem inWord_or_slash_of_mem_name {extensionName : String} {word : List Char}
    (h : IsName extensionName word) {c : Char} (hc : c ∈ extensionName.toList) :
    c = '/' ∨ inWord c = true := by
  obtain ⟨hword, m, n, hname⟩ := h
  rw [hname] at hc
  rcases List.mem_append.1 hc with hc | hc
  · rcases List.mem_append.1 hc with hc | hc
    · exact .inl (List.eq_of_mem_replicate hc)
    · exact .inr ((isWord_iff.1 hword).2 c hc)
  · exact .inl (List.eq_of_mem_replicate hc)

theorem trimSlashes_base {baseUrl : String} {words : List (List Char)} (h : IsBase baseUrl words) :
    trimSlashes baseUrl.toList = ['/'].intercalate words := by
  obtain ⟨hwords, n, hbase⟩ := h
  rw [hbase, List.cons_append, ← List.singleton_append, trimSlashes]
  refine trimBy_between (by decide) (by simp) ?_ ?_
  · cases words with
    | nil => exact nofun
    | cons w words =>
      obtain ⟨hne, hw⟩ := isWord_iff.1 (hwords w List.mem_cons_self)
      obtain ⟨c, w, rfl⟩ := List.exists_cons_of_ne_nil hne
      have hc : c ≠ '/' := ne_of_class (hw c List.mem_cons_self) (by decide)
      cases words <;> simp [hc]
  · rcases List.eq_nil_or_concat words with rfl | ⟨words, w, rfl⟩
    · exact nofun
    · obtain ⟨hne, hw⟩ := isWord_iff.1 (hwords w (by simp))
      obtain ⟨before, hbefore⟩ := exists_intercalate_concat ['/'] words w
      rw [List.concat_eq_append, hbefore, List.getLast?_append_of_ne_nil _ hne]
      intro c hc
      simpa using ne_of_class (hw c (List.mem_of_getLast? hc)) (by decide)

theorem trimSlashes_name {extensionName : String} {word : List Char}
    (h : IsName extensionName word) : trimSlashes extensionName.toList = word := by
  obtain ⟨hword, m, n, hname⟩ := h
  obtain ⟨-, hchars⟩ := isWord_iff.1 hword
  rw [hname, List.append_assoc, trimSlashes]
  refine trimBy_between (by simp) (by simp) ?_ ?_
  · intro c hc
    simpa using ne_of_class (hchars c (List.mem_of_head? hc)) (by decide)
  · intro c hc
    simpa using ne_of_class (hchars c (List.mem_of_getLast? hc)) (by decide)

/-- Joining a base path of words with more words. -/
theorem cons_intercalate_base {words rest : List (List Char)}
    (hwords : ∀ w ∈ words, isWord w = true) (hrest : ∀ w ∈ rest, isWord w = true)
    (hne : rest ≠ []) :
    '/' :: ['/'].intercalate ((['/'].intercalate words :: rest).filter (· ≠ [])) =
      ofWords (words ++ rest) := by
  have hkept : rest.filter (· ≠ []) = rest := by
    rw [List.filter_eq_self]
    exact fun w hw => decide_eq_true (isWord_iff.1 (hrest w hw)).1
  cases words with
  | nil =>
    have hempty : (['/'].intercalate [] :: rest).filter (· ≠ []) = rest := hkept
    rw [hempty, cons_intercalate hne]
    rfl
  | cons w words =>
    obtain ⟨hw, -⟩ := isWord_iff.1 (hwords w List.mem_cons_self)
    obtain ⟨c, hc⟩ := List.exists_mem_of_ne_nil w hw
    have hbase : ['/'].intercalate (w :: words) ≠ [] :=
      List.ne_nil_of_mem (mem_intercalate_of_mem ['/'] List.mem_cons_self hc)
    rw [List.filter_cons_of_pos (by simpa using hbase), hkept,
      cons_intercalate (List.cons_ne_nil _ _), ofWords_append,
      ← cons_intercalate (List.cons_ne_nil w words)]
    rfl

/-- **The path of an endpoint**, where base path and extension's name are made of words: each word
behind one slash. -/
theorem path_of_words {baseUrl extensionName : String} {words : List (List Char)} {word : List Char}
    (hbase : IsBase baseUrl words) (hname : IsName extensionName word) (e : Endpoint) :
    path baseUrl extensionName e = ofWords (words ++ [word, e.name.toList]) := by
  have hend : trimSlashes e.name.toList = e.name.toList ∧ endsInSlash e.name.toList = false := by
    cases e <;> decide
  obtain ⟨htrim, hslash⟩ := hend
  rw [path, pathTo, join, List.map_cons, List.map_cons, List.map_singleton,
    trimSlashes_base hbase, trimSlashes_name hname, htrim,
    cons_intercalate_base hbase.1 (isWord_names hname e) (List.cons_ne_nil _ _)]
  simp [hslash]

/-- A base path without the slashes at its end, behind a text that does not end in one. -/
theorem trimEndBy_append_base {baseUrl : String} {words : List (List Char)}
    (hbase : IsBase baseUrl words) {s : List Char} (hs : ∀ c ∈ s.getLast?, c ≠ '/') :
    trimEndBy (· = '/') (s ++ baseUrl.toList) = s ++ ofWords words := by
  obtain ⟨hwords, n, hn⟩ := hbase
  have hsplit : ∃ k, baseUrl.toList = ofWords words ++ List.replicate k '/' := by
    cases words with
    | nil => exact ⟨n + 1, hn⟩
    | cons w words => exact ⟨n, by rw [hn, cons_intercalate (List.cons_ne_nil w words)]⟩
  obtain ⟨k, hk⟩ := hsplit
  rw [hk, ← List.append_assoc, trimEndBy_append_of_all (by simp), trimEndBy_eq_self]
  rcases List.eq_nil_or_concat words with rfl | ⟨words, w, rfl⟩
  · simpa [ofWords] using hs
  · obtain ⟨hne, hw⟩ := isWord_iff.1 (hwords w (by simp))
    have hlast : s ++ ofWords (words.concat w) = s ++ (ofWords words ++ ['/']) ++ w := by
      simp [ofWords]
    rw [hlast, List.getLast?_append_of_ne_nil _ hne]
    intro c hc
    simpa using ne_of_class (hw c (List.mem_of_getLast? hc)) (by decide)

end NotebookGoto.Http.Route
