import NotebookGoto.Proofs.Http.Route

/-!
# The segments of routes

The path of an endpoint starts with a slash, so its first segment is empty. Behind it stand the
segments of the base path without the slashes at its ends, the extension's name without the slashes
around it, and the endpoint's name. Slashes inside the base path stay as they are, so it may have
empty segments.

* **`splitOn_pathTo`**: the segments of a path, where the extension's name is one.
* **`mem_splitOn_of_mem_baseSegments`**: no segment of a path but those that the base path had
  before the slashes were taken off.
* **`path_eq_iff`**: two servers have the same paths just where the segments before the endpoints
  are the same.
-/

namespace NotebookGoto.Http.Route

open Text

/-! ## Splitting -/

theorem not_mem_of_mem_splitOn {sep : Char} {s segment : List Char} (h : segment ∈ s.splitOn sep) :
    sep ∉ segment := by
  induction s generalizing segment with
  | nil =>
    rw [List.splitOn_nil, List.mem_singleton] at h
    simp [h]
  | cons c s ih =>
    rw [List.splitOn_cons_eq_if_modifyHead] at h
    split at h
    · rcases List.mem_cons.1 h with rfl | h
      · simp
      · exact ih h
    · rename_i hc
      -- The character goes to the first of the segments behind it.
      obtain ⟨first, others, hsplit⟩ := List.exists_cons_of_ne_nil (List.splitOn_ne_nil sep s)
      rw [hsplit, List.modifyHead_cons] at h
      rcases List.mem_cons.1 h with rfl | h
      · have hfirst : sep ∉ first := ih (hsplit ▸ List.mem_cons_self)
        have hne : sep ≠ c := fun e => hc (by simp [e])
        simp [hne, hfirst]
      · exact ih (hsplit ▸ List.mem_cons_of_mem first h)

theorem splitOn_cons_self (sep : Char) (s : List Char) :
    (sep :: s).splitOn sep = [] :: s.splitOn sep := by
  have h := List.splitOn_append_cons_self (a := sep) [] s
  rwa [List.splitOn_nil] at h

theorem mem_splitOn_append_right {sep : Char} {slashes s segment : List Char}
    (hall : ∀ c ∈ slashes, c = sep) (h : segment ∈ s.splitOn sep) :
    segment ∈ (slashes ++ s).splitOn sep := by
  induction slashes with
  | nil => exact h
  | cons c slashes ih =>
    have hc : c = sep := hall c List.mem_cons_self
    rw [hc, List.cons_append, splitOn_cons_self]
    exact List.mem_cons_of_mem [] (ih fun d hd => hall d (List.mem_cons_of_mem c hd))

theorem mem_splitOn_append_left {sep : Char} {slashes s segment : List Char}
    (hall : ∀ c ∈ slashes, c = sep) (h : segment ∈ s.splitOn sep) :
    segment ∈ (s ++ slashes).splitOn sep := by
  cases slashes with
  | nil => rwa [List.append_nil]
  | cons c slashes =>
    rw [hall c List.mem_cons_self, List.splitOn_append_cons_self]
    exact List.mem_append_left _ h

/-! ## Segments that are joined -/

/-- A text that is a segment of a path, and not an empty one. -/
def IsSegment (s : List Char) : Prop :=
  s ≠ [] ∧ '/' ∉ s

theorem trimSlashes_of_isSegment {s : List Char} (h : IsSegment s) : trimSlashes s = s := by
  apply trimBy_eq_self
  · intro c hc hslash
    have hc' : c = '/' := by simpa using hslash
    exact h.2 (hc' ▸ List.mem_of_head? hc)
  · intro c hc hslash
    have hc' : c = '/' := by simpa using hslash
    exact h.2 (hc' ▸ List.mem_of_getLast? hc)

theorem trimSlashes_cons_slash {s : List Char} (h : IsSegment s) : trimSlashes ('/' :: s) = s := by
  show trimBy (· = '/') (['/'] ++ s) = s
  rw [trimBy_append_of_all (by decide)]
  exact trimSlashes_of_isSegment h

theorem isSegment_replicate {n : Nat} {c : Char} (hn : n ≠ 0) (hc : c ≠ '/') :
    IsSegment (List.replicate n c) := by
  constructor
  · rwa [Ne, List.replicate_eq_nil_iff]
  · exact fun hmem => hc (List.eq_of_mem_replicate hmem).symm

theorem endsInSlash_append_of_isSegment {s : List Char} (h : IsSegment s) (before : List Char) :
    endsInSlash (before ++ s) = false := by
  rw [endsInSlash, List.getLast?_append_of_ne_nil before h.1]
  apply decide_eq_false
  exact fun hlast => h.2 (List.mem_of_getLast? hlast)

/-- Segments that are joined, each behind a slash, are read back. -/
theorem splitOn_ofWords {ws : List (List Char)} (hws : ∀ w ∈ ws, '/' ∉ w) (hne : ws ≠ []) :
    (ofWords ws).splitOn '/' = [] :: ws := by
  rw [← cons_intercalate hne, splitOn_cons_self, List.splitOn_intercalate '/' hws hne]

theorem ofWords_splitOn (s : List Char) : ofWords (s.splitOn '/') = '/' :: s := by
  rw [← cons_intercalate (List.splitOn_ne_nil '/' s), List.intercalate_splitOn]

/-! ## The paths of endpoints -/

/-- The segments of a base path without the slashes at its ends. There are none if nothing is
left. -/
def baseSegments (baseUrl : String) : List (List Char) :=
  if trimSlashes baseUrl.toList = [] then [] else (trimSlashes baseUrl.toList).splitOn '/'

/-- The segments that stand before the endpoints. -/
def segments (baseUrl extensionName : String) : List (List Char) :=
  baseSegments baseUrl ++ [trimSlashes extensionName.toList]

theorem slash_not_mem_of_mem_baseSegments {baseUrl : String} {segment : List Char}
    (h : segment ∈ baseSegments baseUrl) : '/' ∉ segment := by
  rw [baseSegments] at h
  split at h
  · cases h
  · exact not_mem_of_mem_splitOn h

/-- Taking slashes off the ends of a base path makes no new segments. -/
theorem mem_splitOn_of_mem_baseSegments {baseUrl : String} {segment : List Char}
    (h : segment ∈ baseSegments baseUrl) : segment ∈ baseUrl.toList.splitOn '/' := by
  rw [baseSegments] at h
  split at h
  · cases h
  obtain ⟨before, behind, hparts, hbefore, hbehind⟩ := exists_trimBy (· = '/') baseUrl.toList
  have hslash {slashes : List Char} (hall : slashes.all (· = '/') = true) :
      ∀ c ∈ slashes, c = '/' := by simpa using hall
  rw [hparts]
  apply mem_splitOn_append_right (hslash hbefore)
  exact mem_splitOn_append_left (hslash hbehind) h

theorem mem_segment_of_mem {baseUrl extensionName : String} {c : Char} (hc : c ≠ '/')
    (hmem : c ∈ baseUrl.toList ∨ c ∈ extensionName.toList) :
    ∃ segment ∈ segments baseUrl extensionName, c ∈ segment := by
  have hnot : ¬ decide (c = '/') = true := by simpa using hc
  rcases hmem with hbase | hext
  · have hkept : c ∈ trimSlashes baseUrl.toList := mem_trimBy_of_mem hbase hnot
    have hjoin : ['/'].intercalate ((trimSlashes baseUrl.toList).splitOn '/') =
        trimSlashes baseUrl.toList := List.intercalate_splitOn '/'
    rcases mem_of_mem_intercalate (hjoin.symm ▸ hkept) with hslash | ⟨segment, hsegment, hmem⟩
    · exact absurd (List.mem_singleton.1 hslash) hc
    · refine ⟨segment, List.mem_append_left _ ?_, hmem⟩
      rw [baseSegments, if_neg (List.ne_nil_of_mem hkept)]
      exact hsegment
  · exact ⟨_, List.mem_append_right _ (List.mem_singleton.2 rfl), mem_trimBy_of_mem hext hnot⟩

theorem slash_not_mem_of_mem_segments (baseUrl : String) {extensionName : String}
    (hname : IsSegment (trimSlashes extensionName.toList)) :
    ∀ segment ∈ segments baseUrl extensionName, '/' ∉ segment := by
  intro segment h
  rcases List.mem_append.1 h with h | h
  · exact slash_not_mem_of_mem_baseSegments h
  · rw [List.mem_singleton.1 h]
    exact hname.2

section

variable (baseUrl : String) {extensionName name : String}

/-- The path of what has a name, as segments with a slash before each of them. -/
theorem pathTo_eq_ofWords (hext : IsSegment (trimSlashes extensionName.toList))
    (hname : IsSegment name.toList) :
    pathTo baseUrl extensionName name =
      ofWords (segments baseUrl extensionName ++ [name.toList]) := by
  have hends : trimSlashes name.toList = name.toList := trimSlashes_of_isSegment hname
  have hlast : kept [name.toList] = [name.toList] := by
    rw [kept_singleton (by rw [hends]; exact hname.1), hends]
  have hkept : kept [baseUrl.toList, extensionName.toList, name.toList] =
      kept [baseUrl.toList] ++ [trimSlashes extensionName.toList, name.toList] := by
    show kept ([baseUrl.toList] ++ ([extensionName.toList] ++ [name.toList])) = _
    rw [kept_append, kept_append, kept_singleton hext.1, hlast]
    rfl
  have hne : kept [baseUrl.toList] ++ [trimSlashes extensionName.toList, name.toList] ≠ [] := by
    simp
  -- A base path of several segments is one of the parts that are joined; split, it is all of them.
  have hsplit :
      (['/'].intercalate (kept [baseUrl.toList, extensionName.toList, name.toList])).splitOn '/' =
        segments baseUrl extensionName ++ [name.toList] := by
    have hbase : (kept [baseUrl.toList]).flatMap (·.splitOn '/') = baseSegments baseUrl := by
      by_cases hnil : trimSlashes baseUrl.toList = []
      · simp [baseSegments, kept, hnil]
      · simp [baseSegments, kept, hnil]
    rw [hkept, splitOn_intercalate_flatMap '/' hne, List.flatMap_append, hbase, segments,
      List.append_assoc]
    simp [List.splitOn_eq_singleton hext.2, List.splitOn_eq_singleton hname.2]
  have hjoined := congrArg ['/'].intercalate hsplit
  rw [List.intercalate_splitOn, kept] at hjoined
  have hslash : endsInSlash name.toList = false := endsInSlash_append_of_isSegment hname []
  rw [pathTo, join, hjoined, cons_intercalate (by simp)]
  simp [hslash]

theorem path_eq_ofWords (hext : IsSegment (trimSlashes extensionName.toList)) (e : Endpoint) :
    path baseUrl extensionName e =
      ofWords (segments baseUrl extensionName ++ [e.name.toList]) := by
  apply pathTo_eq_ofWords baseUrl hext
  cases e <;> exact ⟨by decide, by decide⟩

/-- **The segments of a path.** -/
theorem splitOn_pathTo (hext : IsSegment (trimSlashes extensionName.toList))
    (hname : IsSegment name.toList) :
    (pathTo baseUrl extensionName name).splitOn '/' =
      [] :: (segments baseUrl extensionName ++ [name.toList]) := by
  rw [pathTo_eq_ofWords baseUrl hext hname]
  refine splitOn_ofWords (fun w hw => ?_) (by simp)
  rcases List.mem_append.1 hw with hw | hw
  · exact slash_not_mem_of_mem_segments baseUrl hext w hw
  · rw [List.mem_singleton.1 hw]
    exact hname.2

theorem splitOn_path (hext : IsSegment (trimSlashes extensionName.toList)) (e : Endpoint) :
    (path baseUrl extensionName e).splitOn '/' =
      [] :: (segments baseUrl extensionName ++ [e.name.toList]) := by
  apply splitOn_pathTo baseUrl hext
  cases e <;> exact ⟨by decide, by decide⟩

/-- A path is no shorter than its base path without the slashes at the ends. -/
theorem length_trimSlashes_le_length_path (hext : IsSegment (trimSlashes extensionName.toList))
    (e : Endpoint) :
    (trimSlashes baseUrl.toList).length ≤ (path baseUrl extensionName e).length := by
  have hbase : (trimSlashes baseUrl.toList).length ≤ (ofWords (baseSegments baseUrl)).length := by
    unfold baseSegments
    split
    · rename_i hnil
      rw [hnil]
      exact Nat.zero_le _
    · rw [ofWords_splitOn]
      exact Nat.le_succ _
  rw [path_eq_ofWords baseUrl hext, segments, ofWords_append, ofWords_append, List.length_append,
    List.length_append]
  omega

/-- Below a base path of one segment all paths are longer than this segment. -/
theorem length_le_length_path_of_isSegment {s : List Char} (hs : IsSegment s)
    (hext : IsSegment (trimSlashes extensionName.toList)) (e : Endpoint) :
    s.length ≤ (path (String.ofList ('/' :: s)) extensionName e).length := by
  have h := length_trimSlashes_le_length_path (String.ofList ('/' :: s)) hext e
  rwa [String.toList_ofList, trimSlashes_cons_slash hs] at h

end

/-- **Two servers have the same paths** just where the segments before their endpoints are the
same. -/
theorem path_eq_iff (baseUrl baseUrl' : String) {extensionName extensionName' : String}
    (hext : IsSegment (trimSlashes extensionName.toList))
    (hext' : IsSegment (trimSlashes extensionName'.toList)) (e : Endpoint) :
    path baseUrl extensionName e = path baseUrl' extensionName' e ↔
      segments baseUrl extensionName = segments baseUrl' extensionName' := by
  constructor
  · intro h
    have hsplit := congrArg (List.splitOn '/') h
    rw [splitOn_path baseUrl hext, splitOn_path baseUrl' hext'] at hsplit
    exact List.append_cancel_right (List.cons.inj hsplit).2
  · intro h
    rw [path_eq_ofWords baseUrl hext, path_eq_ofWords baseUrl' hext', h]

end NotebookGoto.Http.Route
