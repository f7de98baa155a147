import Mathlib.Data.List.Basic
import StaticBlog.Proofs.Path.Below
import StaticBlog.Proofs.Text.Percent
import StaticBlog.Post.Permalink
import StaticBlog.Server.Resolve
import StaticBlog.Site.Pages
import StaticBlog.Url

/-!
# Names in addresses

- `Url.pathNames` : the names in a path
- `Url.pathNames_joinWith` : names between slashes are read back
- `Url.LeadsNowhere` : whether a path leads to no directory
- `Url.segments_plainPath` : what is dropped from a permalink is no segment
- `Url.isName_labelSegment` : the directory name of a label is one name
- `Url.segments_labelPath` : the names that lead to the page of a label
- `Url.requestSegments?_eq` : the names that a request asks for
-/

namespace StaticBlog
namespace Url

/-! ## Names in a path -/

/-- The names in a path: what stands between its slashes, without empty parts and dots. -/
def pathNames (s : List Char) : List (List Char) :=
  (Text.splitWhere Path.isSlash s).filter fun w => !(w = [] || w = ['.'])

theorem pathNames_append_slash (s t : List Char) :
    pathNames (s ++ '/' :: t) = pathNames s ++ pathNames t := by
  rw [pathNames, Text.splitWhere_append s t rfl, List.filter_append]
  rfl

theorem pathNames_slash (s : List Char) : pathNames ('/' :: s) = pathNames s :=
  pathNames_append_slash [] s

theorem segments_append_slash (s t : List Char) :
    segments (s ++ '/' :: t) = segments s ++ segments t := by
  rw [segments, Text.splitWhere_append s t rfl, List.filter_append]
  rfl

theorem ne_of_isPlainSegment {w : List Char} (h : isPlainSegment w = true) :
    w ≠ [] ∧ w ≠ ['.'] ∧ w ≠ ['.', '.'] := by
  have hcases : (w ≠ [] ∧ w ≠ ['.']) ∧ w ≠ ['.', '.'] := by simpa [isPlainSegment] using h
  exact ⟨hcases.1.1, hcases.1.2, hcases.2⟩

/-- Slashes around a path do not matter. -/
theorem exists_slashes_bare (s : List Char) :
    ∃ before after, s = before ++ bare s ++ after ∧
      (∀ c ∈ before, c = '/') ∧ ∀ c ∈ after, c = '/' := by
  have hslash : ∀ c, Path.isSlash c = true → c = '/' := fun c hc => by
    simpa [Path.isSlash] using hc
  obtain ⟨before, after, heq, hbefore, hafter⟩ := Text.exists_dropBoth_append Path.isSlash s
  refine ⟨before, after, ?_, fun c hc => hslash c (hbefore c hc), fun c hc => hslash c (hafter c hc)⟩
  rw [List.append_assoc]
  exact heq

theorem mem_of_mem_bare {s : List Char} {c : Char} (h : c ∈ bare s) : c ∈ s := by
  rcases exists_slashes_bare s with ⟨before, after, heq, -, -⟩
  rw [heq]
  exact List.mem_append_left after (List.mem_append_right before h)

/-- What skips slashes in front of a text and behind it reads the same names without them. -/
theorem eq_of_bare {names : List Char → List (List Char)} (hnil : names [] = [])
    (happend : ∀ s t, names (s ++ '/' :: t) = names s ++ names t) (s : List Char) :
    names (bare s) = names s := by
  have hbefore : ∀ before t, (∀ c ∈ before, c = '/') → names (before ++ t) = names t := by
    intro before t h
    induction before with
    | nil => rfl
    | cons c before ih =>
      have hc : c = '/' := h c List.mem_cons_self
      have hrest := ih fun c' hc' => h c' (List.mem_cons_of_mem c hc')
      have hstep := happend [] (before ++ t)
      rw [hnil, List.nil_append, List.nil_append, hrest] at hstep
      rw [hc]
      exact hstep
  have hafter : ∀ after t, (∀ c ∈ after, c = '/') → names (t ++ after) = names t := by
    intro after t h
    cases after with
    | nil => rw [List.append_nil]
    | cons c after =>
      have hc : c = '/' := h c List.mem_cons_self
      have hrest := hbefore after [] fun c' hc' => h c' (List.mem_cons_of_mem c hc')
      rw [List.append_nil, hnil] at hrest
      rw [hc, happend, hrest, List.append_nil]
  rcases exists_slashes_bare s with ⟨before, after, heq, hb, ha⟩
  have hwhole : names s = names (before ++ bare s ++ after) := congrArg names heq
  rw [hwhole, hafter after _ ha, hbefore before _ hb]

theorem pathNames_bare (s : List Char) : pathNames (bare s) = pathNames s :=
  eq_of_bare rfl pathNames_append_slash s

theorem segments_bare (s : List Char) : segments (bare s) = segments s :=
  eq_of_bare rfl segments_append_slash s

/-- Names between slashes are read back. -/
theorem pathNames_joinWith {ws : List (List Char)}
    (hws : ∀ w ∈ ws, '/' ∉ w ∧ w ≠ [] ∧ w ≠ ['.']) :
    pathNames (Text.joinWith ['/'] ws) = ws := by
  cases hcases : ws with
  | nil => rfl
  | cons w rest =>
    have hne : ws ≠ [] := by simp [hcases]
    have hsplit := Text.splitWhere_joinWith (p := Path.isSlash) (b := '/') rfl
      (fun w hw => Path.isSlash_eq_false (hws w hw).1) hne
    rw [← hcases, pathNames, hsplit, List.filter_eq_self]
    intro w hw
    have hw' := (hws w hw).2
    simp [hw'.1, hw'.2]

/-- The names of a path, with slashes between, are no longer than the path. -/
theorem joinWith_pathNames_sublist (s : List Char) :
    (Text.joinWith ['/'] (pathNames s)).Sublist s := by
  have hwhole : Text.joinWith ['/'] (Text.splitWhere Path.isSlash s) = s :=
    Text.joinWith_splitWhere (fun c => by simp [Path.isSlash]) s
  have hsub : (Text.joinWith ['/'] (pathNames s)).Sublist
      (Text.joinWith ['/'] (Text.splitWhere Path.isSlash s)) :=
    Text.joinWith_sublist List.filter_sublist
  rw [hwhole] at hsub
  exact hsub

/-- Without backslashes and double dots the segments of a site path are its names. -/
theorem segments_eq_pathNames {s : List Char} (hback : '\\' ∉ s)
    (hup : ['.', '.'] ∉ Text.splitWhere Path.isSlash s) : segments s = pathNames s := by
  have hsplit : ∀ t : List Char, '\\' ∉ t →
      Text.splitWhere (fun c => c = '/' || c = '\\') t = Text.splitWhere Path.isSlash t := by
    intro t ht
    induction t with
    | nil => rfl
    | cons c t ih =>
      have hc : c ≠ '\\' := fun heq => ht (by simp [heq])
      have hrest := ih fun hmem => ht (List.mem_cons_of_mem c hmem)
      have hsame : (decide (c = '/') || decide (c = '\\')) = Path.isSlash c := by
        simp [Path.isSlash, hc]
      rw [Text.splitWhere, Text.splitWhere, hrest, hsame]
  rw [segments, pathNames, hsplit s hback]
  refine List.filter_congr ?_
  intro w hw
  have hne : w ≠ ['.', '.'] := fun heq => hup (heq ▸ hw)
  simp [isPlainSegment, hne]

/-- Whether a path leads to no directory: between its slashes of either kind there is nothing, or one
dot or two. -/
def LeadsNowhere (path : List Char) : Prop :=
  ∀ w ∈ Text.splitWhere (fun c => c = '/' || c = '\\') path, w = [] ∨ w = ['.'] ∨ w = ['.', '.']

instance (path : List Char) : Decidable (LeadsNowhere path) :=
  inferInstanceAs (Decidable (∀ w ∈ Text.splitWhere (fun c => c = '/' || c = '\\') path,
    w = [] ∨ w = ['.'] ∨ w = ['.', '.']))

theorem isPlainSegment_eq_false_iff {w : List Char} :
    isPlainSegment w = false ↔ w = [] ∨ w = ['.'] ∨ w = ['.', '.'] := by
  rw [isPlainSegment, Bool.not_eq_false']
  simp [or_assoc]

theorem segments_eq_nil_iff {path : List Char} : segments path = [] ↔ LeadsNowhere path := by
  rw [segments, List.filter_eq_nil_iff]
  exact forall₂_congr fun w _ => Bool.not_eq_true _ ▸ isPlainSegment_eq_false_iff

/-- A path that leads nowhere holds nothing but slashes and dots. -/
theorem LeadsNowhere.eq_of_mem {path : List Char} (h : LeadsNowhere path) {c : Char}
    (hc : c ∈ path) : c = '/' ∨ c = '\\' ∨ c = '.' := by
  rcases Text.mem_of_mem_splitWhere (fun c => c = '/' || c = '\\') hc with hslash | ⟨w, hw, hcw⟩
  · simp only [Bool.or_eq_true, decide_eq_true_iff] at hslash
    exact hslash.imp_right .inl
  · rcases h w hw with rfl | rfl | rfl <;> simp at hcw
    all_goals exact .inr (.inr hcw)

theorem segments_joinWith (ws : List (List Char)) :
    segments (Text.joinWith ['/'] ws) = ws.flatMap segments := by
  induction ws with
  | nil => rfl
  | cons w ws ih =>
    cases ws with
    | nil => simp [Text.joinWith]
    | cons v ws =>
      have hjoin : Text.joinWith ['/'] (w :: v :: ws) = w ++ '/' :: Text.joinWith ['/'] (v :: ws) := by
        simp [Text.joinWith]
      rw [hjoin, segments_append_slash, ih]
      rfl

/-- What is dropped from a permalink leads nowhere, and so its segments are all there. -/
theorem segments_plainPath (s : List Char) : segments (plainPath s) = segments s := by
  have hdropped : ∀ ws : List (List Char),
      (ws.filter isPlainSegment).flatMap segments = ws.flatMap segments := by
    intro ws
    induction ws with
    | nil => rfl
    | cons w ws ih =>
      cases hw : isPlainSegment w with
      | true => rw [List.filter_cons_of_pos hw, List.flatMap_cons, List.flatMap_cons, ih]
      | false =>
        have hnone : segments w = [] := by
          rcases isPlainSegment_eq_false_iff.1 hw with rfl | rfl | rfl <;> decide
        rw [List.filter_cons_of_neg (by simp [hw]), List.flatMap_cons, hnone, List.nil_append, ih]
  have hslash : ∀ c, Path.isSlash c = true ↔ c = '/' := fun c => by simp [Path.isSlash]
  calc segments (plainPath s)
      = (Text.splitWhere Path.isSlash s).flatMap segments := by
        rw [plainPath, segments_joinWith, hdropped]
    _ = segments s := by rw [← segments_joinWith, Text.joinWith_splitWhere hslash]

/-! ## Labels -/

/-- The directory name of a label is a dash if the label is blank, as many dashes as it has dots if it
has nothing else, and otherwise the label with dashes for slashes. -/
theorem labelSegmentChars_cases (label : List Char) :
    ((Text.trim label).map dashSlash = [] ∧ labelSegmentChars label = ['-']) ∨
      ((Text.trim label).map dashSlash ≠ [] ∧
        (∀ c ∈ (Text.trim label).map dashSlash, c = '.') ∧
          labelSegmentChars label = ((Text.trim label).map dashSlash).map fun _ => '-') ∨
      ((Text.trim label).map dashSlash ≠ [] ∧
        (¬ ∀ c ∈ (Text.trim label).map dashSlash, c = '.') ∧
          labelSegmentChars label = (Text.trim label).map dashSlash) := by
  unfold labelSegmentChars
  generalize (Text.trim label).map dashSlash = s
  cases s with
  | nil => exact Or.inl ⟨rfl, rfl⟩
  | cons c s =>
    by_cases hdots : ∀ d ∈ c :: s, d = '.'
    · have hall : (c :: s).all (fun d => decide (d = '.')) = true := by
        simpa [List.all_eq_true] using hdots
      exact Or.inr (Or.inl ⟨by simp, hdots, by simp only [hall]; rfl⟩)
    · have hall : ¬ (c :: s).all (fun d => decide (d = '.')) = true := by
        simpa [List.all_eq_true] using hdots
      exact Or.inr (Or.inr ⟨by simp, hdots, by simp only [hall]; rfl⟩)

/-- The directory name of a label is a plain segment without slashes of either kind. -/
theorem labelSegmentChars_plain (label : List Char) :
    isPlainSegment (labelSegmentChars label) = true ∧
      '/' ∉ labelSegmentChars label ∧ '\\' ∉ labelSegmentChars label := by
  have hdash : ∀ c, dashSlash c ≠ '/' ∧ dashSlash c ≠ '\\' := by
    intro c
    unfold dashSlash
    split
    · decide
    · next h =>
      rw [Bool.or_eq_true, decide_eq_true_iff, decide_eq_true_iff, not_or] at h
      exact h
  have hmap : ∀ d : Char, (∀ c, dashSlash c ≠ d) → d ∉ (Text.trim label).map dashSlash := by
    intro d hd hmem
    rcases List.mem_map.1 hmem with ⟨c, -, heq⟩
    exact hd c heq
  have hdashes : ∀ s : List Char, s ≠ [] → isPlainSegment (s.map fun _ => '-') = true ∧
      '/' ∉ (s.map fun _ => '-') ∧ '\\' ∉ (s.map fun _ => '-') := by
    intro s hs
    cases s with
    | nil => exact absurd rfl hs
    | cons c s => simp [isPlainSegment]
  rcases labelSegmentChars_cases label with ⟨-, heq⟩ | ⟨hne, -, heq⟩ | ⟨hne, hdots, heq⟩
  · rw [heq]
    decide
  · rw [heq]
    exact hdashes _ hne
  · rw [heq]
    refine ⟨?_, hmap '/' fun c => (hdash c).1, hmap '\\' fun c => (hdash c).2⟩
    -- A name of one or two dots would consist of dots.
    have hone : (Text.trim label).map dashSlash ≠ ['.'] := fun h => by simp [h] at hdots
    have htwo : (Text.trim label).map dashSlash ≠ ['.', '.'] := fun h => by simp [h] at hdots
    simp [isPlainSegment, hne, hone, htwo]

/-- The site path of a label's page has the directory name of the label for its last segment. -/
theorem segments_labelPath (dir label : String) :
    segments (labelPath dir label).toList =
      segments dir.toList ++ [labelSegmentChars label.toList] := by
  rcases labelSegmentChars_plain label.toList with ⟨hplain, hslash, hback⟩
  have hone : segments (labelSegmentChars label.toList) = [labelSegmentChars label.toList] := by
    have hsplit : Text.splitWhere (fun c => c = '/' || c = '\\') (labelSegmentChars label.toList) =
        [labelSegmentChars label.toList] := by
      apply Text.splitWhere_eq_singleton
      intro c hc
      have hc₁ : c ≠ '/' := fun heq => hslash (heq ▸ hc)
      have hc₂ : c ≠ '\\' := fun heq => hback (heq ▸ hc)
      simp [hc₁, hc₂]
    rw [segments, hsplit]
    simp [hplain]
  have htext : (labelPath dir label).toList =
      bare dir.toList ++ '/' :: labelSegmentChars label.toList := by
    simp [labelPath, barePath, labelSegment]
  rw [htext, segments_append_slash, segments_bare, hone]

/-! ## Requests -/

/-- The names that a request asks for, given what it decodes to. -/
theorem requestSegments?_eq {uri t : String} (h : Percent.decode? uri = some t) :
    requestSegments? uri =
      if (pathNames t.toList).any isUnsafe then none else some (pathNames t.toList) := by
  rw [requestSegments?, h]
  rfl

/-- A request that asks for names decodes, and no name leads upwards or holds a backslash. -/
theorem decode?_of_requestSegments? {uri : String} {names : List (List Char)}
    (h : requestSegments? uri = some names) :
    ∃ t, Percent.decode? uri = some t ∧ names = pathNames t.toList ∧
      ∀ w ∈ names, w ≠ ['.', '.'] ∧ '\\' ∉ w := by
  cases hdecode : Percent.decode? uri with
  | none =>
    rw [requestSegments?, hdecode] at h
    cases h
  | some t =>
    rw [requestSegments?_eq hdecode] at h
    split at h
    · cases h
    · next hany =>
      cases h
      refine ⟨t, rfl, rfl, fun w hw => ?_⟩
      have hw' : ¬ isUnsafe w = true := fun hunsafe => hany (List.any_eq_true.2 ⟨w, hw, hunsafe⟩)
      simpa [isUnsafe] using hw'

/-- The address of a label's page decodes to the directory name of the label in the directory
setting. -/
theorem decode?_labelUrl {dir : String} (label : String) (hpercent : '%' ∉ dir.toList) :
    Percent.decode? (labelUrl dir label) = some (String.ofList
      (('/' :: bare dir.toList ++ ['/']) ++ (labelSegmentChars label.toList ++ ['/']))) := by
  have hfront : '%' ∉ '/' :: bare dir.toList ++ ['/'] := by
    have hnot : '%' ∉ bare dir.toList := fun hmem => hpercent (mem_of_mem_bare hmem)
    simp [hnot]
  have hurl : (labelUrl dir label).toList = ('/' :: bare dir.toList ++ ['/']) ++
      (Percent.encode (labelSegmentChars label.toList) ++ ['/']) := by
    simp [labelUrl]
  have hend : Percent.decodeBytes (Percent.bytes ['/']) = Percent.bytes ['/'] := by decide
  apply Percent.decode?_eq_some_iff.2
  rw [String.toList_ofList, hurl]
  generalize labelSegmentChars label.toList = s
  -- The front is not escaped, what follows is the escaped name, and the end is a slash.
  symm
  calc Percent.decodeBytes (Percent.bytes (('/' :: bare dir.toList ++ ['/']) ++
        (Percent.encode s ++ ['/'])))
      = Percent.bytes ('/' :: bare dir.toList ++ ['/']) ++
          Percent.decodeBytes (Percent.bytes (Percent.encode s ++ ['/'])) := by
        rw [Percent.bytes_append, Percent.decodeBytes_append_of_not_mem hfront]
    _ = Percent.bytes ('/' :: bare dir.toList ++ ['/']) ++
          (Percent.bytes s ++ Percent.bytes ['/']) := by
        rw [Percent.bytes_append (Percent.encode s), Percent.decodeBytes_encode_append, hend]
    _ = Percent.bytes (('/' :: bare dir.toList ++ ['/']) ++ (s ++ ['/'])) := by
        simp only [Percent.bytes_append]

/-- One name behind a directory. -/
theorem pathNames_below (s : List Char) {w : List Char} (hplain : isPlainSegment w = true)
    (hslash : '/' ∉ w) :
    pathNames (('/' :: bare s ++ ['/']) ++ (w ++ ['/'])) = pathNames s ++ [w] := by
  have hne := ne_of_isPlainSegment hplain
  have hone : pathNames (Text.joinWith ['/'] [w]) = [w] :=
    pathNames_joinWith (by simp [hslash, hne.1, hne.2.1])
  have hself : pathNames w = [w] := hone
  calc pathNames (('/' :: bare s ++ ['/']) ++ (w ++ ['/']))
      = pathNames ('/' :: (bare s ++ '/' :: (w ++ '/' :: []))) := by simp
    _ = pathNames (bare s) ++ (pathNames w ++ pathNames []) := by
      rw [pathNames_slash, pathNames_append_slash, pathNames_append_slash]
    _ = pathNames s ++ [w] := by
      rw [pathNames_bare, hself]
      rfl

/-- A request for the page of a label asks for the names in the directory setting and then for the
directory name of the label. -/
theorem requestSegments?_of_label {dir : String} (label : String) (hpercent : '%' ∉ dir.toList)
    (hback : '\\' ∉ dir.toList) (hup : ['.', '.'] ∉ Text.splitWhere Path.isSlash dir.toList) :
    requestSegments? (labelUrl dir label) =
      some (pathNames dir.toList ++ [labelSegmentChars label.toList]) := by
  rcases labelSegmentChars_plain label.toList with ⟨hplain, hslash, hsegment⟩
  have hsafe : (pathNames dir.toList ++ [labelSegmentChars label.toList]).any isUnsafe = false := by
    rw [List.any_eq_false]
    intro w hw
    have hcases : w ≠ ['.', '.'] ∧ '\\' ∉ w := by
      rcases List.mem_append.1 hw with hw | hw
      · have hpiece := (List.mem_filter.1 hw).1
        refine ⟨fun heq => hup (heq ▸ hpiece), fun hmem => hback ?_⟩
        exact (Text.mem_and_eq_false_of_mem_splitWhere hpiece hmem).1
      · rw [List.mem_singleton.1 hw]
        exact ⟨(ne_of_isPlainSegment hplain).2.2, hsegment⟩
    simp [isUnsafe, hcases.1, hcases.2]
  rw [requestSegments?_eq (decode?_labelUrl label hpercent), String.toList_ofList,
    pathNames_below _ hplain hslash, hsafe]
  rfl

/-- Without backslashes and double dots in the directory setting these are the names that lead to the
page. -/
theorem segments_labelPath_eq {dir : String} (label : String) (hback : '\\' ∉ dir.toList)
    (hup : ['.', '.'] ∉ Text.splitWhere Path.isSlash dir.toList) :
    segments (labelPath dir label).toList =
      pathNames dir.toList ++ [labelSegmentChars label.toList] := by
  rw [segments_labelPath, segments_eq_pathNames hback hup]

/-! ## Links to posts -/

/-- The names in the site path of a post: they stand between its slashes, and each is a plain segment.
-/
theorem exists_segments_expandPermalink (template : String) (date : Moment) (slug : String) :
    ∃ ws, (expandPermalink template date slug).toList = Text.joinWith ['/'] ws ∧
      ∀ w ∈ ws, isPlainSegment w = true ∧ '/' ∉ w := by
  refine ⟨_, String.toList_ofList, fun w hw => ?_⟩
  rcases List.mem_filter.1 hw with ⟨hpiece, hplain⟩
  exact ⟨hplain, Text.not_mem_of_mem_splitWhere rfl hpiece⟩

section

variable {ws : List (List Char)}

/-- No name begins or ends with a slash, and so nothing made of names does. -/
theorem ne_slash_of_ends_joinWith (hws : ∀ w ∈ ws, isPlainSegment w = true ∧ '/' ∉ w) :
    (Text.joinWith ['/'] ws).head? ≠ some '/' ∧ (Text.joinWith ['/'] ws).getLast? ≠ some '/' := by
  induction ws with
  | nil => simp [Text.joinWith]
  | cons w ws ih =>
    rcases hws w List.mem_cons_self with ⟨hplain, hslash⟩
    have hhead : w.head? ≠ some '/' := fun h => hslash (List.mem_of_head? h)
    have hlast : w.getLast? ≠ some '/' := fun h => hslash (List.mem_of_getLast? h)
    cases ws with
    | nil => exact ⟨hhead, hlast⟩
    | cons v ws =>
      have hrest : ∀ u ∈ v :: ws, isPlainSegment u = true ∧ '/' ∉ u :=
        fun u hu => hws u (List.mem_cons_of_mem w hu)
      have hv := (ne_of_isPlainSegment (hrest v List.mem_cons_self).1).1
      have hne : Text.joinWith ['/'] (v :: ws) ≠ [] := by
        cases ws with
        | nil => exact hv
        | cons u ws => simp [Text.joinWith]
      have hjoin : Text.joinWith ['/'] (w :: v :: ws) =
          w ++ ['/'] ++ Text.joinWith ['/'] (v :: ws) := rfl
      rw [hjoin, List.getLast?_append_of_ne_nil _ hne, List.append_assoc,
        List.head?_append_of_ne_nil _ (ne_of_isPlainSegment hplain).1]
      exact ⟨hhead, (ih hrest).2⟩

/-- Names with slashes between have none around them. -/
theorem bare_joinWith (hws : ∀ w ∈ ws, isPlainSegment w = true ∧ '/' ∉ w) :
    bare (Text.joinWith ['/'] ws) = Text.joinWith ['/'] ws := by
  have hplain : ∀ c, c ≠ '/' → Path.isSlash c = false := fun c hc => by simpa [Path.isSlash] using hc
  rcases ne_slash_of_ends_joinWith hws with ⟨hhead, hlast⟩
  exact Text.dropBoth_eq_self_iff.2
    ⟨fun c hc => hplain c fun heq => hhead (heq ▸ hc), fun c hc => hplain c fun heq => hlast (heq ▸ hc)⟩

/-- The address of a site path that is made of names has a slash at both ends. -/
theorem toList_pageUrl {path : String} (hpath : path.toList = Text.joinWith ['/'] ws)
    (hws : ∀ w ∈ ws, isPlainSegment w = true ∧ '/' ∉ w) (hne : path.toList ≠ []) :
    pageUrl path = String.ofList ('/' :: path.toList ++ ['/']) := by
  have hbare : bare path.toList = path.toList := by rw [hpath, bare_joinWith hws]
  unfold pageUrl
  rw [hbare]
  split
  · next h => exact absurd h hne
  · rfl

/-- The names that a path is made of are the names in it. -/
theorem pathNames_of_joinWith {path : String} (hpath : path.toList = Text.joinWith ['/'] ws)
    (hws : ∀ w ∈ ws, isPlainSegment w = true ∧ '/' ∉ w) : pathNames path.toList = ws := by
  rw [hpath]
  refine pathNames_joinWith fun w hw => ?_
  have hne := ne_of_isPlainSegment (hws w hw).1
  exact ⟨(hws w hw).2, hne.1, hne.2.1⟩

/-- Without backslashes they are its segments as well. -/
theorem segments_of_joinWith {path : String} (hpath : path.toList = Text.joinWith ['/'] ws)
    (hws : ∀ w ∈ ws, isPlainSegment w = true ∧ '/' ∉ w) (hback : '\\' ∉ path.toList) :
    segments path.toList = ws := by
  have hup : ['.', '.'] ∉ Text.splitWhere Path.isSlash path.toList := by
    intro hmem
    have hname : ['.', '.'] ∈ pathNames path.toList := List.mem_filter.2 ⟨hmem, by decide⟩
    rw [pathNames_of_joinWith hpath hws] at hname
    exact (ne_of_isPlainSegment (hws _ hname).1).2.2 rfl
  rw [segments_eq_pathNames hback hup, pathNames_of_joinWith hpath hws]

/-- A request for the page of a site path asks for the names in it, if the path holds neither a
backslash nor a complete escape. -/
theorem requestSegments?_pageUrl {path : String} (hpath : path.toList = Text.joinWith ['/'] ws)
    (hws : ∀ w ∈ ws, isPlainSegment w = true ∧ '/' ∉ w) (hback : '\\' ∉ path.toList)
    (hescape : ¬ Percent.HasEscape path.toList) : requestSegments? (pageUrl path) = some ws := by
  have hnames := pathNames_of_joinWith hpath hws
  have hsafe : ws.any isUnsafe = false := by
    rw [List.any_eq_false]
    intro w hw
    have hup := (ne_of_isPlainSegment (hws w hw).1).2.2
    have hmem : '\\' ∉ w := by
      intro hmem
      have hpiece : w ∈ pathNames path.toList := hnames ▸ hw
      exact hback (Text.mem_and_eq_false_of_mem_splitWhere (List.mem_filter.1 hpiece).1 hmem).1
    simp [isUnsafe, hup, hmem]
  -- Without an escape the address is decoded to itself.
  have hself : ∃ t, Percent.decode? (pageUrl path) = some t ∧ pathNames t.toList = ws := by
    by_cases hempty : path.toList = []
    · have hnil : path = "" := String.toList_eq_nil_iff.1 hempty
      have hws' : ws = [] := by rw [← hnames, hnil]; rfl
      subst hnil
      refine ⟨"/", ?_, hws' ▸ rfl⟩
      apply Percent.decode?_eq_some_iff.2
      decide
    · refine ⟨pageUrl path, ?_, ?_⟩
      · apply Percent.decode?_eq_self_iff.2
        rw [toList_pageUrl hpath hws hempty, String.toList_ofList]
        exact mt Percent.hasEscape_of_between hescape
      · rw [toList_pageUrl hpath hws hempty, String.toList_ofList, List.cons_append, pathNames_slash,
          pathNames_append_slash, hnames]
        exact List.append_nil ws
  rcases hself with ⟨t, hdecode, ht⟩
  rw [requestSegments?_eq hdecode, ht, hsafe]
  rfl

/-- What a request for the page of a site path asks for: nothing if the path holds a backslash, and
something shorter if it holds a complete escape. -/
theorem of_requestSegments?_pageUrl {path : String} {names : List (List Char)}
    (hpath : path.toList = Text.joinWith ['/'] ws)
    (hws : ∀ w ∈ ws, isPlainSegment w = true ∧ '/' ∉ w) :
    requestSegments? (pageUrl path) = some names →
      '\\' ∉ path.toList ∧ (Percent.HasEscape path.toList →
        (Percent.bytes (Text.joinWith ['/'] names)).length < (Percent.bytes path.toList).length) := by
  intro h
  by_cases hempty : path.toList = []
  · have hnone : ¬ Percent.HasEscape path.toList := by
      rw [hempty]
      rintro ⟨before, h, l, after, heq, -⟩
      simp at heq
    exact ⟨by simp [hempty], fun hescape => absurd hescape hnone⟩
  · rw [toList_pageUrl hpath hws hempty] at h
    rcases decode?_of_requestSegments? h with ⟨t, hdecode, rfl, hsafe⟩
    rcases Percent.exists_decode?_of_between hdecode with ⟨v, hv, ht⟩
    have hself : String.ofList path.toList = path := String.ofList_toList
    rw [hself] at hv
    have hnames : pathNames t.toList = pathNames v.toList := by
      rw [ht, List.cons_append, pathNames_slash, pathNames_append_slash]
      exact List.append_nil _
    rw [hnames] at hsafe ⊢
    refine ⟨fun hback => ?_, fun hescape => ?_⟩
    · -- The backslash is kept, so a name holds it.
      have hmem := Percent.mem_of_decode?_of_mem hv hback
      rcases Text.mem_of_mem_splitWhere Path.isSlash hmem with hslash | ⟨w, hw, hmem'⟩
      · simp [Path.isSlash] at hslash
      · have hw' : w ∈ pathNames v.toList := by
          refine List.mem_filter.2 ⟨hw, ?_⟩
          have hne : w ≠ [] ∧ w ≠ ['.'] := by
            constructor <;> rintro rfl <;> simp at hmem'
          simp [hne.1, hne.2]
        exact (hsafe w hw').2 hmem'
    · have hlt := Percent.length_bytes_lt_of_hasEscape hv hescape
      have hle := Percent.length_bytes_le_of_sublist (joinWith_pathNames_sublist v.toList)
      omega

end

end Url
end StaticBlog
