import StaticBlog.Proofs.Text.Pieces
import StaticBlog.Template.Context

/-!
# Setting a nested entry

An entry deep inside a variable is set along a path through objects. What is missing on the way is
made, as an object.

- `Value.IsObject` : a value that has entries
- `Context.lookupIn` : what a path leads to from a value, if the value is there
- `Context.entriesOf?` : the entries that a path goes on with; a missing object has none
- `Context.setBelow_eq_none_iff` : a value can be set unless something else than an object is in the way
- `Context.lookup_setBelow`, `Context.lookup_setBelow_of_not_prefix`, `Context.setBelow_setBelow` : what
  is found afterwards, along the path, beside it, and when it is set again
- `Context.IsBlocked` : whether something else than an object is in the way of a path
- `Context.setNested_obeys_update_laws` : the same for the variables of a page
-/

namespace StaticBlog

/-! ## Objects -/

namespace Value

/-- A value that has entries. -/
def IsObject (v : Value) : Prop := ∃ entries, v = .object entries

theorem isObject_object (entries : Dict Value) : IsObject (.object entries) := ⟨entries, rfl⟩

end Value

namespace Context

variable {value w : Value} {current : Option Value} {entries : Dict Value} {key : String}
  {path front other : List String}

/-! ## Look-up on the way -/

/-- The value that a path leads to from a value, if that is there. -/
def lookupIn (current : Option Value) (path : List String) : Option Value :=
  current.bind fun v => v.lookup path

/-- The entries that a path goes on with. A missing object counts as an empty one. -/
def entriesOf? : Option Value → Option (Dict Value)
  | none => some []
  | some (.object entries) => some entries
  | some _ => none

theorem entriesOf?_object (entries : Dict Value) : entriesOf? (some (.object entries)) = some entries :=
  rfl

/-- There are none exactly in a value that is no object. -/
theorem entriesOf?_eq_none_iff : entriesOf? current = none ↔ ∃ v, current = some v ∧ ¬ v.IsObject := by
  cases current with
  | none => simp [entriesOf?]
  | some v => cases v <;> simp [entriesOf?, Value.IsObject]

theorem lookupIn_nil (current : Option Value) : lookupIn current [] = current := by
  cases current <;> rfl

/-- A path goes on from the entry that its first name has. -/
theorem lookupIn_cons (h : entriesOf? current = some entries) (key : String) (path : List String) :
    lookupIn current (key :: path) = lookupIn (Dict.get? entries key) path := by
  cases current with
  | none =>
    cases h
    rfl
  | some v => cases v with
    | object es =>
      cases h
      rfl
    | null | bool _ | number _ | string _ | array _ => cases h

/-! ## Setting a value below another one -/

/-- A value is set in the entry of the first name, and the entry is put back. -/
theorem setBelow_cons (value : Value) (key : String) (path : List String) (current : Option Value) :
    setBelow value (key :: path) current = (entriesOf? current).bind fun entries =>
      (setBelow value path (Dict.get? entries key)).map fun v => .object (Dict.insert entries key v) := by
  cases current with
  | none => rfl
  | some v => cases v <;> rfl

theorem setBelow_cons_eq_some_iff :
    setBelow value (key :: path) current = some w ↔ ∃ entries v, entriesOf? current = some entries ∧
      setBelow value path (Dict.get? entries key) = some v ∧ .object (Dict.insert entries key v) = w := by
  simp only [setBelow_cons, Option.bind_eq_some_iff, Option.map_eq_some_iff, exists_and_left]

/-- Whether something else than an object is in the way of a path, from a value that may be missing. -/
def Blocks (current : Option Value) (path : List String) : Prop :=
  ∃ front v, front <+: path ∧ front ≠ path ∧ lookupIn current front = some v ∧ ¬ v.IsObject

theorem not_blocks_nil (current : Option Value) : ¬ Blocks current [] := by
  rintro ⟨front, v, hfront, hne, -, -⟩
  exact hne (List.prefix_nil.1 hfront)

/-- What has no entries is in the way of every name. -/
theorem blocks_of_entriesOf? (h : entriesOf? current = none) (key : String) (path : List String) :
    Blocks current (key :: path) := by
  obtain ⟨v, rfl, hv⟩ := entriesOf?_eq_none_iff.1 h
  exact ⟨[], v, List.nil_prefix, by simp, rfl, hv⟩

theorem blocks_cons_iff (h : entriesOf? current = some entries) :
    Blocks current (key :: path) ↔ Blocks (Dict.get? entries key) path := by
  constructor
  · rintro ⟨front, v, hfront, hne, hv, hobject⟩
    cases front with
    | nil =>
      -- The value itself would have to be in the way, but it has entries.
      rw [lookupIn_nil] at hv
      have hnone := entriesOf?_eq_none_iff.2 ⟨v, hv, hobject⟩
      rw [h] at hnone
      cases hnone
    | cons k front =>
      obtain ⟨rfl, hrest⟩ := List.cons_prefix_cons.1 hfront
      rw [lookupIn_cons h] at hv
      exact ⟨front, v, hrest, fun heq => hne (heq ▸ rfl), hv, hobject⟩
  · rintro ⟨front, v, hfront, hne, hv, hobject⟩
    refine ⟨key :: front, v, List.cons_prefix_cons.2 ⟨rfl, hfront⟩, fun heq => ?_, ?_, hobject⟩
    · exact hne (List.cons.inj heq).2
    · rw [lookupIn_cons h, hv]

/-- A value can be set unless something else than an object is in the way. -/
theorem setBelow_eq_none_iff (value : Value) :
    setBelow value path current = none ↔ Blocks current path := by
  induction path generalizing current with
  | nil => exact iff_of_false (by simp [setBelow]) (not_blocks_nil current)
  | cons key path ih =>
    cases hentries : entriesOf? current with
    | none =>
      refine iff_of_true ?_ (blocks_of_entriesOf? hentries key path)
      rw [setBelow_cons, hentries, Option.bind_none]
    | some entries =>
      rw [blocks_cons_iff hentries, ← ih, setBelow_cons, hentries, Option.bind_some,
        Option.map_eq_none_iff]

/-- The path leads to the value, and further paths go on from it. -/
theorem lookup_setBelow (h : setBelow value path current = some w) (more : List String) :
    w.lookup (path ++ more) = value.lookup more := by
  induction path generalizing current w with
  | nil =>
    cases h
    rfl
  | cons key path ih =>
    obtain ⟨entries, v, -, hv, rfl⟩ := setBelow_cons_eq_some_iff.1 h
    calc (Value.object (Dict.insert entries key v)).lookup (key :: (path ++ more))
        = lookupIn (Dict.get? (Dict.insert entries key v) key) (path ++ more) := rfl
      _ = v.lookup (path ++ more) := by rw [Dict.get?_insert_self]; rfl
      _ = value.lookup more := ih hv

/-- A path that leaves the path beside the value leads to what it led to. -/
theorem lookup_setBelow_of_not_prefix (h : setBelow value path current = some w)
    (hfront : ¬ other <+: path) (hback : ¬ path <+: other) :
    w.lookup other = lookupIn current other := by
  induction path generalizing current w other with
  | nil => exact absurd List.nil_prefix hback
  | cons key path ih =>
    obtain ⟨entries, v, hentries, hv, rfl⟩ := setBelow_cons_eq_some_iff.1 h
    cases other with
    | nil => exact absurd List.nil_prefix hfront
    | cons k other =>
      have hstep : (Value.object (Dict.insert entries key v)).lookup (k :: other) =
          lookupIn (Dict.get? (Dict.insert entries key v) k) other := rfl
      rw [hstep, lookupIn_cons hentries]
      by_cases hk : key = k
      · -- The paths go on together, and part later.
        subst hk
        rw [Dict.get?_insert_self]
        exact ih hv (fun hrest => hfront (List.cons_prefix_cons.2 ⟨rfl, hrest⟩))
          fun hrest => hback (List.cons_prefix_cons.2 ⟨rfl, hrest⟩)
      · rw [Dict.get?_insert_of_ne entries v hk]

/-- On the way to the value there are objects. -/
theorem isObject_of_setBelow (h : setBelow value path current = some w) (hfront : front <+: path)
    (hne : front ≠ path) : ∃ v, w.lookup front = some v ∧ v.IsObject := by
  induction path generalizing current w front with
  | nil => exact absurd (List.prefix_nil.1 hfront) hne
  | cons key path ih =>
    obtain ⟨entries, v, -, hv, rfl⟩ := setBelow_cons_eq_some_iff.1 h
    cases front with
    | nil => exact ⟨_, rfl, Value.isObject_object _⟩
    | cons k front =>
      obtain ⟨rfl, hrest⟩ := List.cons_prefix_cons.1 hfront
      obtain ⟨x, hx, hobject⟩ := ih hv hrest fun heq => hne (heq ▸ rfl)
      refine ⟨x, ?_, hobject⟩
      calc (Value.object (Dict.insert entries k v)).lookup (k :: front)
          = lookupIn (Dict.get? (Dict.insert entries k v) k) front := rfl
        _ = v.lookup front := by rw [Dict.get?_insert_self]; rfl
        _ = some x := hx

/-- A value that is set again replaces the first one. -/
theorem setBelow_setBelow (h : setBelow value path current = some w) (value' : Value) :
    setBelow value' path (some w) = setBelow value' path current := by
  induction path generalizing current w with
  | nil => rfl
  | cons key path ih =>
    obtain ⟨entries, v, hentries, hv, rfl⟩ := setBelow_cons_eq_some_iff.1 h
    rw [setBelow_cons, setBelow_cons, hentries, entriesOf?_object, Option.bind_some, Option.bind_some,
      Dict.get?_insert_self, ih hv]
    simp only [Dict.insert_insert]

/-! ## The variables of a page -/

theorem set_set (c : Context) (name : String) (v v' : Value) : (c.set name v).set name v' = c.set name v' := by
  rw [set, set, set, Dict.insert_insert]

theorem exists_segments (path : String) : ∃ name rest, segments path = name :: rest := by
  refine List.exists_cons_of_ne_nil fun hnil => ?_
  exact Text.splitWhere_ne_nil _ _ (List.map_eq_nil_iff.1 hnil)

/-- Whether a value that is no object is in the way of a path: one that a shorter path leads to. -/
def IsBlocked (c : Context) (path : List String) : Prop :=
  ∃ front v, front ≠ [] ∧ front <+: path ∧ front ≠ path ∧ c.resolve front = some v ∧ ¬ v.IsObject

theorem isBlocked_cons_iff {c : Context} {name : String} :
    c.IsBlocked (name :: path) ↔ Blocks (c.get? name) path := by
  constructor
  · rintro ⟨front, v, hne, hfront, hshort, hv, hobject⟩
    cases front with
    | nil => exact absurd rfl hne
    | cons k front =>
      obtain ⟨rfl, hrest⟩ := List.cons_prefix_cons.1 hfront
      exact ⟨front, v, hrest, fun heq => hshort (heq ▸ rfl), hv, hobject⟩
  · rintro ⟨front, v, hfront, hne, hv, hobject⟩
    refine ⟨name :: front, v, by simp, List.cons_prefix_cons.2 ⟨rfl, hfront⟩, fun heq => ?_, hv, hobject⟩
    exact hne (List.cons.inj heq).2

section

variable {c : Context} {dotted name : String} {rest : List String} (hpath : segments dotted = name :: rest)
include hpath

/-- Where something is in the way, nothing is set. -/
theorem setNested_of_none (h : setBelow value rest (c.get? name) = none) :
    c.setNested dotted value = c := by
  simp only [setNested, hpath, h]

theorem setNested_of_some (h : setBelow value rest (c.get? name) = some w) :
    c.setNested dotted value = c.set name w := by
  simp only [setNested, hpath, h]

end

/-- If something else than an object is in the way of a dotted path, setting an entry there changes
nothing. Otherwise the path leads to the value then, and further paths go on from it; a path that is
neither shorter nor longer leads to what it led to; each shorter path leads to an object, which has been
made if it was missing; and a value that is set there later replaces the first one. -/
theorem setNested_obeys_update_laws (c : Context) (path : String) (value : Value) :
    (c.IsBlocked (segments path) → c.setNested path value = c) ∧
      (¬ c.IsBlocked (segments path) →
        (c.setNested path value).resolve (segments path) = some value ∧
        (∀ more, (c.setNested path value).resolve (segments path ++ more) = value.lookup more) ∧
        (∀ other, ¬ other <+: segments path → ¬ segments path <+: other →
          (c.setNested path value).resolve other = c.resolve other) ∧
        (∀ front, front ≠ [] → front <+: segments path → front ≠ segments path →
          ∃ v, (c.setNested path value).resolve front = some v ∧ v.IsObject) ∧
        ∀ value', (c.setNested path value).setNested path value' = c.setNested path value') := by
  obtain ⟨name, rest, hpath⟩ := exists_segments path
  rw [hpath, isBlocked_cons_iff, ← setBelow_eq_none_iff value]
  refine ⟨setNested_of_none hpath, fun hfree => ?_⟩
  obtain ⟨w, hw⟩ := Option.ne_none_iff_exists'.1 hfree
  -- Only the variable that the path begins with is another one.
  have hset := setNested_of_some hpath hw
  have hresolve : ∀ more, (c.setNested path value).resolve (name :: more) = w.lookup more := by
    intro more
    rw [hset, resolve, get?_set_self, Option.bind_some]
  have hfound : ∀ more, (c.setNested path value).resolve (name :: rest ++ more) = value.lookup more :=
    fun more => (hresolve (rest ++ more)).trans (lookup_setBelow hw more)
  refine ⟨?_, hfound, ?_, ?_, ?_⟩
  · have hself := hfound []
    rwa [List.append_nil] at hself
  · intro other hfront hback
    cases other with
    | nil => exact absurd List.nil_prefix hfront
    | cons k other =>
      by_cases hk : name = k
      · subst hk
        rw [hresolve]
        exact lookup_setBelow_of_not_prefix hw (fun h => hfront (List.cons_prefix_cons.2 ⟨rfl, h⟩))
          fun h => hback (List.cons_prefix_cons.2 ⟨rfl, h⟩)
      · rw [hset, resolve, resolve, get?_set_of_ne c w hk]
  · intro front hne hfront hshort
    cases front with
    | nil => exact absurd rfl hne
    | cons k front =>
      obtain ⟨rfl, hrest⟩ := List.cons_prefix_cons.1 hfront
      rw [hresolve]
      exact isObject_of_setBelow hw hrest fun heq => hshort (heq ▸ rfl)
  · intro value'
    -- Nothing is in the way of another value either.
    have hfree' : setBelow value' rest (c.get? name) ≠ none := by
      rw [ne_eq, setBelow_eq_none_iff value', ← setBelow_eq_none_iff value]
      exact hfree
    obtain ⟨w', hw'⟩ := Option.ne_none_iff_exists'.1 hfree'
    have hagain : setBelow value' rest ((c.setNested path value).get? name) = some w' := by
      rw [hset, get?_set_self, setBelow_setBelow hw, hw']
    rw [setNested_of_some hpath hagain, setNested_of_some hpath hw', hset, set_set]

/-- A page with a title. Two objects are made on the way to a new entry, and a table of contents is set
beside the title; below the title, which is no object, nothing is set. -/
theorem entries_set_beside_title :
    let c : Context := ⟨[("page", .object [("title", "T")])]⟩
    ¬ c.IsBlocked (segments "meta.og.type") ∧
      (c.setNested "meta.og.type" "article").resolve ["meta", "og", "type"] = some "article" ∧
      (∃ v, (c.setNested "meta.og.type" "article").resolve ["meta", "og"] = some v ∧ v.IsObject) ∧
      ¬ c.IsBlocked (segments "page.toc") ∧
      (c.setNested "page.toc" "<ol></ol>").resolve ["page", "toc"] = some "<ol></ol>" ∧
      (c.setNested "page.toc" "<ol></ol>").resolve ["page", "title"] = c.resolve ["page", "title"] ∧
      c.IsBlocked (segments "page.title.length") ∧ c.setNested "page.title.length" "1" = c := by
  intro c
  have hmeta : segments "meta.og.type" = ["meta", "og", "type"] := rfl
  have htoc : segments "page.toc" = ["page", "toc"] := rfl
  have htitle : segments "page.title.length" = ["page", "title", "length"] := rfl
  have hmetaFree : ¬ c.IsBlocked (segments "meta.og.type") := by
    rw [hmeta, isBlocked_cons_iff, ← setBelow_eq_none_iff (.string "article")]
    exact fun h => nomatch h
  have htocFree : ¬ c.IsBlocked (segments "page.toc") := by
    rw [htoc, isBlocked_cons_iff, ← setBelow_eq_none_iff (.string "<ol></ol>")]
    exact fun h => nomatch h
  have hblocked : c.IsBlocked (segments "page.title.length") := by
    rw [htitle, isBlocked_cons_iff, ← setBelow_eq_none_iff (.string "1")]
    rfl
  obtain ⟨-, hfree⟩ := setNested_obeys_update_laws c "meta.og.type" "article"
  obtain ⟨hself, -, -, hobject, -⟩ := hfree hmetaFree
  obtain ⟨-, hfree'⟩ := setNested_obeys_update_laws c "page.toc" "<ol></ol>"
  obtain ⟨hself', -, hother, -, -⟩ := hfree' htocFree
  rw [hmeta] at hself hobject
  rw [htoc] at hself' hother
  exact ⟨hmetaFree, hself, hobject ["meta", "og"] (by decide) (by decide) (by decide), htocFree, hself',
    hother ["page", "title"] (by decide) (by decide), hblocked,
    (setNested_obeys_update_laws c "page.title.length" "1").1 hblocked⟩

end Context
end StaticBlog
