import StaticBlog.Proofs.Dict
import StaticBlog.Proofs.Template.FreeNames

/-!
# The order of entries

Templates look entries up by name and never run through them, so a page does not show in which order
the entries of an object stand.

- `Value.SameUpToOrder` : values that are equal up to the order of entries, at any depth
- `Value.sameUpToOrder_object_iff` : objects up to order, by what is found in them
- `Value.isBisimulation_sameUpToOrder` : no template tells such values apart
- `Template.render_eq_of_sameUpToOrder` : variables that are equal up to order make the same page
-/

namespace StaticBlog
namespace Value

/-! ## Values up to order -/

mutual

/-- Values that are equal up to the order of the entries of objects, at any depth. The names in an
object are distinct, and arrays keep their order. -/
inductive SameUpToOrder : Value → Value → Prop
  | null : SameUpToOrder .null .null
  | bool (b : Bool) : SameUpToOrder (.bool b) (.bool b)
  | number (x : Binary64) : SameUpToOrder (.number x) (.number x)
  | string (s : String) : SameUpToOrder (.string s) (.string s)
  | array {items items' : List Value} (h : ItemsSameUpToOrder items items') :
      SameUpToOrder (.array items) (.array items')
  | object {entries moved entries' : Dict Value} (distinct : entries.keys.Nodup)
      (perm : entries.Perm moved) (h : EntriesSameUpToOrder moved entries') :
      SameUpToOrder (.object entries) (.object entries')

/-- Lists of such values, item by item. -/
inductive ItemsSameUpToOrder : List Value → List Value → Prop
  | nil : ItemsSameUpToOrder [] []
  | cons {v w : Value} {vs ws : List Value} (h : SameUpToOrder v w)
      (hs : ItemsSameUpToOrder vs ws) : ItemsSameUpToOrder (v :: vs) (w :: ws)

/-- Entries with the same names and such values, one by one. -/
inductive EntriesSameUpToOrder : Dict Value → Dict Value → Prop
  | nil : EntriesSameUpToOrder [] []
  | cons (name : String) {v w : Value} {d e : Dict Value} (h : SameUpToOrder v w)
      (hs : EntriesSameUpToOrder d e) : EntriesSameUpToOrder ((name, v) :: d) ((name, w) :: e)

end

/-! ## Parts of such values -/

theorem ItemsSameUpToOrder.forall₂ {items items' : List Value} :
    ItemsSameUpToOrder items items' → List.Forall₂ SameUpToOrder items items'
  | .nil => .nil
  | .cons h hs => .cons h hs.forall₂

theorem forall₂_getElem? {R : Value → Value → Prop} {vs ws : List Value}
    (h : List.Forall₂ R vs ws) (i : Nat) : Option.Rel R vs[i]? ws[i]? := by
  induction h generalizing i with
  | nil => exact .none
  | cons h _ ih =>
    cases i with
    | zero => exact .some h
    | succ i => exact ih i

theorem EntriesSameUpToOrder.get? {d e : Dict Value} (h : EntriesSameUpToOrder d e)
    (name : String) : Option.Rel SameUpToOrder (d.get? name) (e.get? name) := by
  induction d generalizing e with
  | nil =>
    cases h
    exact .none
  | cons entry d ih =>
    cases h with
    | cons key h hs =>
      simp only [Dict.get?]
      split
      · exact .some h
      · exact ih hs

theorem EntriesSameUpToOrder.keys_eq {d e : Dict Value} :
    EntriesSameUpToOrder d e → d.keys = e.keys
  | .nil => rfl
  | .cons name _ hs => congrArg (name :: ·) hs.keys_eq

/-- Entries that are looked up alike can be put into one order. -/
theorem exists_moved {d e : Dict Value} (hd : d.keys.Nodup) (he : e.keys.Nodup)
    (h : ∀ name, Option.Rel SameUpToOrder (d.get? name) (e.get? name)) :
    ∃ moved, d.Perm moved ∧ EntriesSameUpToOrder moved e := by
  induction e generalizing d with
  | nil =>
    have hnil : d.keys = [] := by
      refine List.eq_nil_iff_forall_not_mem.2 fun name hname => ?_
      have hnone := h name
      generalize hget : d.get? name = found at hnone
      cases hnone
      exact Dict.get?_eq_none_iff.1 hget hname
    exact ⟨[], by rw [List.map_eq_nil_iff.1 hnil], .nil⟩
  | cons entry e ih =>
    rcases entry with ⟨k, w⟩
    rcases List.nodup_cons.1 he with ⟨hk, he⟩
    -- The entry of this name is moved to the front, and the rest is put into order.
    have hfirst := h k
    rw [Dict.get?, if_pos rfl] at hfirst
    generalize hget : d.get? k = found at hfirst
    cases hfirst with
    | some hvw =>
      rcases List.append_of_mem (Dict.mem_of_get? hget) with ⟨front, back, hsplit⟩
      have hperm : d.Perm (_ :: (front ++ back)) := hsplit ▸ List.perm_middle
      have hkeys := (hperm.map Prod.fst).nodup_iff.1 hd
      rcases List.nodup_cons.1 hkeys with ⟨hk', hrest⟩
      have hsame : ∀ name, Option.Rel SameUpToOrder (Dict.get? (front ++ back) name)
          (Dict.get? e name) := by
        intro name
        have hname := h name
        rw [Dict.get?_eq_of_perm hd hperm, Dict.get?, Dict.get?] at hname
        by_cases hne : k = name
        · subst hne
          rw [Dict.get?_eq_none_iff.2 hk', Dict.get?_eq_none_iff.2 hk]
          exact .none
        · rwa [if_neg hne, if_neg hne] at hname
      rcases ih hrest he hsame with ⟨moved, hmoved, hentries⟩
      exact ⟨_ :: moved, hperm.trans (hmoved.cons _), .cons k hvw hentries⟩

/-- Objects are equal up to order if no name occurs twice and the same is found under each name. -/
theorem sameUpToOrder_object_iff {d e : Dict Value} :
    SameUpToOrder (.object d) (.object e) ↔ d.keys.Nodup ∧ e.keys.Nodup ∧
      ∀ name, Option.Rel SameUpToOrder (d.get? name) (e.get? name) := by
  constructor
  · intro h
    cases h with
    | object hdistinct hperm h =>
      have hnodup := (hperm.map Prod.fst).nodup_iff.1 hdistinct
      refine ⟨hdistinct, h.keys_eq ▸ hnodup, fun name => ?_⟩
      rw [Dict.get?_eq_of_perm hdistinct hperm]
      exact h.get? name
  · rintro ⟨hd, he, h⟩
    rcases exists_moved hd he h with ⟨moved, hperm, hentries⟩
    exact .object hd hperm hentries

mutual

/-- Such values are printed alike: objects are not printed, and arrays keep their order. -/
theorem SameUpToOrder.textChars_eq {v w : Value} :
    SameUpToOrder v w → v.textChars = w.textChars
  | .null => rfl
  | .bool _ => rfl
  | .number _ => rfl
  | .string _ => rfl
  | .array h => h.itemsText_eq
  | .object _ _ _ => rfl

theorem ItemsSameUpToOrder.itemsText_eq {vs ws : List Value} :
    ItemsSameUpToOrder vs ws → itemsText vs = itemsText ws
  | .nil => rfl
  | .cons h .nil => h.textChars_eq
  | .cons h (.cons h' hs) => by
    have hrest := (ItemsSameUpToOrder.cons h' hs).itemsText_eq
    simp only [itemsText, h.textChars_eq, hrest]

end

/-- No template tells values apart that are equal up to the order of entries. -/
theorem isBisimulation_sameUpToOrder : IsBisimulation SameUpToOrder where
  text h dateFormat path := by
    cases h with
    | array h => exact h.itemsText_eq
    | _ => rfl
  truthy h := by
    cases h with
    | array h => cases h <;> rfl
    | _ => rfl
  property h key := by
    cases h with
    | object hdistinct hperm h =>
      exact (sameUpToOrder_object_iff.1 (.object hdistinct hperm h)).2.2 key
    | array h =>
      -- The key tells the index, whatever the items are.
      refine optionRel_bind (R := (· = ·)) (optionRel_eq_iff.2 rfl) fun i j hij => ?_
      rw [hij]
      exact forall₂_getElem? h.forall₂ j
    | _ => exact .none
  items h := by
    cases h with
    | array h => exact .some h.forall₂
    | _ => exact .none

end Value

/-! ## Pages -/

namespace Template

/-- Contexts whose variables are equal up to the order of entries make the same page. -/
theorem render_eq_of_sameUpToOrder (t : Template) (dateFormat : String) (c c' : Context)
    (h : ∀ name, Option.Rel Value.SameUpToOrder (c.get? name) (c'.get? name)) :
    t.render c dateFormat = t.render c' dateFormat :=
  t.render_eq_of_related Value.isBisimulation_sameUpToOrder dateFormat fun name _ => h name

/-- A source that looks into objects, tests one, prints one and runs through an array of them. -/
def listing : String :=
  "\x7b% if site %\x7d\x7b\x7b site.owner.name \x7d\x7d\x7b\x7b site \x7d\x7d: \x7b% endif %\x7d" ++
    "\x7b% for p in posts %\x7d[\x7b\x7b p.mood \x7d\x7d \x7b\x7b p.title \x7d\x7d]" ++
      "\x7b% endfor %\x7d"

/-- The entries of an object, of an object in it and of the objects in an array come in another
order, and so do the variables. -/
theorem listing_with_entries_moved :
    let owner : Value := .object [("mail", .null), ("name", .string "Ann")]
    let owner' : Value := .object [("name", .string "Ann"), ("mail", .null)]
    let post : Value := .object [("title", .string "A"), ("mood", .string "calm")]
    let post' : Value := .object [("mood", .string "calm"), ("title", .string "A")]
    let c : Context := ⟨[("site", .object [("owner", owner), ("theme", .string "plain")]),
      ("posts", .array [post])]⟩
    let c' : Context := ⟨[("posts", .array [post']),
      ("site", .object [("theme", .string "plain"), ("owner", owner')])]⟩
    (∀ name, Option.Rel Value.SameUpToOrder (c.get? name) (c'.get? name)) ∧
      (parse listing).render c "" = (parse listing).render c' "" ∧
        (parse listing).render c' "" = "Ann: [calm A]" := by
  intro owner owner' post post' c c'
  have howner : Value.SameUpToOrder owner owner' :=
    .object (by decide) (.swap _ _ []) (.cons _ (.string _) (.cons _ .null .nil))
  have hsite : Value.SameUpToOrder (.object [("owner", owner), ("theme", .string "plain")])
      (.object [("theme", .string "plain"), ("owner", owner')]) :=
    .object (by decide) (.swap _ _ []) (.cons _ (.string _) (.cons _ howner .nil))
  have hpost : Value.SameUpToOrder post post' :=
    .object (by decide) (.swap _ _ []) (.cons _ (.string _) (.cons _ (.string _) .nil))
  have hsame : ∀ name, Option.Rel Value.SameUpToOrder (c.get? name) (c'.get? name) := by
    intro name
    by_cases hs : "site" = name
    · subst hs
      exact .some hsite
    · by_cases hp : "posts" = name
      · subst hp
        exact .some (.array (.cons hpost .nil))
      · have hc : c.get? name = none := by simp [c, Context.get?, Dict.get?, hs, hp]
        have hc' : c'.get? name = none := by simp [c', Context.get?, Dict.get?, hs, hp]
        rw [hc, hc']
        exact .none
  exact ⟨hsame, render_eq_of_sameUpToOrder _ "" c c' hsame, by decide +kernel⟩

end Template
end StaticBlog
