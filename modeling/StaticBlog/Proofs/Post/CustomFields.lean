import StaticBlog.Proofs.Post.Shown
import StaticBlog.Proofs.Template.EntryOrder
import StaticBlog.Site.Pages

/-!
# The order of custom fields

The custom fields of a post, and the entries of a configuration that have no meaning, come in no
certain order. What templates see of either is the same up to the order of entries.

- `Value.sameUpToOrder_foldl_insert` : entries put into objects that are equal up to order
- `Yaml.fieldsToJson_perm` : fields in another order have forms in another order
- `Post.sameUpToOrder_value`, `SiteConfig.sameUpToOrder_value` : the values with fields in another
  order
-/

namespace StaticBlog

/-! ## Values from JSON -/

namespace Value

/-- Entries put one by one into objects that are equal up to order. -/
theorem sameUpToOrder_foldl_insert {entries entries' d e : Dict Value}
    (h : EntriesSameUpToOrder entries entries') (hd : SameUpToOrder (.object d) (.object e)) :
    SameUpToOrder (.object (entries.foldl (fun d (k, v) => Dict.insert d k v) d))
      (.object (entries'.foldl (fun d (k, v) => Dict.insert d k v) e)) := by
  induction entries generalizing entries' d e with
  | nil =>
    cases h
    exact hd
  | cons entry entries ih =>
    cases h with
    | cons name h hs =>
      rw [List.foldl_cons, List.foldl_cons]
      rcases sameUpToOrder_object_iff.1 hd with ⟨hdnodup, henodup, hget⟩
      refine ih hs (sameUpToOrder_object_iff.2 ⟨Dict.nodup_keys_insert _ _ hdnodup,
        Dict.nodup_keys_insert _ _ henodup, fun key => ?_⟩)
      by_cases hkey : name = key
      · subst hkey
        rw [Dict.get?_insert_self, Dict.get?_insert_self]
        exact .some h
      · rw [Dict.get?_insert_of_ne _ _ hkey, Dict.get?_insert_of_ne _ _ hkey]
        exact hget key

mutual

/-- No name occurs twice in a value from JSON. -/
theorem sameUpToOrder_ofJson : ∀ j : Json, SameUpToOrder (ofJson j) (ofJson j)
  | .null => .null
  | .bool b => .bool b
  | .number n => .number n.toBinary64
  | .string s => .string s
  | .array items => .array (sameUpToOrder_ofJsonItems items)
  | .object members => by
    have hempty : SameUpToOrder (.object []) (.object []) := .object List.nodup_nil .nil .nil
    exact sameUpToOrder_foldl_insert (sameUpToOrder_ofJsonMembers members) hempty

theorem sameUpToOrder_ofJsonItems :
    ∀ items : List Json, ItemsSameUpToOrder (ofJsonItems items) (ofJsonItems items)
  | [] => .nil
  | v :: vs => .cons (sameUpToOrder_ofJson v) (sameUpToOrder_ofJsonItems vs)

theorem sameUpToOrder_ofJsonMembers :
    ∀ members : Dict Json, EntriesSameUpToOrder (ofJsonMembers members) (ofJsonMembers members)
  | [] => .nil
  | (k, v) :: ms => .cons k (sameUpToOrder_ofJson v) (sameUpToOrder_ofJsonMembers ms)

end

/-- Of members in another order, behind the same ones, the same values are made up to order. -/
theorem sameUpToOrder_ofJson_append {own extra moved : Dict Json} (hnodup : extra.keys.Nodup)
    (h : extra.Perm moved) :
    SameUpToOrder (ofJson (.object (Dict.ofEntries (own ++ extra))))
      (ofJson (.object (Dict.ofEntries (own ++ moved)))) := by
  -- Of two members with one name the later one counts, so values are looked up from behind.
  have hreverse : (Dict.keys extra.reverse).Nodup :=
    ((List.reverse_perm extra).map Prod.fst).nodup_iff.2 hnodup
  have hperm : extra.reverse.Perm moved.reverse :=
    (List.reverse_perm extra).trans (h.trans (List.reverse_perm moved).symm)
  simp only [ofJson, Post.ofJsonMembers_eq_mapValues]
  refine sameUpToOrder_object_iff.2
    ⟨Dict.nodup_keys_ofEntries _, Dict.nodup_keys_ofEntries _, fun name => ?_⟩
  rw [Dict.get?_ofEntries_mapValues, Dict.get?_ofEntries_mapValues, Dict.get?_ofEntries_append,
    Dict.get?_ofEntries_append, Dict.get?_eq_of_perm hreverse hperm]
  cases (Dict.get? moved.reverse name).or (Dict.get? own.reverse name) with
  | none => exact .none
  | some j => exact .some (sameUpToOrder_ofJson j)

end Value

/-! ## Fields in another order -/

namespace Yaml

/-- Fields in another order have forms in another order. -/
theorem fieldsToJson_perm {fs gs : Dict Yaml} (h : fs.Perm gs) {js : Dict Json}
    (hjs : fieldsToJson fs = .ok js) : ∃ ks, fieldsToJson gs = .ok ks ∧ js.Perm ks := by
  induction h generalizing js with
  | nil => exact ⟨js, hjs, .refl js⟩
  | cons f _ ih =>
    rcases fieldsToJson_cons_eq_ok_iff.1 hjs with ⟨j, js', hj, hjs', rfl⟩
    rcases ih hjs' with ⟨ks, hks, hperm⟩
    exact ⟨_, fieldsToJson_cons_eq_ok_iff.2 ⟨j, ks, hj, hks, rfl⟩, hperm.cons _⟩
  | swap f g fs =>
    rcases fieldsToJson_cons_eq_ok_iff.1 hjs with ⟨j, js', hj, hjs', rfl⟩
    rcases fieldsToJson_cons_eq_ok_iff.1 hjs' with ⟨k, js'', hk, hjs'', rfl⟩
    have hfront := fieldsToJson_cons_eq_ok_iff.2 ⟨j, js'', hj, hjs'', rfl⟩
    exact ⟨_, fieldsToJson_cons_eq_ok_iff.2 ⟨k, _, hk, hfront, rfl⟩, .swap _ _ _⟩
  | trans _ _ ih ih' =>
    rcases ih hjs with ⟨ks, hks, hperm⟩
    rcases ih' hks with ⟨ls, hls, hperm'⟩
    exact ⟨ls, hls, hperm.trans hperm'⟩

theorem fieldsToJson_perm_error {fs gs : Dict Yaml} (h : fs.Perm gs) {fault : KeyFault}
    (hfs : fieldsToJson fs = .error fault) : ∃ fault', fieldsToJson gs = .error fault' := by
  cases hgs : fieldsToJson gs with
  | error fault' => exact ⟨fault', rfl⟩
  | ok ks =>
    rcases fieldsToJson_perm h.symm hgs with ⟨js, hjs, -⟩
    cases hfs.symm.trans hjs

/-- Of fields in another order, behind the same members, the same values are made up to order. -/
theorem sameUpToOrder_of_fieldsToJson {fs gs : Dict Yaml} (hnodup : fs.keys.Nodup)
    (h : fs.Perm gs) {js : Dict Json} (hjs : fieldsToJson fs = .ok js) :
    ∃ ks, fieldsToJson gs = .ok ks ∧ ∀ own : Dict Json,
      Value.SameUpToOrder (Value.ofJson (.object (Dict.ofEntries (own ++ js))))
        (Value.ofJson (.object (Dict.ofEntries (own ++ ks)))) := by
  rcases fieldsToJson_perm h hjs with ⟨ks, hks, hperm⟩
  have hkeys : js.keys.Nodup := by
    rw [keys_of_fieldsToJson hjs]
    exact hnodup
  exact ⟨ks, hks, fun own => Value.sameUpToOrder_ofJson_append hkeys hperm⟩

end Yaml

/-! ## Posts and configurations -/

namespace Post

theorem sameUpToOrder_labelLinks (dir : String) (labels : List String) :
    Value.SameUpToOrder (labelLinks dir labels) (labelLinks dir labels) := by
  refine .array ?_
  induction labels with
  | nil => exact .nil
  | cons name labels ih =>
    have hlink : Value.EntriesSameUpToOrder
        [("name", .string name), ("url", .string (Url.labelUrl dir name))]
        [("name", .string name), ("url", .string (Url.labelUrl dir name))] :=
      .cons _ (.string _) (.cons _ (.string _) .nil)
    exact .cons (.object (by simp [Dict.keys]) (.refl _) hlink) ih

theorem sameUpToOrder_links (categories tags : String) (p : Post) :
    Value.EntriesSameUpToOrder (p.links categories tags) (p.links categories tags) :=
  .cons _ (.string _) (.cons _ (sameUpToOrder_labelLinks _ _)
    (.cons _ (sameUpToOrder_labelLinks _ _) .nil))

/-- What templates see of a post whose custom fields come in another order is the same up to the
order of entries. -/
theorem sameUpToOrder_value (categories tags : String) {p : Post} {extra : Dict Yaml}
    (hnodup : p.extra.keys.Nodup) (h : p.extra.Perm extra) :
    Value.SameUpToOrder (p.value categories tags)
      (value categories tags { p with extra := extra }) := by
  cases hextra : Yaml.fieldsToJson p.extra with
  | ok js =>
    rcases Yaml.sameUpToOrder_of_fieldsToJson hnodup h hextra with ⟨ks, hks, hsame⟩
    have hvalue := hsame p.ownFields
    simp only [Value.ofJson, ofJsonMembers_eq_mapValues] at hvalue
    rw [value_of_fieldsToJson categories tags hextra,
      value_of_fieldsToJson (p := { p with extra := extra }) categories tags hks]
    exact Value.sameUpToOrder_foldl_insert (sameUpToOrder_links categories tags p) hvalue
  | error fault =>
    rcases Yaml.fieldsToJson_perm_error h hextra with ⟨fault', hmoved⟩
    rw [value_of_error categories tags hextra,
      value_of_error (p := { p with extra := extra }) categories tags hmoved]
    exact .null

end Post

namespace SiteConfig

theorem value_of_fieldsToJson {c : SiteConfig} {extra : Dict Json}
    (h : Yaml.fieldsToJson c.extra = .ok extra) :
    c.value = Value.ofJson
      (.object (Dict.ofEntries (fields.map (fun f => (f.name, f.json c)) ++ extra))) := by
  rw [value, toJson, h]
  rfl

theorem value_of_error {c : SiteConfig} {fault : Yaml.KeyFault}
    (h : Yaml.fieldsToJson c.extra = .error fault) : c.value = .null := by
  rw [value, toJson, h]
  rfl

/-- What templates see of a configuration whose entries without a meaning come in another order is
the same up to the order of entries. -/
theorem sameUpToOrder_value {c : SiteConfig} {extra : Dict Yaml}
    (hnodup : c.extra.keys.Nodup) (h : c.extra.Perm extra) :
    Value.SameUpToOrder c.value { c with extra := extra }.value := by
  cases hextra : Yaml.fieldsToJson c.extra with
  | ok js =>
    rcases Yaml.sameUpToOrder_of_fieldsToJson hnodup h hextra with ⟨ks, hks, hsame⟩
    rw [value_of_fieldsToJson hextra, value_of_fieldsToJson (c := { c with extra := extra }) hks]
    exact hsame _
  | error fault =>
    rcases Yaml.fieldsToJson_perm_error h hextra with ⟨fault', hmoved⟩
    rw [value_of_error hextra, value_of_error (c := { c with extra := extra }) hmoved]
    exact .null

end SiteConfig
end StaticBlog
