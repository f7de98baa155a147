import StaticBlog.Post.Parse
import StaticBlog.Post.Value
import StaticBlog.Proofs.Dict
import StaticBlog.Proofs.Yaml.JsonForm

/-!
# What templates see of a post

- `FrontMatter.OwnNamesFree` : no custom field has the name of a field with a meaning
- `Post.shownFields` : the fields that templates are promised
- `Post.ShownWhole` : whether templates see all of them
- `Post.shownWhole_iff_of_parse` : they do exactly if each custom field has a form as JSON
-/

namespace StaticBlog

/-! ## Names of custom fields -/

theorem foldlM_induction {α β : Type} {P : β → Prop} {step : β → α → Option β} {xs : List α}
    {b b' : β} (hstep : ∀ b x b', P b → step b x = some b' → P b') :
    P b → xs.foldlM step b = some b' → P b' := by
  intro hb hfold
  induction xs generalizing b with
  | nil =>
    have hbb : b = b' := by simpa using hfold
    exact hbb ▸ hb
  | cons x xs ih =>
    rcases Option.bind_eq_some_iff.1 hfold with ⟨b₁, hb₁, hrest⟩
    exact ih (hstep b x b₁ hb hb₁) hrest

namespace FrontMatter

/-- No custom field has the name of a field with a meaning. -/
def OwnNamesFree (f : FrontMatter) : Prop := ∀ name ∈ f.extra.keys, name ∉ fieldNames

/-- A field with a meaning leaves the custom fields alone; any other is put among them. -/
theorem extra_of_withField? {f f' : FrontMatter} {name : String} {n : Yaml.Node} :
    f.withField? name n = some f' →
      f'.extra = f.extra ∨ name ∉ fieldNames ∧ ∃ v, f'.extra = f.extra.insert name v := by
  intro h
  unfold withField? at h
  split at h
  -- The last case is that of all names without a meaning.
  case h_11 =>
    right
    rcases Option.bind_eq_some_iff.1 h with ⟨v, -, hv⟩
    cases hv
    refine ⟨?_, v, rfl⟩
    simp_all [fieldNames]
  all_goals
    left
    rcases Option.bind_eq_some_iff.1 h with ⟨x, -, hx⟩
    cases hx
    rfl

theorem OwnNamesFree.withField? {f f' : FrontMatter} {name : String} {n : Yaml.Node}
    (hf : OwnNamesFree f) : f.withField? name n = some f' → OwnNamesFree f' := by
  intro h key hkey
  rcases extra_of_withField? h with hsame | ⟨hname, v, hput⟩
  · exact hf key (hsame ▸ hkey)
  · rw [hput, Dict.keys_insert] at hkey
    split at hkey
    · exact hf key hkey
    · rcases List.mem_append.1 hkey with hold | hnew
      · exact hf key hold
      · rw [List.mem_singleton.1 hnew]
        exact hname

/-- What holds without fields, and is kept when a field is read, holds of each block. -/
theorem ofNode?_induction {P : FrontMatter → Prop} (hempty : P {})
    (hstep : ∀ f name n f', P f → f.withField? name n = some f' → P f')
    {n : Yaml.Node} {f : FrontMatter} : ofNode? n = some f → P f := by
  intro h
  rcases Option.bind_eq_some_iff.1 h with ⟨members, -, hmembers⟩
  split at hmembers
  · exact foldlM_induction (fun f entry f' hf => hstep f entry.1 entry.2 f' hf) hempty hmembers
  · cases hmembers

theorem parse?_induction {P : FrontMatter → Prop} (hempty : P {})
    (hstep : ∀ f name n f', P f → f.withField? name n = some f' → P f')
    {source body : List Char} {f : FrontMatter} : parse? source = some (f, body) → P f := by
  intro h
  cases hblock : (Sections.ofChars source).block with
  | none =>
    have hf : {} = f := by
      have := h
      simp only [parse?, hblock, Option.some.injEq, Prod.mk.injEq] at this
      exact this.1
    exact hf ▸ hempty
  | some block =>
    simp only [parse?, hblock, Option.map_eq_some_iff, Prod.mk.injEq] at h
    rcases h with ⟨f', hf', rfl, -⟩
    rcases Option.bind_eq_some_iff.1 hf' with ⟨n, -, hn⟩
    exact ofNode?_induction hempty hstep hn

theorem nodup_keys_extra_of_withField? {f f' : FrontMatter} {name : String} {n : Yaml.Node}
    (hf : f.extra.keys.Nodup) : f.withField? name n = some f' → f'.extra.keys.Nodup := by
  intro h
  rcases extra_of_withField? h with hsame | ⟨-, v, hput⟩
  · exact hsame ▸ hf
  · exact hput ▸ Dict.nodup_keys_insert _ _ hf

end FrontMatter

namespace Document

variable {source : String} {d : Document}

theorem exists_parse?_of_parse? :
    Document.parse? source = some d →
      ∃ body, FrontMatter.parse? source.toList = some (d.frontMatter, body) := by
  intro h
  rcases Option.bind_eq_some_iff.1 h with ⟨⟨f, body⟩, hf, hd⟩
  cases hd
  exact ⟨body, hf⟩

theorem ownNamesFree_of_parse? :
    Document.parse? source = some d → d.frontMatter.OwnNamesFree := by
  intro h
  rcases exists_parse?_of_parse? h with ⟨body, hbody⟩
  exact FrontMatter.parse?_induction (by simp [FrontMatter.OwnNamesFree, Dict.keys])
    (fun _ _ _ _ => FrontMatter.OwnNamesFree.withField?) hbody

/-- No custom field comes twice. -/
theorem nodup_keys_extra_of_parse? :
    Document.parse? source = some d → d.frontMatter.extra.keys.Nodup := by
  intro h
  rcases exists_parse?_of_parse? h with ⟨body, hbody⟩
  exact FrontMatter.parse?_induction (P := fun f => f.extra.keys.Nodup) List.nodup_nil
    (fun _ _ _ _ => FrontMatter.nodup_keys_extra_of_withField?) hbody

end Document

namespace Post

/-- The names that no custom field of a post has. -/
def takenNames : List String := FrontMatter.fieldNames ++ derivedNames

theorem not_mem_takenNames_of_parse {m : PostMaker} {source : Path} {modified : Moment}
    {text : String} {d : Document} {p : Post} :
    Post.parse m source modified text = .ok (d, p) →
      ∀ name ∈ p.extra.keys, name ∉ takenNames := by
  intro h name hname
  rcases eq_ofDocument_of_parse h with ⟨hdoc, rfl⟩
  rcases List.mem_map.1 hname with ⟨f, hf, rfl⟩
  have hparts : f ∈ d.frontMatter.extra ∧ f.1 ∉ derivedNames := by
    simpa [ofDocument] using hf
  have hown : f.1 ∉ FrontMatter.fieldNames :=
    Document.ownNamesFree_of_parse? hdoc f.1 (List.mem_map_of_mem hparts.1)
  simp only [takenNames, List.mem_append, not_or]
  exact ⟨hown, hparts.2⟩

/-! ## The fields that templates are promised -/

/-- What is computed for a post, as templates are to see it. `categories` and `tags` are the
directories of the label pages. -/
def shownFields (categories tags : String) (p : Post) : Dict Value :=
  [ ("title", .string p.title),
    ("date", .string (String.ofList (p.date.exchange ['Z']))),
    ("updated", .string (String.ofList (p.updated.exchange ['Z']))),
    ("author", .string p.author),
    ("categories", .array (p.categories.map Value.string)),
    ("tags", .array (p.tags.map Value.string)),
    ("excerpt", .string p.excerpt),
    ("content", .string p.content),
    ("tableOfContents", match p.headings with
      | some entries => .array (entries.map fun e =>
          .object [("level", .ofNat e.level), ("text", .string e.text), ("id", .string e.id)])
      | none => .null),
    ("readingTime", .ofNat p.readingTime),
    ("layout", .string p.layout),
    ("published", .bool p.published),
    ("slug", .string p.slug),
    ("url", .string p.url),
    ("sourcePath", .string p.source.text),
    ("permalink", .string (Url.pageUrl p.url)),
    ("category_links", labelLinks categories p.categories),
    ("tag_links", labelLinks tags p.tags) ]

/-- Whether templates see a post as an object in which each of those fields is as computed. -/
def ShownWhole (categories tags : String) (p : Post) : Prop :=
  ∃ entries, p.value categories tags = .object entries ∧
    ∀ f ∈ p.shownFields categories tags, Dict.get? entries f.1 = some f.2

/-! ## The value of a post -/

theorem ofJsonItems_eq_map (items : List Json) :
    Value.ofJsonItems items = items.map Value.ofJson := by
  induction items with
  | nil => rfl
  | cons v vs ih => simp [Value.ofJsonItems, ih]

theorem ofJsonMembers_eq_mapValues (members : Dict Json) :
    Value.ofJsonMembers members = members.mapValues Value.ofJson := by
  induction members with
  | nil => rfl
  | cons m ms ih =>
    rcases m with ⟨k, v⟩
    simpa [Value.ofJsonMembers, Dict.mapValues] using ih

/-- The links that belong to a post. -/
def links (categories tags : String) (p : Post) : Dict Value :=
  [ ("permalink", .string (Url.pageUrl p.url)),
    ("category_links", labelLinks categories p.categories),
    ("tag_links", labelLinks tags p.tags) ]

theorem shownFields_eq (categories tags : String) (p : Post) :
    p.shownFields categories tags =
      p.ownFields.mapValues Value.ofJson ++ p.links categories tags := by
  have htexts : ∀ texts : List String,
      Value.ofJson (.array (textValues texts)) = .array (texts.map Value.string) := by
    intro texts
    simp [Value.ofJson, ofJsonItems_eq_map, textValues, Function.comp_def]
  have hentries : ∀ entries : List TocEntry, Value.ofJson (.array (entries.map TocEntry.toJson)) =
      .array (entries.map fun e =>
        .object [("level", .ofNat e.level), ("text", .string e.text), ("id", .string e.id)]) := by
    intro entries
    simp only [Value.ofJson, ofJsonItems_eq_map, List.map_map]
    rfl
  cases hheadings : p.headings with
  | none =>
    simp only [shownFields, ownFields, links, Dict.mapValues, List.map_cons, List.map_nil, htexts,
      hheadings]
    rfl
  | some entries =>
    simp only [shownFields, ownFields, links, Dict.mapValues, List.map_cons, List.map_nil, htexts,
      hheadings, hentries]
    rfl

theorem keys_ownFields (p : Post) : p.ownFields.keys =
    ["title", "date", "updated", "author", "categories", "tags", "excerpt", "content",
      "tableOfContents", "readingTime", "layout", "published", "slug", "url", "sourcePath"] := rfl

theorem keys_links (categories tags : String) (p : Post) :
    (p.links categories tags).keys = ["permalink", "category_links", "tag_links"] := rfl

/-- Behind the own fields of a post, custom fields do not change what is found under their names. -/
theorem get?_ownFields_append {p : Post} {extra : Dict Json} {k : String} {j : Json}
    (hextra : ∀ name ∈ extra.keys, name ∉ takenNames) :
    (k, j) ∈ p.ownFields → Dict.get? (Dict.ofEntries (p.ownFields ++ extra)) k = some j := by
  intro hmem
  have hnodup : p.ownFields.keys.Nodup := by
    rw [keys_ownFields]
    decide
  have htaken : ∀ name ∈ p.ownFields.keys, name ∈ takenNames := by
    rw [keys_ownFields]
    decide
  have hk : k ∉ extra.keys := fun hk => hextra k hk (htaken k (List.mem_map_of_mem hmem))
  -- Of two entries with one name the last counts, and no custom field has this name.
  have hnone : Dict.get? extra.reverse k = none := by
    refine Dict.get?_eq_none_iff.2 ?_
    simpa [Dict.keys] using hk
  rw [Dict.get?_ofEntries_append, hnone, Dict.get?_reverse hnodup, Dict.get?_of_mem hnodup hmem]
  rfl

/-- The value of a post whose custom fields have a form as JSON. -/
theorem value_of_fieldsToJson {p : Post} {extra : Dict Json} (categories tags : String)
    (hextra : Yaml.fieldsToJson p.extra = .ok extra) :
    p.value categories tags = .object ((p.links categories tags).foldl
      (fun d (k, v) => Dict.insert d k v)
      (Dict.ofEntries ((Dict.ofEntries (p.ownFields ++ extra)).mapValues Value.ofJson))) := by
  have hjson : p.toJson = .ok (.object (Dict.ofEntries (p.ownFields ++ extra))) := by
    rw [toJson, hextra]
    rfl
  simp only [value, hjson, Value.ofJson, ofJsonMembers_eq_mapValues]
  rfl

theorem value_of_error {p : Post} {e : Yaml.KeyFault} (categories tags : String)
    (hextra : Yaml.fieldsToJson p.extra = .error e) : p.value categories tags = .null := by
  have hjson : p.toJson = .error e := by
    rw [toJson, hextra]
    rfl
  simp only [value, hjson]

theorem value_of_not_representable {p : Post} (categories tags : String)
    (h : ¬ ∀ f ∈ p.extra, f.2.Representable) : p.value categories tags = .null := by
  cases hextra : Yaml.fieldsToJson p.extra with
  | ok extra => exact absurd ((Yaml.exists_fieldsToJson_iff p.extra).1 ⟨extra, hextra⟩) h
  | error e => exact value_of_error categories tags hextra

/-- Templates see all of a post if its custom fields have other names and a form as JSON. -/
theorem shownWhole_of_representable {p : Post} (categories tags : String)
    (hnames : ∀ name ∈ p.extra.keys, name ∉ takenNames)
    (hall : ∀ f ∈ p.extra, f.2.Representable) : p.ShownWhole categories tags := by
  -- The value is the object of own and custom fields, with the links put on top.
  rcases (Yaml.exists_fieldsToJson_iff p.extra).2 hall with ⟨extra, hextra⟩
  refine ⟨_, value_of_fieldsToJson categories tags hextra, ?_⟩
  rintro ⟨k, v⟩ hf
  rw [shownFields_eq] at hf
  have hlinks : (p.links categories tags).keys.Nodup := by
    rw [keys_links]
    decide
  rw [Dict.get?_foldl_insert, Dict.get?_reverse hlinks]
  rcases List.mem_append.1 hf with hown | hlink
  · -- No link has the name of an own field.
    rcases List.mem_map.1 hown with ⟨⟨k', j⟩, hj, heq⟩
    cases heq
    have hk : Dict.get? (p.links categories tags) k = none := by
      refine Dict.get?_eq_none_iff.2 fun hmem => ?_
      have hdisjoint : ∀ name ∈ p.ownFields.keys, name ∉ (p.links categories tags).keys := by
        rw [keys_ownFields, keys_links]
        decide
      exact hdisjoint k (List.mem_map_of_mem hj) hmem
    have hextraNames : ∀ name ∈ extra.keys, name ∉ takenNames := by
      rw [Yaml.keys_of_fieldsToJson hextra]
      exact hnames
    rw [hk, Option.none_or, Dict.get?_ofEntries_mapValues, get?_ownFields_append hextraNames hj]
    rfl
  · rw [Dict.get?_of_mem hlinks hlink]
    rfl

/-- Templates see all that is computed for a post exactly if each custom field of its source has a
form as JSON; otherwise they see nothing of the post. -/
theorem shownWhole_iff_of_parse (m : PostMaker) (source : Path) (modified : Moment) (text : String)
    (d : Document) (p : Post) (categories tags : String) :
    Post.parse m source modified text = .ok (d, p) →
      (p.ShownWhole categories tags ↔ ∀ f ∈ p.extra, f.2.Representable) ∧
        ((¬ ∀ f ∈ p.extra, f.2.Representable) → p.value categories tags = .null) := by
  intro h
  have hnames := not_mem_takenNames_of_parse h
  refine ⟨⟨?_, ?_⟩, ?_⟩
  · rintro ⟨entries, hvalue, -⟩
    refine Classical.byContradiction fun hnot => ?_
    have hnull := value_of_not_representable categories tags hnot
    rw [hvalue] at hnull
    cases hnull
  · exact shownWhole_of_representable categories tags hnames
  · exact value_of_not_representable categories tags

/-- Makes posts without highlighting their code. -/
def plainMaker : PostMaker := ⟨{}, ⟨fun _ _ => none, false⟩⟩

/-- Two sources: templates see all of the first, and nothing of the second, whose cover is a mapping
with a list for a key. -/
theorem shownWhole_of_text_cover_and_not_of_list_key :
    (∃ d p, Post.parse plainMaker ⟨"a.md"⟩ default "---\ntitle: Hello\ncover: a.png\n---\nx" =
        .ok (d, p) ∧ p.ShownWhole "categories" "tags") ∧
      ∃ d p, Post.parse plainMaker ⟨"a.md"⟩ default
          "---\ntitle: Hello\ncover: \x7b[a]: b\x7d\n---\nx" = .ok (d, p) ∧
        p.value "categories" "tags" = .null := by
  have hfirst : (Document.parse? "---\ntitle: Hello\ncover: a.png\n---\nx").any (fun d =>
      (Yaml.fieldsToJson (ofDocument plainMaker ⟨"a.md"⟩ default d).extra).isOk) = true := by
    decide +kernel
  have hsecond : (Document.parse? "---\ntitle: Hello\ncover: \x7b[a]: b\x7d\n---\nx").any
      (fun d => !(Yaml.fieldsToJson (ofDocument plainMaker ⟨"a.md"⟩ default d).extra).isOk) =
        true := by
    decide +kernel
  refine ⟨?_, ?_⟩
  · rcases (Option.any_eq_true _ _).1 hfirst with ⟨d, hd, hextra⟩
    have hparse : Post.parse plainMaker ⟨"a.md"⟩ default
        "---\ntitle: Hello\ncover: a.png\n---\nx" =
          .ok (d, ofDocument plainMaker ⟨"a.md"⟩ default d) := by
      rw [Post.parse, hd]
    have hshown := shownWhole_iff_of_parse _ _ _ _ _ _ "categories" "tags" hparse
    exact ⟨d, _, hparse, hshown.1.2 ((Yaml.isOk_fieldsToJson_iff _).1 hextra)⟩
  · rcases (Option.any_eq_true _ _).1 hsecond with ⟨d, hd, hextra⟩
    have hparse : Post.parse plainMaker ⟨"a.md"⟩ default
        "---\ntitle: Hello\ncover: \x7b[a]: b\x7d\n---\nx" =
          .ok (d, ofDocument plainMaker ⟨"a.md"⟩ default d) := by
      rw [Post.parse, hd]
    have hshown := shownWhole_iff_of_parse _ _ _ _ _ _ "categories" "tags" hparse
    refine ⟨d, _, hparse, hshown.2 fun hall => ?_⟩
    rw [(Yaml.isOk_fieldsToJson_iff _).2 hall] at hextra
    cases hextra

end Post
end StaticBlog
