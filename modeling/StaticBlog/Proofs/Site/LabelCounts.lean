import StaticBlog.Proofs.Site.Labels

/-!
# The posts of labels, counted

- `IsGroupedByLabel` : whether groups hold the posts of each label, and nothing else
- `isGroupedByLabel_groupBy` : posts with different labels are grouped so
- `PageMaker.ShowsCounts` : whether the index of labels shows for each one how many posts its page lists
- `label_groups_are_exact` : the categories and the tags of posts are grouped and counted so
-/

namespace StaticBlog

/-- The sum of numbers. -/
def total (ns : List Nat) : Nat := ns.foldr (· + ·) 0

theorem total_cons (n : Nat) (ns : List Nat) : total (n :: ns) = n + total ns := rfl

theorem total_map_zero {κ : Type} (ks : List κ) : total (ks.map fun _ => 0) = 0 := by
  induction ks with
  | nil => rfl
  | cons k ks ih => rw [List.map_cons, total_cons, ih]

theorem total_map_add {κ : Type} (f g : κ → Nat) (ks : List κ) :
    total (ks.map fun k => f k + g k) = total (ks.map f) + total (ks.map g) := by
  induction ks with
  | nil => rfl
  | cons k ks ih =>
    simp only [List.map_cons, total_cons, ih]
    omega

section

variable {κ : Type} [DecidableEq κ] {ks own : List κ}

/-- Of all keys there are as many among different ones as there are of these. -/
theorem length_filter_mem (hks : ks.Nodup) (hown : own.Nodup) (hsub : ∀ k ∈ own, k ∈ ks) :
    (ks.filter fun k => k ∈ own).length = own.length := by
  apply List.Perm.length_eq
  rw [List.perm_ext_iff_of_nodup (hks.filter _) hown]
  intro k
  rw [List.mem_filter, decide_eq_true_eq, and_iff_right_iff_imp]
  exact hsub k

/-- Counting the different keys one by one counts them all. -/
theorem total_indicator (ks own : List κ) :
    total (ks.map fun k => if k ∈ own then 1 else 0) = (ks.filter fun k => k ∈ own).length := by
  induction ks with
  | nil => rfl
  | cons k ks ih =>
    rw [List.map_cons, total_cons, ih]
    by_cases hk : k ∈ own
    · rw [if_pos hk, List.filter_cons_of_pos (by simpa using hk), List.length_cons, Nat.add_comm]
    · rw [if_neg hk, List.filter_cons_of_neg (by simpa using hk), Nat.zero_add]

end

/-! ## Groups of posts -/

variable {labels : Post → List String} {posts : List Post}

open Classical in
/-- Whether groups hold the posts of each label, and nothing else. -/
structure IsGroupedByLabel (labels : Post → List String) (posts : List Post) (groups : Groups String Post) :
    Prop where
  /-- Each label that a post has is the key of one group. -/
  keys : groups.keys.Nodup ∧ ∀ l, l ∈ groups.keys ↔ ∃ p ∈ posts, l ∈ labels p
  /-- Labels are in the order in which they first occur. -/
  order : groups.keys.Pairwise fun l l' => (posts.flatMap labels).idxOf l < (posts.flatMap labels).idxOf l'
  /-- The group of a label holds the posts that have it, as they are in the list. -/
  items : ∀ l items, (l, items) ∈ groups → items = posts.filter fun p => l ∈ labels p
  /-- A post is in as many groups as it has labels. -/
  occurrences : ∀ p ∈ posts, (groups.filter fun group => p ∈ group.2).length = (labels p).length
  /-- All groups together have as many posts as all posts have labels. -/
  sum : total (groups.map fun group => group.2.length) = (posts.flatMap labels).length

/-- The posts with each of all labels, counted label by label. -/
theorem total_length_filter (ks : List String) (hks : ks.Nodup) (hlabels : ∀ p ∈ posts, (labels p).Nodup)
    (hall : ∀ p ∈ posts, ∀ l ∈ labels p, l ∈ ks) :
    total (ks.map fun l => (posts.filter fun p => l ∈ labels p).length) = (posts.flatMap labels).length := by
  induction posts with
  | nil => exact total_map_zero ks
  | cons p posts ih =>
    obtain ⟨hp, hposts⟩ := List.forall_mem_cons.1 hlabels
    obtain ⟨hallp, hall⟩ := List.forall_mem_cons.1 hall
    -- The first post counts once for each of its labels.
    have hfirst : ∀ l, ((p :: posts).filter fun p => l ∈ labels p).length =
        (if l ∈ labels p then 1 else 0) + (posts.filter fun p => l ∈ labels p).length := by
      intro l
      by_cases hl : l ∈ labels p
      · rw [List.filter_cons_of_pos (by simpa using hl), List.length_cons, if_pos hl, Nat.add_comm]
      · rw [List.filter_cons_of_neg (by simpa using hl), if_neg hl, Nat.zero_add]
    calc total (ks.map fun l => ((p :: posts).filter fun p => l ∈ labels p).length)
        = total (ks.map fun l => (if l ∈ labels p then 1 else 0) +
            (posts.filter fun p => l ∈ labels p).length) := by simp only [hfirst]
      _ = (ks.filter fun l => l ∈ labels p).length + (posts.flatMap labels).length := by
          rw [total_map_add, total_indicator, ih hposts hall]
      _ = ((p :: posts).flatMap labels).length := by
          rw [length_filter_mem hks hp hallp, List.flatMap_cons, List.length_append]

open Classical in
/-- Posts with different labels are grouped by them. -/
theorem isGroupedByLabel_groupBy (hlabels : ∀ p ∈ posts, (labels p).Nodup) :
    IsGroupedByLabel labels posts (groupBy labels posts) := by
  have hkeys := keys_groupBy labels posts
  have hgroups := groupBy_eq hlabels
  have hmem : ∀ l, l ∈ (posts.flatMap labels).eraseDups ↔ ∃ p ∈ posts, l ∈ labels p := by
    intro l
    rw [List.mem_eraseDups, List.mem_flatMap]
  constructor
  case keys =>
    rw [hkeys]
    exact ⟨nodup_eraseDups _, hmem⟩
  case order =>
    rw [hkeys]
    exact pairwise_idxOf_eraseDups _
  case items =>
    intro l items hgroup
    rw [hgroups, List.mem_map] at hgroup
    obtain ⟨l', -, heq⟩ := hgroup
    cases heq
    rfl
  case occurrences =>
    intro p hp
    -- The groups that a post is in are those of its labels.
    have hgroup : ∀ l, p ∈ (posts.filter fun p => l ∈ labels p) ↔ l ∈ labels p := by
      intro l
      rw [List.mem_filter, decide_eq_true_eq, and_iff_right hp]
    rw [hgroups, List.filter_map, List.length_map]
    simp only [Function.comp_def, hgroup]
    exact length_filter_mem (nodup_eraseDups _) (hlabels p hp) fun l hl => (hmem l).2 ⟨p, hp, hl⟩
  case sum =>
    rw [hgroups, List.map_map]
    exact total_length_filter _ (nodup_eraseDups _) hlabels fun p hp l hl => (hmem l).2 ⟨p, hp, hl⟩

/-! ## Counts of labels -/

namespace PageMaker

/-- The variables of the index of labels. -/
def labelIndexContext (m : PageMaker) (k : PageKind) (name dir : String) (groups : Groups String Post) :
    Context :=
  (m.context k).set name (.array (groups.map (labelValue dir)))

/-- The variables of the page of a label. -/
def labelContext (m : PageMaker) (k : PageKind) (name : String) (group : String × List Post) : Context :=
  ((m.context k).set name (.string group.1)).set "posts" (m.postValues group.2)

/-- Whether the index of labels shows for each one how many posts its page lists. -/
structure ShowsCounts (m : PageMaker) (overview single : PageKind) (names name dir : String)
    (groups : Groups String Post) : Prop where
  /-- The index is made from all labels. -/
  overview : (m.labelIndex overview names dir groups).html =
      m.templates.render overview (m.labelIndexContext overview names dir groups) ∧
    (m.labelIndexContext overview names dir groups).get? names =
      some (.array (groups.map (labelValue dir)))
  /-- Each label has a page, which is made from its posts. -/
  pages : m.labelPages single name dir groups = groups.map fun group =>
    ⟨labelPath dir group.1, m.templates.render single (m.labelContext single name group), none⟩
  /-- Its count is the number of posts on the page. -/
  counts : ∀ group ∈ groups, ∃ listed,
    (m.labelContext single name group).get? "posts" = some (.array listed) ∧
      listed.length = group.2.length ∧
        (labelValue dir group).lookup ["count"] = some (.ofNat listed.length)

theorem showsCounts (m : PageMaker) (overview single : PageKind) (names name dir : String)
    (groups : Groups String Post) : m.ShowsCounts overview single names name dir groups where
  overview := ⟨rfl, Context.get?_set_self _ _ _⟩
  pages := rfl
  counts := by
    intro group _
    have hlength : (group.2.map m.postValue).length = group.2.length := List.length_map _
    refine ⟨group.2.map m.postValue, Context.get?_set_self _ _ _, hlength, ?_⟩
    rw [hlength]
    rfl

end PageMaker

/-- The groups of categories and of tags, as the posts of a site have them, hold the posts of each label in
their order. The index of labels counts for each one the posts that its page lists, and these are together
as many as the posts have labels. -/
theorem label_groups_are_exact (m : PageMaker) (perPage : Nat) (posts : List Post)
    (hcategories : ∀ p ∈ posts, ∃ raw, p.categories = distinctLabels raw)
    (htags : ∀ p ∈ posts, ∃ raw, p.tags = distinctLabels raw) :
    (IsGroupedByLabel Post.categories posts (Collections.ofPosts perPage posts).categories ∧
      m.ShowsCounts .categories .category "categories" "category" m.config.paths.categories
        (Collections.ofPosts perPage posts).categories) ∧
    IsGroupedByLabel Post.tags posts (Collections.ofPosts perPage posts).tags ∧
      m.ShowsCounts .tags .tag "tags" "tag" m.config.paths.tags (Collections.ofPosts perPage posts).tags := by
  have hnodup : ∀ labels : Post → List String, (∀ p ∈ posts, ∃ raw, labels p = distinctLabels raw) →
      ∀ p ∈ posts, (labels p).Nodup := by
    intro labels hlabels p hp
    obtain ⟨raw, hraw⟩ := hlabels p hp
    rw [hraw]
    exact (distinctLabels_spec raw).1
  exact ⟨⟨isGroupedByLabel_groupBy (hnodup _ hcategories), m.showsCounts _ _ _ _ _ _⟩,
    isGroupedByLabel_groupBy (hnodup _ htags), m.showsCounts _ _ _ _ _ _⟩

/-- Two posts that share a tag, which one of them repeats. -/
def taggedPosts : List Post :=
  [{ Site.postAboutC with tags := distinctLabels ["C", " B ", "", "C "] },
    { Site.postAboutC with tags := distinctLabels ["B"] }]

/-- The shared tag counts twice. -/
theorem shared_tag_counts_twice :
    IsGroupedByLabel Post.tags taggedPosts (Collections.ofPosts 10 taggedPosts).tags ∧
      (Collections.ofPosts 10 taggedPosts).tags.map (fun group => (group.1, group.2.length)) =
        [("C", 1), ("B", 2)] := by
  have hcategories : ∀ p ∈ taggedPosts, ∃ raw, p.categories = distinctLabels raw := by
    intro p hp
    simp only [taggedPosts, List.mem_cons, List.not_mem_nil, or_false] at hp
    obtain rfl | rfl := hp <;> exact ⟨[], rfl⟩
  have htags : ∀ p ∈ taggedPosts, ∃ raw, p.tags = distinctLabels raw := by
    intro p hp
    simp only [taggedPosts, List.mem_cons, List.not_mem_nil, or_false] at hp
    obtain rfl | rfl := hp
    · exact ⟨["C", " B ", "", "C "], rfl⟩
    · exact ⟨["B"], rfl⟩
  exact ⟨(label_groups_are_exact Site.tagPages 10 taggedPosts hcategories htags).2.1, by decide +kernel⟩

end StaticBlog
