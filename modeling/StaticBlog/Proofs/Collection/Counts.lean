import Mathlib.Data.List.Induction
import Mathlib.Data.List.Nodup
import StaticBlog.Collection.Collections

/-!
# Pages and groups of a listing

- `length_chunks`, `length_paginate` : the number of pages of a listing
- `exists_paginate_iff` : pages are numbered from one
- `nodup_eraseDups`, `eraseDups_sublist`, `pairwise_idxOf_eraseDups` : the distinct elements of a list
- `keys_groupBy` : every key that occurs has one group
- `groupBy_eq` : the group of a key holds the items that have it
-/

namespace StaticBlog

/-! ## Pages -/

/-- The number of pages that a number of items needs. A page holds at least one item. -/
def pageCount (perPage items : Nat) : Nat := (items + (max 1 perPage - 1)) / max 1 perPage

theorem length_chunks {α : Type} (size : Nat) (xs : List α) :
    (chunks size xs).length = (xs.length + size) / (size + 1) := by
  induction xs using chunks.induct size with
  | case1 =>
    have hsmall : size / (size + 1) = 0 := Nat.div_eq_of_lt (Nat.lt_succ_self size)
    simp [chunks, hsmall]
  | case2 x xs ih =>
    have hlength : (x :: xs).length + size = xs.length + (size + 1) := by
      rw [List.length_cons]
      omega
    -- What is left behind the first piece needs as many pages as its length tells.
    have hdrop : (xs.length - size + size) / (size + 1) = xs.length / (size + 1) := by
      by_cases hle : size ≤ xs.length
      · rw [Nat.sub_add_cancel hle]
      · have hzero : xs.length - size = 0 := by omega
        rw [hzero, Nat.zero_add, Nat.div_eq_of_lt (by omega), Nat.div_eq_of_lt (by omega)]
    rw [chunks, List.length_cons, ih, List.length_drop, hdrop, hlength,
      Nat.add_div_right _ (Nat.succ_pos size)]

theorem length_paginate {α : Type} (perPage : Nat) (xs : List α) :
    (paginate perPage xs).length = pageCount perPage xs.length := by
  have hsize : perPage - 1 + 1 = max 1 perPage := by omega
  have hrest : max 1 perPage - 1 = perPage - 1 := by omega
  rw [paginate, List.length_map, List.length_zipIdx, length_chunks, pageCount, hsize, hrest]

/-- Pages are numbered from one. -/
theorem exists_paginate_iff {α : Type} {perPage : Nat} {xs : List α} {k : Nat} :
    (∃ page ∈ paginate perPage xs, page.number = k) ↔ 1 ≤ k ∧ k ≤ pageCount perPage xs.length := by
  have hlength := length_paginate perPage xs
  rw [paginate, List.length_map, List.length_zipIdx] at hlength
  rw [← hlength]
  simp only [paginate, List.mem_map]
  constructor
  · rintro ⟨page, ⟨⟨piece, i⟩, hmem, rfl⟩, rfl⟩
    have hi := (List.mem_zipIdx hmem).2.1
    simp only at hi ⊢
    omega
  · rintro ⟨hlow, hhigh⟩
    have hi : k - 1 < (chunks (perPage - 1) xs).length := by omega
    refine ⟨_, ⟨(_, k - 1), List.mk_mem_zipIdx_iff_getElem?.2 (List.getElem?_eq_getElem hi), rfl⟩, ?_⟩
    change k - 1 + 1 = k
    omega

/-! ## Distinct elements -/

variable {κ α : Type} [DecidableEq κ]

/-- An element at the end is a new one, or nothing happens. -/
theorem eraseDups_concat (ks : List κ) (k : κ) :
    (ks ++ [k]).eraseDups = if k ∈ ks then ks.eraseDups else ks.eraseDups ++ [k] := by
  rw [List.eraseDups_append]
  by_cases hk : k ∈ ks
  · simp [hk, List.removeAll]
  · simp [hk, List.removeAll, List.eraseDups_cons]

theorem nodup_eraseDups (ks : List κ) : ks.eraseDups.Nodup := by
  induction ks using List.reverseRecOn with
  | nil => exact List.nodup_nil
  | append_singleton ks k ih =>
    rw [eraseDups_concat]
    split
    · exact ih
    · next hk =>
      have hnew : k ∉ ks.eraseDups := mt List.mem_eraseDups.1 hk
      refine List.nodup_append.2 ⟨ih, List.nodup_singleton k, fun a ha b hb heq => ?_⟩
      rw [heq, List.mem_singleton.1 hb] at ha
      exact hnew ha

theorem eraseDups_sublist (ks : List κ) : ks.eraseDups.Sublist ks := by
  induction ks using List.reverseRecOn with
  | nil => exact List.Sublist.refl _
  | append_singleton ks k ih =>
    rw [eraseDups_concat]
    split
    · exact ih.trans (List.sublist_append_left ks [k])
    · exact ih.append (List.Sublist.refl [k])

/-- Distinct elements are in the order in which they first occur. -/
theorem pairwise_idxOf_eraseDups (ks : List κ) :
    ks.eraseDups.Pairwise fun a b => ks.idxOf a < ks.idxOf b := by
  induction ks using List.reverseRecOn with
  | nil => exact .nil
  | append_singleton ks k ih =>
    -- What has occurred before occurs first where it did before.
    have hbefore : ∀ a ∈ ks.eraseDups, (ks ++ [k]).idxOf a = ks.idxOf a ∧ ks.idxOf a < ks.length := by
      intro a ha
      have hmem := List.mem_eraseDups.1 ha
      exact ⟨List.idxOf_append_of_mem hmem, List.idxOf_lt_length_iff.2 hmem⟩
    have hfirst : ks.eraseDups.Pairwise fun a b => (ks ++ [k]).idxOf a < (ks ++ [k]).idxOf b := by
      refine ih.imp_of_mem fun {a b} ha hb hlt => ?_
      rw [(hbefore a ha).1, (hbefore b hb).1]
      exact hlt
    rw [eraseDups_concat]
    split
    · exact hfirst
    · next hk =>
      refine List.pairwise_append.2 ⟨hfirst, List.pairwise_singleton _ k, fun a ha b hb => ?_⟩
      rw [List.mem_singleton.1 hb, (hbefore a ha).1, List.idxOf_append_of_notMem hk]
      exact Nat.lt_add_right _ (hbefore a ha).2

/-! ## Groups -/

/-- The keys of groups. -/
def Groups.keys (g : Groups κ α) : List κ := g.map Prod.fst

theorem Groups.keys_add (g : Groups κ α) (key : κ) (item : α) :
    (g.add key item).keys = if key ∈ g.keys then g.keys else g.keys ++ [key] := by
  induction g with
  | nil => simp [add, keys]
  | cons x g ih =>
    rcases x with ⟨k, items⟩
    unfold keys at ih ⊢
    by_cases hk : k = key
    · subst hk
      simp [add]
    · have hne : key ≠ k := fun h => hk h.symm
      rw [add, if_neg hk, List.map_cons, ih]
      by_cases hmem : key ∈ g.map Prod.fst
      · simp [hmem]
      · simp [hmem, hne]

/-- Adding the keys of one item after the other leaves the distinct ones. -/
theorem keys_foldl_add (ks seen : List κ) (g : Groups κ α) (item : α)
    (hg : g.keys = seen.eraseDups) :
    (ks.foldl (fun g k => g.add k item) g).keys = (seen ++ ks).eraseDups := by
  induction ks generalizing seen g with
  | nil => simpa using hg
  | cons k ks ih =>
    -- A key that has a group adds none, as a key that has been seen adds nothing.
    have hadd : (g.add k item).keys = (seen ++ [k]).eraseDups := by
      rw [Groups.keys_add, hg, eraseDups_concat]
      simp only [List.mem_eraseDups]
    rw [List.foldl_cons, ih (seen ++ [k]) _ hadd, List.append_assoc, List.singleton_append]

/-- The keys of items that are grouped one by one, behind those that have been seen. -/
theorem keys_foldl_groups (keys : α → List κ) (items : List α) {seen : List κ} {g : Groups κ α}
    (hg : g.keys = seen.eraseDups) :
    (items.foldl (fun g a => (keys a).foldl (fun g k => g.add k a) g) g).keys =
      (seen ++ items.flatMap keys).eraseDups := by
  induction items generalizing seen g with
  | nil => simpa using hg
  | cons a items ih =>
    rw [List.foldl_cons, ih (keys_foldl_add (keys a) seen g a hg), List.flatMap_cons,
      List.append_assoc]

/-- Every key that occurs has one group. -/
theorem keys_groupBy (keys : α → List κ) (items : List α) :
    (groupBy keys items).keys = (items.flatMap keys).eraseDups := by
  have hnone : Groups.keys ([] : Groups κ α) = ([] : List κ).eraseDups := by simp [Groups.keys]
  exact keys_foldl_groups keys items hnone

theorem Groups.get_add (g : Groups κ α) (key : κ) (item : α) (k : κ) :
    (g.add key item).get k = if key = k then g.get k ++ [item] else g.get k := by
  induction g with
  | nil => simp [add, get]
  | cons x g ih =>
    rcases x with ⟨k', items⟩
    by_cases hk : k' = key
    · subst hk
      by_cases hkk : k' = k <;> simp [add, get, hkk]
    · rw [add, if_neg hk]
      by_cases hkk : k' = k
      · have hne : key ≠ k := fun heq => hk (hkk.trans heq.symm)
        simp [get, hkk, hne]
      · simp [get, hkk, ih]

/-- The keys of one item put it into the group of each of them. -/
theorem get_foldl_add {ks : List κ} (hks : ks.Nodup) (g : Groups κ α) (item : α) (k : κ) :
    (ks.foldl (fun g k => g.add k item) g).get k = g.get k ++ if k ∈ ks then [item] else [] := by
  induction ks generalizing g with
  | nil => simp
  | cons key ks ih =>
    rcases List.nodup_cons.1 hks with ⟨hkey, hrest⟩
    rw [List.foldl_cons, ih hrest, Groups.get_add]
    by_cases hk : key = k
    · subst hk
      simp [hkey]
    · have hne : k ≠ key := Ne.symm hk
      simp [hk, hne]

/-- Groups with different keys are told by what is found under each key. -/
theorem Groups.eq_map_get {g : Groups κ α} (hg : g.keys.Nodup) :
    g = g.keys.map fun k => (k, g.get k) := by
  induction g with
  | nil => rfl
  | cons x g ih =>
    rcases x with ⟨k, items⟩
    rcases List.nodup_cons.1 hg with ⟨hk, hrest⟩
    -- The first group is not found under a later key.
    have hlater : ∀ k' ∈ keys g, get ((k, items) :: g) k' = get g k' := by
      intro k' hk'
      have hne : k ≠ k' := fun heq => hk (heq ▸ hk')
      rw [get, if_neg hne]
    have hmap : (keys g).map (fun k' => (k', get ((k, items) :: g) k')) =
        (keys g).map fun k' => (k', get g k') :=
      List.map_congr_left fun k' hk' => by rw [hlater k' hk']
    have hfirst : get ((k, items) :: g) k = items := by rw [get, if_pos rfl]
    calc (k, items) :: g = (k, items) :: (keys g).map fun k' => (k', get g k') :=
          congrArg ((k, items) :: ·) (ih hrest)
      _ = (k, get ((k, items) :: g) k) ::
            (keys g).map fun k' => (k', get ((k, items) :: g) k') := by rw [hmap, hfirst]

/-- Grouping puts each item into the groups of its keys, behind what is there. -/
theorem get_foldl_groups {keys : α → List κ} {items : List α} (hkeys : ∀ a ∈ items, (keys a).Nodup)
    (g : Groups κ α) (k : κ) :
    (items.foldl (fun g a => (keys a).foldl (fun g k => g.add k a) g) g).get k =
      g.get k ++ items.filter fun a => k ∈ keys a := by
  induction items generalizing g with
  | nil => simp
  | cons a items ih =>
    have hrest := ih fun b hb => hkeys b (List.mem_cons_of_mem a hb)
    rw [List.foldl_cons, hrest, get_foldl_add (hkeys a List.mem_cons_self), List.filter_cons]
    by_cases hk : k ∈ keys a <;> simp [hk]

/-- The group of a key holds the items that have the key, and there is one for each key that occurs. -/
theorem groupBy_eq {keys : α → List κ} {items : List α} (hkeys : ∀ a ∈ items, (keys a).Nodup) :
    groupBy keys items =
      (items.flatMap keys).eraseDups.map fun k => (k, items.filter fun a => k ∈ keys a) := by
  have hnodup : (groupBy keys items).keys.Nodup := by
    rw [keys_groupBy]
    exact nodup_eraseDups _
  rw [Groups.eq_map_get hnodup, keys_groupBy]
  refine List.map_congr_left fun k _ => ?_
  have hget := get_foldl_groups hkeys [] k
  rw [Groups.get, List.nil_append] at hget
  exact congrArg (k, ·) hget

end StaticBlog
