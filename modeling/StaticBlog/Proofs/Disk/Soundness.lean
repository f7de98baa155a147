import Mathlib.Data.List.Nodup
import StaticBlog.Proofs.Disk.Walk

/-!
# Sound disks

- `Disk.Sound` : a disk as a file system keeps it
- `Disk.filter_names_eq` : directories of sound disks list the names that both have in one order
- `Disk.flatMap_names_eq` : so they show the same if they differ in names that show nothing
- `Disk.Sound.put`, `Disk.Sound.eraseIf` : what keeps a disk sound
- `Disk.Sound.createDirectories`, `Disk.Sound.writeAt`, `Disk.Sound.copy`, `Disk.Sound.clear` : each
  change keeps it sound
-/

namespace StaticBlog

/-- The target of a link. -/
def Entry.target? : Entry → Option String
  | .link target => some target
  | _ => none

namespace Disk

variable {d e : Disk} {ahead : Bool} {links : Nat} {l m : Place} {n : String} {found : Found}
  {path : List Path.Component} {p : Path}

/-- A disk as a file system keeps it: there is one entry at a place, its name is that of a file, and
the target of a link can be a path. -/
structure Sound (d : Disk) : Prop where
  distinct : (d.entries.map (·.1)).Nodup
  proper : Proper d
  targets : ∀ k t, d.get? k = some (.link t) → '\x00' ∉ t.toList

instance (n : String) : Decidable (IsEntryName n) :=
  decidable_of_iff (Path.IsName n ∧ ¬ nameLimit < n.utf8ByteSize ∧ '\x00' ∉ n.toList)
    ⟨fun h => ⟨h.1, h.2.1, h.2.2⟩, fun h => ⟨h.isName, h.short, h.plain⟩⟩

/-- Whether a disk is sound can be seen from its entries. -/
theorem sound_of_forall (hdistinct : (d.entries.map (·.1)).Nodup)
    (h : ∀ x ∈ d.entries, (∀ n ∈ x.1.getLast?, IsEntryName n) ∧
      ∀ t ∈ x.2.target?, '\x00' ∉ t.toList) : Sound d := by
  refine ⟨hdistinct, proper_of_forall fun x hx n hn => (h x hx).1 n hn, fun k t hget => ?_⟩
  rw [get?] at hget
  split at hget
  · cases hget
  · exact (h _ (mem_of_find?_eq_some hget)).2 t rfl

/-! ## The order of names -/

/-- The name of the entry at a place, if it is in a directory. -/
def nameIn (l k : Place) : Option String :=
  match k.getLast? with
  | some n => if k.dropLast = l then some n else none
  | none => none

theorem names_eq (d : Disk) (l : Place) :
    d.names l = ((d.entries.map (·.1)).filterMap (nameIn l)).mergeSort
      fun a b => !b.toList.lex a.toList (· < ·) := by
  rw [names, List.filterMap_map]
  rfl

theorem nodup_names (hd : Sound d) (l : Place) : (d.names l).Nodup := by
  rw [names_eq, (List.mergeSort_perm _ _).nodup_iff]
  refine hd.distinct.filterMap fun k k' n hk hk' => ?_
  -- Only one place has the name in this directory.
  rw [nameIn_eq_some_iff.1 hk, nameIn_eq_some_iff.1 hk']

/-- Whether a directory lists a name before another one, or they are the same. -/
def IsListedUpTo (a b : String) : Prop := (!b.toList.lex a.toList (· < ·)) = true

namespace IsListedUpTo

variable {a b c : String}

theorem trans (hab : IsListedUpTo a b) (hbc : IsListedUpTo b c) : IsListedUpTo a c := by
  simp only [IsListedUpTo, Bool.not_eq_true', ← Bool.not_eq_true, List.lex_eq_true_iff_lt,
    List.not_lt] at *
  exact List.le_trans hab hbc

theorem total (a b : String) : IsListedUpTo a b ∨ IsListedUpTo b a := by
  simp only [IsListedUpTo, Bool.not_eq_true', ← Bool.not_eq_true, List.lex_eq_true_iff_lt, List.not_lt]
  exact List.le_total _ _

theorem antisymm (hab : IsListedUpTo a b) (hba : IsListedUpTo b a) : a = b := by
  simp only [IsListedUpTo, Bool.not_eq_true', ← Bool.not_eq_true, List.lex_eq_true_iff_lt,
    List.not_lt] at *
  exact String.toList_injective (List.le_antisymm hab hba)

end IsListedUpTo

theorem pairwise_names (d : Disk) (l : Place) : (d.names l).Pairwise IsListedUpTo := by
  rw [names_eq]
  refine List.pairwise_mergeSort (fun a b c hab hbc => ?_) (fun a b => ?_) _
  · exact IsListedUpTo.trans hab hbc
  · rw [Bool.or_eq_true]
    exact IsListedUpTo.total a b

/-- Directories of sound disks list the names that both have in one order. -/
theorem filter_names_eq (hd : Sound d) (he : Sound e) {shared : String → Bool}
    (h : ∀ n, shared n = true → (e.get? (l ++ [n]) ≠ none ↔ d.get? (l ++ [n]) ≠ none)) :
    (e.names l).filter shared = (d.names l).filter shared := by
  have hperm : ((e.names l).filter shared).Perm ((d.names l).filter shared) := by
    rw [List.perm_ext_iff_of_nodup ((nodup_names he l).filter _) ((nodup_names hd l).filter _)]
    intro n
    rw [List.mem_filter, List.mem_filter, mem_names_iff, mem_names_iff]
    exact and_congr_left fun hn => h n hn
  exact hperm.eq_of_pairwise (fun a b _ _ hab hba => hab.antisymm hba)
    ((pairwise_names e l).filter _) ((pairwise_names d l).filter _)

theorem names_congr (hd : Sound d) (he : Sound e)
    (h : ∀ n, e.get? (l ++ [n]) ≠ none ↔ d.get? (l ++ [n]) ≠ none) : e.names l = d.names l := by
  have hall : (e.names l).filter (fun _ => true) = (d.names l).filter fun _ => true :=
    filter_names_eq hd he fun n _ => h n
  simpa using hall

theorem flatMap_filter_eq {α β : Type} {f : α → List β} {shared : α → Bool} {xs : List α}
    (h : ∀ x ∈ xs, shared x = false → f x = []) : (xs.filter shared).flatMap f = xs.flatMap f := by
  induction xs with
  | nil => rfl
  | cons x xs ih =>
    have hrest := ih fun y hy => h y (List.mem_cons_of_mem x hy)
    cases hx : shared x with
    | true => rw [List.filter_cons_of_pos hx, List.flatMap_cons, List.flatMap_cons, hrest]
    | false =>
      rw [List.filter_cons_of_neg (by simp [hx]), List.flatMap_cons, h x List.mem_cons_self hx, hrest,
        List.nil_append]

/-- Directories of sound disks show the same if they differ in names that show nothing. -/
theorem flatMap_names_eq {α : Type} {f g : String → List α} (hd : Sound d) (he : Sound e)
    (h : ∀ n, (n ∈ e.names l ↔ n ∈ d.names l) ∧ (n ∈ d.names l → g n = f n) ∨
      (n ∈ e.names l → g n = []) ∧ (n ∈ d.names l → f n = [])) :
    (e.names l).flatMap g = (d.names l).flatMap f := by
  classical
  -- The names that may show something are the same in both directories, and in one order.
  let shared : String → Bool := fun n =>
    decide ((n ∈ e.names l ↔ n ∈ d.names l) ∧ (n ∈ d.names l → g n = f n))
  have hnames : (e.names l).filter shared = (d.names l).filter shared :=
    filter_names_eq hd he fun n hn => by
      rw [← mem_names_iff, ← mem_names_iff]
      exact (of_decide_eq_true hn).1
  have hrest : ∀ n, shared n = false → (n ∈ e.names l → g n = []) ∧ (n ∈ d.names l → f n = []) :=
    fun n hn => (h n).resolve_left (of_decide_eq_false hn)
  calc (e.names l).flatMap g = ((e.names l).filter shared).flatMap g :=
        (flatMap_filter_eq fun n hmem hn => (hrest n hn).1 hmem).symm
    _ = ((d.names l).filter shared).flatMap g := by rw [hnames]
    _ = ((d.names l).filter shared).flatMap f := List.flatMap_congr fun n hn =>
        (of_decide_eq_true (List.mem_filter.1 hn).2).2 (List.mem_filter.1 hn).1
    _ = (d.names l).flatMap f := flatMap_filter_eq fun n hmem hn => (hrest n hn).2 hmem

/-! ## Changes of entries -/

theorem map_fst_putIn (entries : List (Place × Entry)) (l : Place) (x : Entry) :
    (putIn entries l x).map (·.1) =
      if l ∈ entries.map (·.1) then entries.map (·.1) else entries.map (·.1) ++ [l] := by
  induction entries with
  | nil => simp [putIn]
  | cons y entries ih =>
    rcases y with ⟨k, y⟩
    by_cases hk : k = l
    · simp [putIn, hk]
    · have hne : ¬ l = k := fun heq => hk heq.symm
      simp only [putIn, if_neg hk, List.map_cons, ih, List.mem_cons, hne, false_or]
      split <;> rfl

theorem Sound.put (h : Sound d) (hn : IsEntryName n) {x : Entry} (hx : ∀ t, x ≠ .link t) :
    Sound (d.put (l ++ [n]) x) := by
  refine ⟨?_, h.proper.put hn, fun k t hget => ?_⟩
  · change ((putIn d.entries (l ++ [n]) x).map (·.1)).Nodup
    rw [map_fst_putIn]
    split
    · exact h.distinct
    · next hnew =>
      refine List.nodup_append.2 ⟨h.distinct, List.nodup_singleton _, fun a ha b hb => ?_⟩
      rintro rfl
      exact hnew (List.mem_singleton.1 hb ▸ ha)
  · by_cases hk : l ++ [n] = k
    · subst hk
      rw [get?_put_self d x (by simp)] at hget
      exact absurd (Option.some.inj hget) (hx t)
    · rw [get?_put_of_ne d x hk] at hget
      exact h.targets k t hget

theorem Sound.eraseIf (h : Sound d) (lost : Place → Bool) : Sound (d.eraseIf lost) := by
  refine ⟨?_, (shrinks_eraseIf d lost).proper h.proper, fun k t hget => ?_⟩
  · exact h.distinct.sublist (List.filter_sublist.map _)
  · rcases (shrinks_eraseIf d lost).get? k with hkept | hlost
    · exact h.targets k t (hkept ▸ hget)
    · rw [hlost] at hget
      cases hget

/-! ## Changes of disks -/

/-- What is missing at the end of a path can be the name of an entry. -/
theorem Leads.isEntryName_of_missing (hd : Sound d) (h : Leads d ahead links l path found)
    (hm : found = .missing m)
    (hpath : ∀ n, .name n ∈ path → Path.IsName n ∧ '\x00' ∉ n.toList) :
    ∃ k n, m = k ++ [n] ∧ IsEntryName n := by
  induction h with
  | done links l => cases hm
  | root _ ih | here _ ih | up _ ih | directory _ _ _ ih =>
    exact ih hm fun n hn => hpath n (List.mem_cons_of_mem _ hn)
  | @missing links l n hshort _ =>
    cases hm
    have hname := hpath n List.mem_cons_self
    exact ⟨l, n, rfl, hname.1, hshort, hname.2⟩
  | file _ _ => cases hm
  | unfollowed _ _ _ => cases hm
  | @link links l n target rest found _ _ hget _ ih =>
    refine ih hm fun n' hn' => ?_
    rcases List.mem_append.1 hn' with htarget | hrest
    · -- The names in the target of a link are as good as those of a path.
      have hmem : .name n' ∈ (⟨target⟩ : Path).components := htarget
      exact ⟨Path.isName_of_mem_components hmem, fun hnul =>
        hd.targets _ target hget (Path.mem_text_of_mem_components hmem _ hnul)⟩
    · exact hpath n' (List.mem_cons_of_mem _ hrest)

namespace Sound

theorem put_of_reach_missing (hd : Sound d) {x : Entry} (hx : ∀ t, x ≠ .link t) :
    d.reach ahead p = .ok (.missing m) → Sound (d.put m x) := by
  intro h
  rcases reach_eq_missing_iff.1 h with ⟨husable, -, hleads⟩
  have hnames : ∀ n, .name n ∈ p.components → Path.IsName n ∧ '\x00' ∉ n.toList := fun n hn =>
    ⟨Path.isName_of_mem_components hn, fun hnul =>
      husable.plain (Path.mem_text_of_mem_components hn _ hnul)⟩
  rcases hleads.isEntryName_of_missing hd rfl hnames with ⟨k, n, rfl, hn⟩
  exact hd.put hn hx

theorem createDirectory (hd : Sound d) : d.createDirectory p = .ok e → Sound e := by
  intro h
  rw [Disk.createDirectory] at h
  split at h
  · cases h
  · next m hreach =>
    cases h
    exact hd.put_of_reach_missing (by simp) hreach
  · cases h

theorem ensureDirectory (hd : Sound d) : d.ensureDirectory p = .ok e → Sound e := by
  intro h
  rcases ensureDirectory_eq_ok_iff.1 h with hcreate | ⟨-, -, rfl⟩
  · exact hd.createDirectory hcreate
  · exact hd

theorem createDirectoriesFrom {fuel : Nat} (hd : Sound d) :
    d.createDirectoriesFrom fuel p = .ok e → Sound e := by
  intro h
  induction fuel generalizing e p with
  | zero => cases h
  | succ fuel ih =>
    rcases createDirectoriesFrom_succ_eq_ok_iff.1 h with ⟨-, rfl⟩ | ⟨-, hcreate |
      ⟨-, q, above, -, habove, hensure⟩ | ⟨error, -, -, -, rfl⟩⟩
    · exact hd
    · exact hd.createDirectory hcreate
    · exact (ih habove).ensureDirectory hensure
    · exact hd

theorem createDirectories (hd : Sound d) : d.createDirectories p = .ok e → Sound e :=
  hd.createDirectoriesFrom

theorem writeAt (hd : Sound d) {content : Content} {modified : Int} :
    d.writeAt p content modified = .ok e → Sound e := by
  intro h
  have hlink : ∀ t, Entry.file content modified ≠ .link t := by simp
  rw [Disk.writeAt] at h
  split at h
  · cases h
  · next m x hnot hlocate =>
    cases h
    rcases reach_eq_entry_iff.1 (locate_eq_entry_iff.1 hlocate).2 with ⟨-, -, hleads⟩
    rw [Bool.true_or, Bool.true_or] at hleads
    cases x with
    | directory => exact absurd rfl hnot
    | link t => exact absurd rfl (hleads.ne_link m t)
    | file content' modified' =>
      -- The file that is replaced has the name of an entry.
      rcases hleads.get?_of_file rfl with ⟨hget, k, n, rfl, -⟩
      exact hd.put (hd.proper k n (by simp [hget])) hlink
  · next m hlocate =>
    cases h
    rw [locate] at hlocate
    split at hlocate
    · split at hlocate <;> cases hlocate
    · exact hd.put_of_reach_missing hlink hlocate
  · cases h

theorem copy (hd : Sound d) {source : Path} : d.copy source p = .ok e → Sound e := by
  intro h
  rw [Disk.copy] at h
  split at h
  · exact hd.writeAt h
  · cases h
  · cases h

theorem clear (hd : Sound d) : d.clear p = .ok e → Sound e := by
  intro h
  rcases clear_eq_ok_iff.1 h with ⟨l, -, rfl⟩ | ⟨l, t, -, rfl⟩
  · exact hd.eraseIf _
  · exact hd.eraseIf _

theorem removeCleared (hd : Sound d) : d.removeCleared p = .ok e → Sound e := by
  intro h
  rcases cases_of_removeCleared h with ⟨l, -, -, rfl⟩ | ⟨-, rfl⟩
  · exact hd.eraseIf _
  · exact hd

end Sound
end Disk
end StaticBlog
