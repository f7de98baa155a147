import Mathlib
import StaticBlog.Proofs.Collection.Counts
import StaticBlog.Proofs.Collection.Newest

/-!
# The archive

- `Falls` : whether keys do not grow along a list
- `pairwise_eraseDups_of_falls`, `flatMap_withKey_eraseDups` : the keys of such a list fall from group to
  group, and the groups are the list again when they are put together
- `Regroups` : whether an archive has the items of a list by year and month
- `IsFolded` : whether an archive is a list that has only been divided
- `archive_is_faithful` : the archive of a list regroups it, and divides it if the newest items come first
-/

namespace StaticBlog

/-! ## Groups by one key -/

theorem mem_map_mk_iff {κ β : Type} {f : κ → β} {ks : List κ} {k : κ} {b : β} :
    (k, b) ∈ ks.map (fun k => (k, f k)) ↔ k ∈ ks ∧ b = f k := by
  rw [List.mem_map]
  constructor
  · rintro ⟨k', hmem, heq⟩
    cases heq
    exact ⟨hmem, rfl⟩
  · rintro ⟨hmem, rfl⟩
    exact ⟨k, hmem, rfl⟩

section

variable {κ α : Type} [DecidableEq κ] {key : α → κ} {xs : List α}

/-- The items with one key. -/
def withKey (key : α → κ) (xs : List α) (k : κ) : List α := xs.filter fun a => key a = k

theorem mem_withKey_iff {a : α} {k : κ} : a ∈ withKey key xs k ↔ a ∈ xs ∧ key a = k := by
  rw [withKey, List.mem_filter, decide_eq_true_eq]

/-- Items with one key each are in the group of that key. -/
theorem groupBy_singleton (key : α → κ) (xs : List α) :
    groupBy (fun a => [key a]) xs = (xs.map key).eraseDups.map fun k => (k, withKey key xs k) := by
  have hnodup : ∀ a ∈ xs, [key a].Nodup := fun a _ => List.nodup_singleton (key a)
  have hkeys : (xs.flatMap fun a => [key a]) = xs.map key := List.map_eq_flatMap.symm
  rw [groupBy_eq hnodup, hkeys]
  simp only [withKey, List.mem_singleton, eq_comm]

variable [PartialOrder κ]

/-- Whether keys do not grow along a list. -/
def Falls (key : α → κ) (xs : List α) : Prop := xs.Pairwise fun a b => key b ≤ key a

/-- The distinct keys of a list along which they do not grow fall. -/
theorem pairwise_eraseDups_of_falls (h : Falls key xs) :
    (xs.map key).eraseDups.Pairwise fun k k' => k' < k := by
  have hkeys : (xs.map key).Pairwise fun k k' => k' ≤ k := List.pairwise_map.2 h
  have hle := hkeys.sublist (eraseDups_sublist _)
  have hne : (xs.map key).eraseDups.Pairwise (· ≠ ·) := nodup_eraseDups _
  exact (hle.and hne).imp fun ⟨hle, hne⟩ => lt_of_le_of_ne hle hne.symm

/-- Where keys do not grow, the items with the greatest key come first. -/
theorem withKey_append_of_falls {k : κ} (h : Falls key xs) (hk : ∀ a ∈ xs, key a ≤ k) :
    withKey key xs k ++ xs.filter (fun a => key a ≠ k) = xs := by
  induction xs with
  | nil => rfl
  | cons a xs ih =>
    obtain ⟨hfirst, hrest⟩ := List.pairwise_cons.1 h
    obtain ⟨ha, hxs⟩ := List.forall_mem_cons.1 hk
    by_cases heq : key a = k
    · rw [withKey, List.filter_cons_of_pos (by simpa using heq), List.filter_cons_of_neg (by simpa using heq),
        List.cons_append]
      exact congrArg (a :: ·) (ih hrest hxs)
    · -- Behind a smaller key there is no greatest one.
      have hlt : key a < k := lt_of_le_of_ne ha heq
      have hother : ∀ b ∈ a :: xs, key b ≠ k := by
        refine List.forall_mem_cons.2 ⟨heq, fun b hb => ?_⟩
        exact ne_of_lt (lt_of_le_of_lt (hfirst b hb) hlt)
      have hnone : withKey key (a :: xs) k = [] := List.filter_eq_nil_iff.2 (by simpa using hother)
      have hall : (a :: xs).filter (fun b => key b ≠ k) = a :: xs :=
        List.filter_eq_self.2 (by simpa using hother)
      rw [hnone, hall, List.nil_append]

/-- The items with each of all keys, from the greatest key on, are the list along which keys do not
grow. -/
theorem flatMap_withKey_of_falls {ks : List κ} (h : Falls key xs) (hks : ks.Pairwise fun k k' => k' < k)
    (hall : ∀ a ∈ xs, key a ∈ ks) : ks.flatMap (withKey key xs) = xs := by
  induction ks generalizing xs with
  | nil =>
    have hnil : xs = [] := List.eq_nil_iff_forall_not_mem.2 fun a ha => List.not_mem_nil (hall a ha)
    rw [hnil, List.flatMap_nil]
  | cons k ks ih =>
    obtain ⟨hfirst, hrest⟩ := List.pairwise_cons.1 hks
    have hle : ∀ a ∈ xs, key a ≤ k := by
      intro a ha
      obtain heq | hmem := List.mem_cons.1 (hall a ha)
      · exact le_of_eq heq
      · exact le_of_lt (hfirst _ hmem)
    -- The other keys are those of the items that are left without the first one.
    have hsame : ks.flatMap (withKey key xs) =
        ks.flatMap (withKey key (xs.filter fun a => key a ≠ k)) := by
      refine List.flatMap_congr fun k' hk' => ?_
      have hne : k' ≠ k := ne_of_lt (hfirst k' hk')
      rw [withKey, withKey, List.filter_filter]
      refine List.filter_congr fun a _ => ?_
      by_cases heq : key a = k' <;> simp [heq, hne]
    have hleft : ∀ a ∈ xs.filter (fun a => key a ≠ k), key a ∈ ks := by
      intro a ha
      obtain ⟨hmem, hne⟩ := List.mem_filter.1 ha
      exact (List.mem_cons.1 (hall a hmem)).resolve_left (by simpa using hne)
    calc (k :: ks).flatMap (withKey key xs)
        = withKey key xs k ++ ks.flatMap (withKey key xs) := List.flatMap_cons
      _ = withKey key xs k ++ xs.filter (fun a => key a ≠ k) := by
          rw [hsame, ih (h.filter _) hrest hleft]
      _ = xs := withKey_append_of_falls h hle

/-- The groups of a list along which keys do not grow are the list again when they are put together. -/
theorem flatMap_withKey_eraseDups (h : Falls key xs) :
    (xs.map key).eraseDups.flatMap (withKey key xs) = xs := by
  apply flatMap_withKey_of_falls h (pairwise_eraseDups_of_falls h)
  intro a ha
  exact List.mem_eraseDups.2 (List.mem_map_of_mem ha)

end

/-! ## Years and months -/

section

variable {α : Type} [Dated α]

def yearOf (a : α) : Int := (Dated.date a).year

def monthOf (a : α) : Nat := (Dated.date a).month

/-- Whether an archive has the items of a list by year and month, in the order of the list. -/
structure Regroups (xs : List α) (archive : Archive α) : Prop where
  /-- Each year has one group, which is not empty. -/
  years : (archive.map Prod.fst).Nodup ∧ ∀ year months, (year, months) ∈ archive → months ≠ []
  /-- Each month of a year has one group, which is not empty. -/
  months : ∀ year months, (year, months) ∈ archive → (months.map Prod.fst).Nodup ∧
    ∀ month items, (month, items) ∈ months → 1 ≤ month ∧ month ≤ 12 ∧ items ≠ []
  /-- The group holds the items of that year and month. -/
  items : ∀ year months month items, (year, months) ∈ archive → (month, items) ∈ months →
    items = xs.filter fun a => yearOf a = year ∧ monthOf a = month
  /-- No item is left out. -/
  complete : ∀ a ∈ xs, ∃ months items, (yearOf a, months) ∈ archive ∧ (monthOf a, items) ∈ months ∧ a ∈ items

/-- The items of an archive, group by group. -/
def Archive.items (archive : Archive α) : List α := archive.flatMap fun group => group.2.flatMap (·.2)

/-- Whether an archive is a list that has only been divided: years fall, months fall in each year, and all
groups together are the list. -/
structure IsFolded (xs : List α) (archive : Archive α) : Prop where
  years : (archive.map Prod.fst).Pairwise (· > ·)
  months : ∀ year months, (year, months) ∈ archive → (months.map Prod.fst).Pairwise (· > ·)
  items : Archive.items archive = xs

/-- The months of a year with their items. -/
def monthsOf (xs : List α) (year : Int) : Groups Nat α := groupBy (fun a => [monthOf a]) (withKey yearOf xs year)

theorem archive_eq (xs : List α) :
    archive xs = (xs.map yearOf).eraseDups.map fun year => (year, monthsOf xs year) := by
  have hyears : groupBy (fun a => [(Dated.date a).year]) xs =
      (xs.map yearOf).eraseDups.map fun year => (year, withKey yearOf xs year) :=
    groupBy_singleton yearOf xs
  rw [archive, hyears, List.map_map]
  rfl

theorem monthsOf_eq (xs : List α) (year : Int) :
    monthsOf xs year = ((withKey yearOf xs year).map monthOf).eraseDups.map fun month =>
      (month, withKey monthOf (withKey yearOf xs year) month) := groupBy_singleton monthOf _

theorem years_archive (xs : List α) : (archive xs).map Prod.fst = (xs.map yearOf).eraseDups := by
  rw [archive_eq, List.map_map]
  exact List.map_id _

theorem months_monthsOf (xs : List α) (year : Int) :
    (monthsOf xs year).map Prod.fst = ((withKey yearOf xs year).map monthOf).eraseDups := by
  rw [monthsOf_eq, List.map_map]
  exact List.map_id _

variable {xs : List α} {year : Int} {months : Groups Nat α} {month : Nat} {items : List α}

theorem mem_archive_iff :
    (year, months) ∈ archive xs ↔ year ∈ xs.map yearOf ∧ months = monthsOf xs year := by
  rw [archive_eq, mem_map_mk_iff, List.mem_eraseDups]

theorem mem_monthsOf_iff :
    (month, items) ∈ monthsOf xs year ↔ month ∈ (withKey yearOf xs year).map monthOf ∧
      items = withKey monthOf (withKey yearOf xs year) month := by
  rw [monthsOf_eq, mem_map_mk_iff, List.mem_eraseDups]

/-- The archive of a list regroups it. -/
theorem regroups_archive (xs : List α) : Regroups xs (archive xs) where
  years := by
    rw [years_archive]
    refine ⟨nodup_eraseDups _, fun year months hmem => ?_⟩
    obtain ⟨hyear, rfl⟩ := mem_archive_iff.1 hmem
    -- A year has a group because an item is of that year, and then its month has one too.
    obtain ⟨a, ha, rfl⟩ := List.mem_map.1 hyear
    have hmonth : (monthOf a, _) ∈ monthsOf xs (yearOf a) :=
      mem_monthsOf_iff.2 ⟨List.mem_map_of_mem (mem_withKey_iff.2 ⟨ha, rfl⟩), rfl⟩
    exact List.ne_nil_of_mem hmonth
  months := by
    intro year months hmem
    obtain ⟨-, rfl⟩ := mem_archive_iff.1 hmem
    rw [months_monthsOf]
    refine ⟨nodup_eraseDups _, fun month items hmem => ?_⟩
    obtain ⟨hmonth, rfl⟩ := mem_monthsOf_iff.1 hmem
    obtain ⟨a, ha, rfl⟩ := List.mem_map.1 hmonth
    have hitem : a ∈ withKey monthOf (withKey yearOf xs year) (monthOf a) :=
      mem_withKey_iff.2 ⟨ha, rfl⟩
    exact ⟨(Dated.date a).date.month_pos, (Dated.date a).date.month_le, List.ne_nil_of_mem hitem⟩
  items := by
    intro year months month items hmem hmem'
    obtain ⟨-, rfl⟩ := mem_archive_iff.1 hmem
    obtain ⟨-, rfl⟩ := mem_monthsOf_iff.1 hmem'
    rw [withKey, withKey, List.filter_filter]
    refine List.filter_congr fun a _ => ?_
    rw [Bool.decide_and, Bool.and_comm]
  complete := by
    intro a ha
    have hyear : a ∈ withKey yearOf xs (yearOf a) := mem_withKey_iff.2 ⟨ha, rfl⟩
    exact ⟨_, _, mem_archive_iff.2 ⟨List.mem_map_of_mem ha, rfl⟩,
      mem_monthsOf_iff.2 ⟨List.mem_map_of_mem hyear, rfl⟩, mem_withKey_iff.2 ⟨hyear, rfl⟩⟩

/-- Years do not grow along a list with the newest items first. -/
theorem falls_yearOf (h : IsNewestFirst xs) : Falls yearOf xs :=
  h.imp fun hnot => Moment.year_le_of_not_isBefore hnot

/-- Nor do months along the items of a year. -/
theorem falls_monthOf (h : IsNewestFirst xs) (year : Int) : Falls monthOf (withKey yearOf xs year) := by
  refine (h.filter _).imp_of_mem fun {a b} ha hb hnot => ?_
  have hyear : yearOf a = year := (mem_withKey_iff.1 ha).2
  have hyear' : yearOf b = year := (mem_withKey_iff.1 hb).2
  exact Moment.month_le_of_not_isBefore hnot (hyear.trans hyear'.symm)

theorem flatMap_monthsOf (h : IsNewestFirst xs) (year : Int) :
    (monthsOf xs year).flatMap (·.2) = withKey yearOf xs year := by
  rw [monthsOf_eq, List.flatMap_map]
  exact flatMap_withKey_eraseDups (falls_monthOf h year)

/-- The archive of a list with the newest items first divides it. -/
theorem isFolded_archive (h : IsNewestFirst xs) : IsFolded xs (archive xs) where
  years := by
    rw [years_archive]
    exact pairwise_eraseDups_of_falls (falls_yearOf h)
  months := by
    intro year months hmem
    obtain ⟨-, rfl⟩ := mem_archive_iff.1 hmem
    rw [months_monthsOf]
    exact pairwise_eraseDups_of_falls (falls_monthOf h year)
  items := by
    calc Archive.items (archive xs)
        = (xs.map yearOf).eraseDups.flatMap fun year => (monthsOf xs year).flatMap (·.2) := by
          rw [Archive.items, archive_eq, List.flatMap_map]
      _ = (xs.map yearOf).eraseDups.flatMap (withKey yearOf xs) :=
          List.flatMap_congr fun year _ => flatMap_monthsOf h year
      _ = xs := flatMap_withKey_eraseDups (falls_yearOf h)

/-- The archive of a list has each item in the group of its year and month, in the order of the list. If
the newest items come first it has the newest years and months first, and its groups are the list when they
are put together again. -/
theorem archive_is_faithful (xs : List α) :
    Regroups xs (archive xs) ∧ (IsNewestFirst xs → IsFolded xs (archive xs)) :=
  ⟨regroups_archive xs, isFolded_archive⟩

end

/-- A moment is its own date. -/
instance : Dated Moment := ⟨id⟩

/-- The beginning of a day. -/
def startOf (year : Int) (month day : Nat) : Moment :=
  ⟨(Date.ofParts? year month day).getD .epoch, .midnight⟩

/-- Moments of a year with five digits, and of one before year zero. -/
def farMoments : List Moment :=
  [startOf 10000 2 1, startOf 10000 1 31, startOf 10000 1 31, startOf (-4) 2 29]

/-- They are in three months of two years. -/
theorem archive_of_far_moments : IsNewestFirst farMoments ∧ IsFolded farMoments (archive farMoments) ∧
    (archive farMoments).map (fun group => (group.1, group.2.map Prod.fst)) =
      [(10000, [2, 1]), (-4, [2])] := by
  have hnewest : IsNewestFirst farMoments := by decide
  exact ⟨hnewest, (archive_is_faithful farMoments).2 hnewest, by decide⟩

end StaticBlog
