import StaticBlog.Collection.Collections
import StaticBlog.Proofs.Date.Order

/-!
# The newest first

- `IsNewestFirst` : whether no item is earlier than one behind it
- `IsByDate` : whether a list has the items of another one, the newest first, where those of one date keep
  their order
- `isByDate_newestFirst` : items are put into this order
-/

namespace StaticBlog

variable {α : Type} [Dated α] {xs ys : List α}

/-- Whether no item is earlier than one behind it. -/
def IsNewestFirst (xs : List α) : Prop :=
  xs.Pairwise fun a b => ¬ (Dated.date a).IsBefore (Dated.date b)

instance (xs : List α) : Decidable (IsNewestFirst xs) := inferInstanceAs (Decidable (xs.Pairwise _))

/-- Whether a list has the items of another one, the newest first, and those of one date as they are
there. -/
structure IsByDate (xs ys : List α) : Prop where
  perm : ys.Perm xs
  newest : IsNewestFirst ys
  stable : ∀ date, ys.filter (fun a => Dated.date a = date) = xs.filter fun a => Dated.date a = date

/-- Whether an item may stand in front of another one. -/
def isNotEarlier (a b : α) : Bool := decide ((Dated.date b).rank ≤ (Dated.date a).rank)

theorem isNotEarlier_iff {a b : α} :
    isNotEarlier a b = true ↔ ¬ (Dated.date a).IsBefore (Dated.date b) := by
  rw [isNotEarlier, decide_eq_true_eq, ← Moment.rank_lt_iff, Int.not_lt]

theorem isNotEarlier_trans (a b c : α) (hab : isNotEarlier a b = true) (hbc : isNotEarlier b c = true) :
    isNotEarlier a c = true := by
  simp only [isNotEarlier, decide_eq_true_eq] at *
  exact Int.le_trans hbc hab

theorem isNotEarlier_total (a b : α) : (isNotEarlier a b || isNotEarlier b a) = true := by
  simp only [isNotEarlier, Bool.or_eq_true, decide_eq_true_eq]
  exact Int.le_total _ _

theorem newestFirst_perm (xs : List α) : (newestFirst xs).Perm xs := List.mergeSort_perm xs isNotEarlier

theorem isNewestFirst_newestFirst (xs : List α) : IsNewestFirst (newestFirst xs) := by
  have hsorted : (newestFirst xs).Pairwise fun a b => isNotEarlier a b = true :=
    List.pairwise_mergeSort isNotEarlier_trans isNotEarlier_total xs
  exact hsorted.imp fun h => isNotEarlier_iff.1 h

/-- Items of one date keep their order. -/
theorem filter_newestFirst (xs : List α) (date : Moment) :
    (newestFirst xs).filter (fun a => Dated.date a = date) =
      xs.filter fun a => Dated.date a = date := by
  -- Each of them may stand in front of the other ones, so sorting leaves them in their order.
  have hsame : (xs.filter fun a => Dated.date a = date).Pairwise fun a b => isNotEarlier a b = true := by
    refine List.pairwise_of_forall_mem_list fun a ha b hb => ?_
    have hdate : Dated.date a = date := by simpa using (List.mem_filter.1 ha).2
    have hdate' : Dated.date b = date := by simpa using (List.mem_filter.1 hb).2
    simp [isNotEarlier, hdate, hdate']
  have hkept : (xs.filter fun a => Dated.date a = date).Sublist (newestFirst xs) :=
    List.sublist_mergeSort isNotEarlier_trans isNotEarlier_total hsame List.filter_sublist
  have hfilter := hkept.filter fun a => decide (Dated.date a = date)
  simp only [List.filter_filter, Bool.and_self] at hfilter
  exact (hfilter.eq_of_length ((newestFirst_perm xs).filter _).length_eq.symm).symm

/-- Items are put into the order of their dates. -/
theorem isByDate_newestFirst (xs : List α) : IsByDate xs (newestFirst xs) :=
  ⟨newestFirst_perm xs, isNewestFirst_newestFirst xs, filter_newestFirst xs⟩

end StaticBlog
