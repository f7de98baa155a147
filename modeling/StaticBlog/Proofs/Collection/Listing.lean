import StaticBlog.Proofs.Collection.Counts

/-!
# The pages of a listing

- `flatten_chunks`, `length_of_chunks` : the pieces of a list, in order and as long as they can be
- `numbers_paginate` : pages are numbered from one, without a gap
- `items_paginate` : the items of all pages are the list
- `length_items_of_mem` : every page but the last one is full
-/

namespace StaticBlog

variable {α : Type} {size perPage : Nat} {xs : List α} {page : ListingPage α}

/-! ## Pieces -/

theorem flatten_chunks (size : Nat) (xs : List α) : (chunks size xs).flatten = xs := by
  induction xs using chunks.induct size with
  | case1 => simp [chunks]
  | case2 x xs ih =>
    rw [chunks, List.flatten_cons, ih, List.cons_append, List.take_append_drop]

theorem ne_nil_of_mem_chunks {piece : List α} : piece ∈ chunks size xs → piece ≠ [] := by
  intro hpiece
  induction xs using chunks.induct size with
  | case1 => simp [chunks] at hpiece
  | case2 x xs ih =>
    rw [chunks] at hpiece
    rcases List.mem_cons.1 hpiece with rfl | hlater
    · exact List.cons_ne_nil x _
    · exact ih hlater

/-- A piece with another one behind it is full. -/
theorem length_of_chunks {i : Nat} {piece : List α} (hpiece : (chunks size xs)[i]? = some piece)
    (hi : i + 1 < (chunks size xs).length) : piece.length = size + 1 := by
  induction xs using chunks.induct size generalizing i with
  | case1 => simp [chunks] at hi
  | case2 x xs ih =>
    have hunfold : chunks size (x :: xs) = (x :: xs.take size) :: chunks size (xs.drop size) := by
      rw [chunks]
    rw [hunfold] at hpiece hi
    rw [List.length_cons] at hi
    cases i with
    | zero =>
      -- There is another piece, so the first one has not used up the list.
      have hmore : xs.drop size ≠ [] := by
        intro hnil
        rw [hnil] at hi
        simp [chunks] at hi
      have hlength : size ≤ xs.length := by
        have hpos := List.length_pos_iff.2 hmore
        rw [List.length_drop] at hpos
        omega
      rw [List.getElem?_cons_zero] at hpiece
      cases hpiece
      rw [List.length_cons, List.length_take, Nat.min_eq_left hlength]
    | succ i =>
      rw [List.getElem?_cons_succ] at hpiece
      exact ih hpiece (by omega)

/-! ## Pages -/

/-- The pages of a listing are its pieces with their numbers. -/
theorem mem_paginate_iff :
    page ∈ paginate perPage xs ↔ ∃ (i : Nat) (hi : i < (chunks (perPage - 1) xs).length),
      page = ⟨i + 1, (chunks (perPage - 1) xs).length, (chunks (perPage - 1) xs)[i]⟩ := by
  rw [paginate, List.mem_map]
  constructor
  · rintro ⟨⟨piece, i⟩, hmem, rfl⟩
    rw [List.mk_mem_zipIdx_iff_getElem?, List.getElem?_eq_some_iff] at hmem
    rcases hmem with ⟨hi, rfl⟩
    exact ⟨i, hi, rfl⟩
  · rintro ⟨i, hi, rfl⟩
    exact ⟨(_, i), List.mk_mem_zipIdx_iff_getElem?.2 (List.getElem?_eq_getElem hi), rfl⟩

theorem numbers_paginate (perPage : Nat) (xs : List α) :
    (paginate perPage xs).map (·.number) = List.range' 1 (pageCount perPage xs.length) := by
  have hlength := length_paginate perPage xs
  rw [paginate, List.length_map, List.length_zipIdx] at hlength
  rw [← hlength, paginate, List.map_map]
  refine List.ext_getElem (by simp) fun i hi _ => ?_
  simp [Nat.add_comm]

theorem items_paginate (perPage : Nat) (xs : List α) :
    (paginate perPage xs).flatMap (·.items) = xs := by
  have hpieces : (paginate perPage xs).map (·.items) = chunks (perPage - 1) xs := by
    rw [paginate, List.map_map]
    exact List.zipIdx_map_fst 0 _
  rw [List.flatMap_def, hpieces, flatten_chunks]

theorem total_of_mem (hpage : page ∈ paginate perPage xs) :
    page.total = pageCount perPage xs.length := by
  have hlength := length_paginate perPage xs
  rw [paginate, List.length_map, List.length_zipIdx] at hlength
  rcases mem_paginate_iff.1 hpage with ⟨i, hi, rfl⟩
  exact hlength

theorem items_ne_nil_of_mem (hpage : page ∈ paginate perPage xs) : page.items ≠ [] := by
  rcases mem_paginate_iff.1 hpage with ⟨i, hi, rfl⟩
  exact ne_nil_of_mem_chunks (List.getElem_mem hi)

/-- Every page but the last one is full. -/
theorem length_items_of_mem (hpage : page ∈ paginate perPage xs) (hlast : page.number < page.total) :
    page.items.length = max 1 perPage := by
  rcases mem_paginate_iff.1 hpage with ⟨i, hi, rfl⟩
  have hsize : perPage - 1 + 1 = max 1 perPage := by omega
  rw [← hsize]
  exact length_of_chunks (List.getElem?_eq_getElem hi) hlast

end StaticBlog
