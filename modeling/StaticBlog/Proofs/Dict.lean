import StaticBlog.Dict

/-!
# Looking up dictionaries

- `Dict.get?_foldl_insert`, `Dict.get?_ofEntries` : of several values put under a name, the last one
  is found
- `Dict.nodup_keys_ofEntries` : no name occurs twice in a dictionary
- `Dict.get?_of_mem` : where no name occurs twice, each entry is found
- `Dict.get?_eq_of_perm` : where no name occurs twice, the order of the entries does not matter
-/

namespace StaticBlog
namespace Dict

variable {α : Type u}

theorem get?_eq_none_iff {d : Dict α} {k : String} : get? d k = none ↔ k ∉ d.keys := by
  induction d with
  | nil => simp [get?, keys]
  | cons e d ih =>
    rcases e with ⟨k', v⟩
    by_cases hk : k' = k
    · simp [get?, keys, hk]
    · have hk' : k ≠ k' := Ne.symm hk
      simpa [get?, keys, hk, hk'] using ih

theorem get?_append (d e : Dict α) (k : String) :
    get? (d ++ e) k = (get? d k).or (get? e k) := by
  induction d with
  | nil => simp [get?]
  | cons entry d ih =>
    rcases entry with ⟨k', v⟩
    by_cases hk : k' = k
    · simp [get?, hk]
    · simpa [get?, hk] using ih

/-- Where no name occurs twice, each entry is found. -/
theorem get?_of_mem {d : Dict α} {k : String} {v : α} (hnodup : d.keys.Nodup) :
    (k, v) ∈ d → get? d k = some v := by
  intro hmem
  induction d with
  | nil => simp at hmem
  | cons e d ih =>
    rcases e with ⟨k', v'⟩
    have hparts : k' ∉ keys d ∧ (keys d).Nodup := by simpa [keys] using hnodup
    rcases List.mem_cons.1 hmem with heq | hmem
    · cases heq
      simp [get?]
    -- The entry is further on, so the first name is another one.
    · have hk : k' ≠ k := by
        rintro rfl
        exact hparts.1 (List.mem_map_of_mem hmem)
      simpa [get?, hk] using ih hparts.2 hmem

theorem mem_of_get? {d : Dict α} {k : String} {v : α} : get? d k = some v → (k, v) ∈ d := by
  intro h
  induction d with
  | nil => simp [get?] at h
  | cons e d ih =>
    rcases e with ⟨k', v'⟩
    by_cases hk : k' = k
    · have hv : v' = v := by simpa [get?, hk] using h
      simp [hk, hv]
    · exact List.mem_cons_of_mem _ (ih (by simpa [get?, hk] using h))

/-- Where no name occurs twice, the order of the entries does not matter. -/
theorem get?_eq_of_perm {d e : Dict α} (hnodup : d.keys.Nodup) (h : d.Perm e) (k : String) :
    get? d k = get? e k := by
  have hnodup' : e.keys.Nodup := (h.map Prod.fst).nodup_iff.1 hnodup
  cases hget : get? d k with
  | some v => exact (get?_of_mem hnodup' (h.mem_iff.1 (mem_of_get? hget))).symm
  | none =>
    have hk : k ∉ e.keys := fun hmem =>
      get?_eq_none_iff.1 hget ((h.map Prod.fst).mem_iff.2 hmem)
    exact (get?_eq_none_iff.2 hk).symm

theorem get?_reverse {d : Dict α} (hnodup : d.keys.Nodup) (k : String) :
    get? d.reverse k = get? d k :=
  (get?_eq_of_perm hnodup (List.reverse_perm d).symm k).symm

@[simp] theorem keys_mapValues {β : Type v} (f : α → β) (d : Dict α) :
    keys (d.mapValues f) = d.keys := by
  simp [keys, mapValues, Function.comp_def]

theorem get?_mapValues {β : Type v} (f : α → β) (d : Dict α) (k : String) :
    get? (d.mapValues f) k = (get? d k).map f := by
  induction d with
  | nil => rfl
  | cons e d ih =>
    rcases e with ⟨k', w⟩
    by_cases hk : k' = k
    · simp [get?, mapValues, hk]
    · simpa [get?, mapValues, hk] using ih

/-! ## Putting values under names -/

theorem keys_insert (d : Dict α) (k : String) (v : α) :
    (insert d k v).keys = if k ∈ d.keys then d.keys else d.keys ++ [k] := by
  induction d with
  | nil => simp [insert, keys]
  | cons e d ih =>
    rcases e with ⟨k', v'⟩
    by_cases hk : k' = k
    · simp [insert, keys, hk]
    · have hk' : k ≠ k' := Ne.symm hk
      have hstep : (insert ((k', v') :: d) k v).keys = k' :: (insert d k v).keys := by
        simp [insert, keys, hk]
      have hkeys : keys ((k', v') :: d) = k' :: keys d := rfl
      rw [hstep, ih, hkeys]
      by_cases hmem : k ∈ keys d <;> simp [hmem, hk']

theorem nodup_keys_insert {d : Dict α} (k : String) (v : α) :
    d.keys.Nodup → (insert d k v).keys.Nodup := by
  intro hnodup
  rw [keys_insert]
  by_cases hmem : k ∈ d.keys
  · simpa [hmem] using hnodup
  · simp only [hmem, if_false]
    refine List.nodup_append.2 ⟨hnodup, by simp, ?_⟩
    intro a ha b hb hab
    rw [List.mem_singleton.1 hb] at hab
    exact hmem (hab ▸ ha)

/-- Of several values put under a name, the last one is found. -/
theorem get?_foldl_insert (entries : List (String × α)) (d : Dict α) (k : String) :
    get? (entries.foldl (fun d (k, v) => insert d k v) d) k =
      (get? entries.reverse k).or (get? d k) := by
  induction entries generalizing d with
  | nil => simp [get?]
  | cons e entries ih =>
    rcases e with ⟨k', v⟩
    -- Behind this entry all others are looked up first.
    have hlast : get? [(k', v)] k = if k' = k then some v else none := by simp [get?]
    rw [List.foldl_cons, ih, List.reverse_cons, get?_append, hlast, Option.or_assoc]
    by_cases hk : k' = k
    · subst hk
      simp
    · simp [hk, get?_insert_of_ne d v hk]

theorem get?_ofEntries (entries : List (String × α)) (k : String) :
    get? (ofEntries entries) k = get? entries.reverse k := by
  rw [ofEntries, get?_foldl_insert]
  simp [get?]

/-- Of two lists of entries, the second one decides. -/
theorem get?_ofEntries_append (front back : Dict α) (k : String) :
    get? (ofEntries (front ++ back)) k = (get? back.reverse k).or (get? front.reverse k) := by
  rw [get?_ofEntries, List.reverse_append, get?_append]

theorem nodup_keys_foldl_insert (entries : List (String × α)) {d : Dict α} (hd : d.keys.Nodup) :
    (entries.foldl (fun d (k, v) => insert d k v) d).keys.Nodup := by
  induction entries generalizing d with
  | nil => exact hd
  | cons e entries ih => exact ih (nodup_keys_insert e.1 e.2 hd)

theorem nodup_keys_ofEntries (entries : List (String × α)) : (ofEntries entries).keys.Nodup :=
  nodup_keys_foldl_insert entries (by simp [keys])

/-- In a dictionary of computed values the names lead to what was computed from their values. -/
theorem get?_ofEntries_mapValues {β : Type v} (f : α → β) (entries : Dict α) (k : String) :
    get? (ofEntries (mapValues f (ofEntries entries))) k = (get? (ofEntries entries) k).map f := by
  have hnodup : (mapValues f (ofEntries entries)).keys.Nodup := by
    rw [keys_mapValues]
    exact nodup_keys_ofEntries entries
  rw [get?_ofEntries, get?_reverse hnodup, get?_mapValues]

end Dict
end StaticBlog
