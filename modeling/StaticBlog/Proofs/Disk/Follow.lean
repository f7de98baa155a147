import StaticBlog.Disk.Access

/-!
# Following a path

- `Disk.follow_name_directory`, `Disk.follow_name_link`, … : what the first component of a path does
- `Disk.follow_induction` : induction along a path and the links on it
- `Disk.Leads` : the ways on which a path leads somewhere, `Disk.follow_eq_ok_iff`
- `Disk.Leads.append_iff` : a path behind a path to a directory is followed from there
- `Disk.Leads.exists_of_append` : a path that leads anywhere leads through directories
-/

namespace StaticBlog

/-- Whether an entry is a file. -/
def Entry.isFile : Entry → Bool
  | .file _ _ => true
  | _ => false

namespace Disk

variable {d : Disk} {ahead : Bool} {links : Nat} {l : Place} {n : String}
  {rest : List Path.Component}

/-! ## The first component -/

@[simp] theorem follow_nil : d.follow ahead links l [] = .ok (.entry l .directory) := by
  cases links <;> rfl

@[simp] theorem follow_root :
    d.follow ahead links l (.root :: rest) = d.follow ahead links [] rest := by
  cases links <;> rfl

@[simp] theorem follow_here :
    d.follow ahead links l (.here :: rest) = d.follow ahead links l rest := by
  cases links <;> rfl

@[simp] theorem follow_up :
    d.follow ahead links l (.up :: rest) = d.follow ahead links l.dropLast rest := by
  cases links <;> rfl

theorem follow_name_long (hlong : nameLimit < n.utf8ByteSize) :
    d.follow ahead links l (.name n :: rest) = .error .longName := by
  cases links <;> exact if_pos hlong

theorem follow_name_none (hshort : ¬ nameLimit < n.utf8ByteSize) (hget : d.get? (l ++ [n]) = none) :
    d.follow ahead links l (.name n :: rest) =
      if rest = [] then .ok (.missing (l ++ [n])) else .error .notFound := by
  cases links <;> exact (if_neg hshort).trans (by rw [hget])

theorem follow_name_directory (hshort : ¬ nameLimit < n.utf8ByteSize)
    (hget : d.get? (l ++ [n]) = some .directory) :
    d.follow ahead links l (.name n :: rest) = d.follow ahead links (l ++ [n]) rest := by
  cases links <;> exact (if_neg hshort).trans (by rw [hget]; rfl)

theorem follow_name_file (hshort : ¬ nameLimit < n.utf8ByteSize) {content : Content} {modified : Int}
    (hget : d.get? (l ++ [n]) = some (.file content modified)) :
    d.follow ahead links l (.name n :: rest) =
      if rest = [] then .ok (.entry (l ++ [n]) (.file content modified))
      else .error .notADirectory := by
  cases links <;> exact (if_neg hshort).trans (by rw [hget])

theorem follow_name_unfollowed (hshort : ¬ nameLimit < n.utf8ByteSize) {target : String}
    (hget : d.get? (l ++ [n]) = some (.link target)) :
    d.follow false links l [.name n] = .ok (.entry (l ++ [n]) (.link target)) := by
  cases links <;> exact (if_neg hshort).trans (by rw [hget]; rfl)

/-- A link that is followed is not at the end of a path on which that one is left alone. -/
theorem not_last_of_followed (hon : rest ≠ [] ∨ ahead = true) : ¬ (rest = [] ∧ (!ahead) = true) := by
  rcases hon with hrest | hahead
  · exact fun h => hrest h.1
  · simp [hahead]

theorem follow_name_manyLinks (hshort : ¬ nameLimit < n.utf8ByteSize) {target : String}
    (hget : d.get? (l ++ [n]) = some (.link target)) (hon : rest ≠ [] ∨ ahead = true) :
    d.follow ahead 0 l (.name n :: rest) = .error .manyLinks := by
  exact (if_neg hshort).trans (by rw [hget]; exact if_neg (not_last_of_followed hon))

theorem follow_name_link (hshort : ¬ nameLimit < n.utf8ByteSize) {target : String}
    (hget : d.get? (l ++ [n]) = some (.link target)) (hon : rest ≠ [] ∨ ahead = true) :
    d.follow ahead (links + 1) l (.name n :: rest) =
      d.follow ahead links l (Path.componentsOf target.toList ++ rest) := by
  exact (if_neg hshort).trans (by rw [hget]; exact if_neg (not_last_of_followed hon))

/-! ## Induction -/

/-- Induction along a path and the links on it: each step is a component, and it ends the way or goes
on from another place. -/
@[elab_as_elim]
theorem follow_induction (d : Disk) (ahead : Bool)
    {motive : Nat → Place → List Path.Component → Prop}
    (nil : ∀ links l, motive links l [])
    (root : ∀ links l rest, motive links [] rest → motive links l (.root :: rest))
    (here : ∀ links l rest, motive links l rest → motive links l (.here :: rest))
    (up : ∀ links l rest, motive links l.dropLast rest → motive links l (.up :: rest))
    (long : ∀ links l n rest, nameLimit < n.utf8ByteSize → motive links l (.name n :: rest))
    (none : ∀ links l n rest, ¬ nameLimit < n.utf8ByteSize → d.get? (l ++ [n]) = none →
      motive links l (.name n :: rest))
    (directory : ∀ links l n rest, ¬ nameLimit < n.utf8ByteSize →
      d.get? (l ++ [n]) = some .directory → motive links (l ++ [n]) rest →
        motive links l (.name n :: rest))
    (file : ∀ links l n rest content modified, ¬ nameLimit < n.utf8ByteSize →
      d.get? (l ++ [n]) = some (.file content modified) → motive links l (.name n :: rest))
    (unfollowed : ∀ links l n target, ¬ nameLimit < n.utf8ByteSize →
      d.get? (l ++ [n]) = some (.link target) → ahead = false → motive links l [.name n])
    (manyLinks : ∀ l n rest target, ¬ nameLimit < n.utf8ByteSize →
      d.get? (l ++ [n]) = some (.link target) → (rest ≠ [] ∨ ahead = true) →
        motive 0 l (.name n :: rest))
    (link : ∀ links l n rest target, ¬ nameLimit < n.utf8ByteSize →
      d.get? (l ++ [n]) = some (.link target) → (rest ≠ [] ∨ ahead = true) →
        motive links l (Path.componentsOf target.toList ++ rest) →
          motive (links + 1) l (.name n :: rest)) :
    ∀ links l path, motive links l path := by
  -- Between two links the path itself gets shorter.
  have pass : ∀ links, (∀ l n rest target, ¬ nameLimit < n.utf8ByteSize →
      d.get? (l ++ [n]) = some (.link target) → (rest ≠ [] ∨ ahead = true) →
        motive links l (.name n :: rest)) → ∀ path l, motive links l path := by
    intro links onLink path
    induction path with
    | nil => exact fun l => nil links l
    | cons c rest ih =>
      intro l
      cases c with
      | root => exact root links l rest (ih [])
      | here => exact here links l rest (ih l)
      | up => exact up links l rest (ih l.dropLast)
      | name n =>
        by_cases hlong : nameLimit < n.utf8ByteSize
        · exact long links l n rest hlong
        · cases hget : d.get? (l ++ [n]) with
          | none => exact none links l n rest hlong hget
          | some x =>
            cases x with
            | file content modified => exact file links l n rest content modified hlong hget
            | directory => exact directory links l n rest hlong hget (ih (l ++ [n]))
            | link target =>
              by_cases hon : rest ≠ [] ∨ ahead = true
              · exact onLink l n rest target hlong hget hon
              · simp only [not_or, ne_eq, Classical.not_not, Bool.not_eq_true] at hon
                rcases hon with ⟨rfl, hahead⟩
                exact unfollowed links l n target hlong hget hahead
  intro links
  induction links with
  | zero => exact fun l path => pass 0 manyLinks path l
  | succ links ihLinks =>
    refine fun l path => pass (links + 1) ?_ path l
    intro l n rest target hshort hget hon
    exact link links l n rest target hshort hget hon (ihLinks l _)

/-! ## Ways -/

/-- A path leads from a directory to what is found, with as many links as may be followed. `ahead`
says whether a link at the end of the path is. -/
inductive Leads (d : Disk) (ahead : Bool) : (links : Nat) → Place → List Path.Component → Found → Prop
  | done (links : Nat) (l : Place) : Leads d ahead links l [] (.entry l .directory)
  | root {links : Nat} {l : Place} {rest : List Path.Component} {found : Found} :
      Leads d ahead links [] rest found → Leads d ahead links l (.root :: rest) found
  | here {links : Nat} {l : Place} {rest : List Path.Component} {found : Found} :
      Leads d ahead links l rest found → Leads d ahead links l (.here :: rest) found
  | up {links : Nat} {l : Place} {rest : List Path.Component} {found : Found} :
      Leads d ahead links l.dropLast rest found → Leads d ahead links l (.up :: rest) found
  | missing {links : Nat} {l : Place} {n : String} : ¬ nameLimit < n.utf8ByteSize →
      d.get? (l ++ [n]) = none → Leads d ahead links l [.name n] (.missing (l ++ [n]))
  | file {links : Nat} {l : Place} {n : String} {content : Content} {modified : Int} :
      ¬ nameLimit < n.utf8ByteSize → d.get? (l ++ [n]) = some (.file content modified) →
        Leads d ahead links l [.name n] (.entry (l ++ [n]) (.file content modified))
  | directory {links : Nat} {l : Place} {n : String} {rest : List Path.Component} {found : Found} :
      ¬ nameLimit < n.utf8ByteSize → d.get? (l ++ [n]) = some .directory →
        Leads d ahead links (l ++ [n]) rest found → Leads d ahead links l (.name n :: rest) found
  | unfollowed {links : Nat} {l : Place} {n target : String} : ahead = false →
      ¬ nameLimit < n.utf8ByteSize → d.get? (l ++ [n]) = some (.link target) →
        Leads d ahead links l [.name n] (.entry (l ++ [n]) (.link target))
  | link {links : Nat} {l : Place} {n target : String} {rest : List Path.Component}
      {found : Found} : (rest ≠ [] ∨ ahead = true) → ¬ nameLimit < n.utf8ByteSize →
        d.get? (l ++ [n]) = some (.link target) →
        Leads d ahead links l (Path.componentsOf target.toList ++ rest) found →
          Leads d ahead (links + 1) l (.name n :: rest) found

variable {found : Found} {m : Place} {path : List Path.Component}

theorem Leads.follow_eq (h : Leads d ahead links l path found) :
    d.follow ahead links l path = .ok found := by
  induction h with
  | done links l => exact follow_nil
  | root _ ih => rwa [follow_root]
  | here _ ih => rwa [follow_here]
  | up _ ih => rwa [follow_up]
  | missing hshort hget => rw [follow_name_none hshort hget, if_pos rfl]
  | file hshort hget => rw [follow_name_file hshort hget, if_pos rfl]
  | directory hshort hget _ ih => rwa [follow_name_directory hshort hget]
  | unfollowed hahead hshort hget =>
    subst hahead
    exact follow_name_unfollowed hshort hget
  | link hon hshort hget _ ih => rwa [follow_name_link hshort hget hon]

/-- Following a path finds what the path leads to. -/
theorem follow_eq_ok_iff : d.follow ahead links l path = .ok found ↔
    Leads d ahead links l path found := by
  refine ⟨fun h => ?_, Leads.follow_eq⟩
  -- Each step is a constructor; where following fails there is no way.
  induction links, l, path using follow_induction d ahead with
  | nil links l =>
    rw [follow_nil] at h
    cases h
    exact .done links l
  | root links l rest ih => exact .root (ih (by rwa [follow_root] at h))
  | here links l rest ih => exact .here (ih (by rwa [follow_here] at h))
  | up links l rest ih => exact .up (ih (by rwa [follow_up] at h))
  | long links l n rest hlong =>
    rw [follow_name_long hlong] at h
    cases h
  | none links l n rest hshort hget =>
    rw [follow_name_none hshort hget] at h
    split at h
    · next hrest =>
      cases h
      exact hrest ▸ .missing hshort hget
    · cases h
  | directory links l n rest hshort hget ih =>
    rw [follow_name_directory hshort hget] at h
    exact .directory hshort hget (ih h)
  | file links l n rest content modified hshort hget =>
    rw [follow_name_file hshort hget] at h
    split at h
    · next hrest =>
      cases h
      exact hrest ▸ .file hshort hget
    · cases h
  | unfollowed links l n target hshort hget hahead =>
    subst hahead
    rw [follow_name_unfollowed hshort hget] at h
    cases h
    exact .unfollowed rfl hshort hget
  | manyLinks l n rest target hshort hget hon =>
    rw [follow_name_manyLinks hshort hget hon] at h
    cases h
  | link links l n rest target hshort hget hon ih =>
    rw [follow_name_link hshort hget hon] at h
    exact .link hon hshort hget (ih h)

namespace Leads

theorem unique {found' : Found} (h : Leads d ahead links l path found)
    (h' : Leads d ahead links l path found') : found = found' :=
  Except.ok.inj (h.follow_eq.symm.trans h'.follow_eq)

/-- A path whose links are all followed leads to no link. -/
theorem ne_link (h : Leads d true links l path found) : ∀ k t, found ≠ .entry k (.link t) := by
  induction h with
  | done links l => simp
  | root _ ih | here _ ih | up _ ih => exact ih
  | missing _ _ => simp
  | file _ _ => simp
  | directory _ _ _ ih => exact ih
  | unfollowed hahead _ _ => cases hahead
  | link _ _ _ _ ih => exact ih

/-- A path that leads to a directory leads there if a link at its end is followed. -/
theorem followed (h : Leads d ahead links l path found) (hm : found = .entry m .directory) :
    Leads d true links l path found := by
  induction h with
  | done links l => exact .done links l
  | root _ ih => exact .root (ih hm)
  | here _ ih => exact .here (ih hm)
  | up _ ih => exact .up (ih hm)
  | missing _ _ => cases hm
  | file _ _ => cases hm
  | directory hshort hget _ ih => exact .directory hshort hget (ih hm)
  | unfollowed _ _ _ => cases hm
  | link _ hshort hget _ ih => exact .link (Or.inr rfl) hshort hget (ih hm)

/-- A path that leads to a directory leads there, or to a link, if a link at its end is not
followed. -/
theorem exists_unfollowed (h : Leads d ahead links l path found) (hm : found = .entry m .directory) :
    ∃ k x, Leads d false links l path (.entry k x) ∧ x.isFile = false := by
  induction h with
  | done links l => exact ⟨l, .directory, .done links l, rfl⟩
  | root _ ih =>
    rcases ih hm with ⟨k, x, hx, hfile⟩
    exact ⟨k, x, .root hx, hfile⟩
  | here _ ih =>
    rcases ih hm with ⟨k, x, hx, hfile⟩
    exact ⟨k, x, .here hx, hfile⟩
  | up _ ih =>
    rcases ih hm with ⟨k, x, hx, hfile⟩
    exact ⟨k, x, .up hx, hfile⟩
  | missing _ _ => cases hm
  | file _ _ => cases hm
  | directory hshort hget _ ih =>
    rcases ih hm with ⟨k, x, hx, hfile⟩
    exact ⟨k, x, .directory hshort hget hx, hfile⟩
  | unfollowed _ _ _ => cases hm
  | @link links l n target rest found _ hshort hget _ ih =>
    -- A link at the end is where the way ends now; any other one is followed as before.
    by_cases hrest : rest = []
    · subst hrest
      exact ⟨l ++ [n], .link target, .unfollowed rfl hshort hget, rfl⟩
    · rcases ih hm with ⟨k, x, hx, hfile⟩
      exact ⟨k, x, .link (Or.inl hrest) hshort hget hx, hfile⟩

/-- Behind a path to a directory, the rest of a path is followed from there, with as many links as
are left. -/
theorem follow_append (h : Leads d true links l path found) (hm : found = .entry m .directory) :
    ∃ left ≤ links, ∀ ahead rest, rest ≠ [] →
      d.follow ahead links l (path ++ rest) = d.follow ahead left m rest := by
  induction h with
  | done links l =>
    cases hm
    exact ⟨links, Nat.le_refl links, fun ahead rest _ => rfl⟩
  | root _ ih => simpa using ih hm
  | here _ ih => simpa using ih hm
  | up _ ih => simpa using ih hm
  | missing _ _ => cases hm
  | file _ _ => cases hm
  | directory hshort hget _ ih =>
    rcases ih hm with ⟨left, hle, hleft⟩
    refine ⟨left, hle, fun ahead more hmore => ?_⟩
    rw [List.cons_append, follow_name_directory hshort hget]
    exact hleft ahead more hmore
  | unfollowed hahead _ _ => cases hahead
  | @link links l n target rest found _ hshort hget _ ih =>
    rcases ih hm with ⟨left, hle, hleft⟩
    refine ⟨left, Nat.le_succ_of_le hle, fun ahead more hmore => ?_⟩
    -- With more behind it, the link is followed in either case.
    have hon : rest ++ more ≠ [] ∨ ahead = true := Or.inl (by simp [hmore])
    rw [List.cons_append, follow_name_link hshort hget hon, ← List.append_assoc]
    exact hleft ahead more hmore

theorem append_iff (h : Leads d true links l path found) (hm : found = .entry m .directory) :
    ∃ left, ∀ ahead rest found', rest ≠ [] →
      (Leads d ahead links l (path ++ rest) found' ↔ Leads d ahead left m rest found') := by
  rcases h.follow_append hm with ⟨left, -, hleft⟩
  refine ⟨left, fun ahead rest found' hrest => ?_⟩
  rw [← follow_eq_ok_iff, ← follow_eq_ok_iff, hleft ahead rest hrest]

/-- A path that leads anywhere leads through directories. -/
theorem exists_of_append {more : List Path.Component} (hmore : more ≠ []) :
    Leads d ahead links l (path ++ more) found →
      ∃ m, Leads d true links l path (.entry m .directory) := by
  intro h
  rw [← follow_eq_ok_iff] at h
  -- On the path itself, since what follows may end it in many ways.
  induction links, l, path using follow_induction d true with
  | nil links l => exact ⟨l, .done links l⟩
  | root links l rest ih => exact (ih (by simpa using h)).imp fun _ => .root
  | here links l rest ih => exact (ih (by simpa using h)).imp fun _ => .here
  | up links l rest ih => exact (ih (by simpa using h)).imp fun _ => .up
  | long links l n rest hlong =>
    rw [List.cons_append, follow_name_long hlong] at h
    cases h
  | none links l n rest hshort hget =>
    rw [List.cons_append, follow_name_none hshort hget, if_neg (by simp [hmore])] at h
    cases h
  | directory links l n rest hshort hget ih =>
    rw [List.cons_append, follow_name_directory hshort hget] at h
    exact (ih h).imp fun _ => .directory hshort hget
  | file links l n rest content modified hshort hget =>
    rw [List.cons_append, follow_name_file hshort hget, if_neg (by simp [hmore])] at h
    cases h
  | unfollowed links l n target hshort hget hahead => cases hahead
  | manyLinks l n rest target hshort hget hon =>
    rw [List.cons_append, follow_name_manyLinks hshort hget (Or.inl (by simp [hmore]))] at h
    cases h
  | link links l n rest target hshort hget hon ih =>
    rw [List.cons_append, follow_name_link hshort hget (Or.inl (by simp [hmore])),
      ← List.append_assoc] at h
    exact (ih h).imp fun _ => .link hon hshort hget

end Leads
end Disk
end StaticBlog
