import StaticBlog.Proofs.Disk.Follow

/-!
# Places on the way to a path

- `Disk.trailFrom`, `Disk.trail` : the places that are looked up while a path is followed
- `Disk.LooksUp` : a place is looked up on the way, `Disk.mem_trailFrom_iff`
- `Disk.trailFrom_subset_append`, `Disk.Leads.mem_trailFrom` : what is looked up
- `Disk.follow_congr` : disks that agree on these places lead a path to the same entry
- `Disk.Shrinks` : a disk that has lost entries
- `Disk.Shrinks.leads_iff` : a path still leads to its entry exactly if none of these places
  is lost
-/

namespace StaticBlog
namespace Disk

/-! ## Trails -/

/-- The places that are looked up up to the first link that is followed. `jump` goes on behind it. -/
def trailWith (d : Disk) (ahead : Bool) (jump : Place → List Path.Component → List Place) :
    Place → List Path.Component → List Place
  | _, [] => []
  | _, .root :: rest => trailWith d ahead jump [] rest
  | l, .here :: rest => trailWith d ahead jump l rest
  | l, .up :: rest => trailWith d ahead jump l.dropLast rest
  | l, .name n :: rest =>
    if nameLimit < n.utf8ByteSize then []
    else (l ++ [n]) :: match d.get? (l ++ [n]) with
      | some .directory => trailWith d ahead jump (l ++ [n]) rest
      | some (.link target) =>
        if rest = [] ∧ !ahead then [] else jump l (Path.componentsOf target.toList ++ rest)
      | _ => []

/-- The places that are looked up while the components of a path are followed. -/
def trailFrom (d : Disk) (ahead : Bool) : (links : Nat) → Place → List Path.Component → List Place
  | 0 => trailWith d ahead fun _ _ => []
  | links + 1 => trailWith d ahead (trailFrom d ahead links)

/-- The places that are looked up on the way to what a path leads to, links followed. -/
def trail (d : Disk) (p : Path) : List Place := d.trailFrom true linkLimit d.cwd p.components

variable {d e : Disk} {ahead : Bool} {links : Nat} {l m : Place} {n : String} {found : Found}
  {path rest : List Path.Component}

@[simp] theorem trailFrom_nil : d.trailFrom ahead links l [] = [] := by
  cases links <;> rfl

@[simp] theorem trailFrom_root :
    d.trailFrom ahead links l (.root :: rest) = d.trailFrom ahead links [] rest := by
  cases links <;> rfl

@[simp] theorem trailFrom_here :
    d.trailFrom ahead links l (.here :: rest) = d.trailFrom ahead links l rest := by
  cases links <;> rfl

@[simp] theorem trailFrom_up :
    d.trailFrom ahead links l (.up :: rest) = d.trailFrom ahead links l.dropLast rest := by
  cases links <;> rfl

theorem trailFrom_name_long (hlong : nameLimit < n.utf8ByteSize) :
    d.trailFrom ahead links l (.name n :: rest) = [] := by
  cases links <;> exact if_pos hlong

theorem trailFrom_name_none (hshort : ¬ nameLimit < n.utf8ByteSize)
    (hget : d.get? (l ++ [n]) = none) :
    d.trailFrom ahead links l (.name n :: rest) = [l ++ [n]] := by
  cases links <;> exact (if_neg hshort).trans (by rw [hget])

theorem trailFrom_name_directory (hshort : ¬ nameLimit < n.utf8ByteSize)
    (hget : d.get? (l ++ [n]) = some .directory) :
    d.trailFrom ahead links l (.name n :: rest) =
      (l ++ [n]) :: d.trailFrom ahead links (l ++ [n]) rest := by
  cases links <;> exact (if_neg hshort).trans (by rw [hget]; rfl)

theorem trailFrom_name_file (hshort : ¬ nameLimit < n.utf8ByteSize) {content : Content}
    {modified : Int} (hget : d.get? (l ++ [n]) = some (.file content modified)) :
    d.trailFrom ahead links l (.name n :: rest) = [l ++ [n]] := by
  cases links <;> exact (if_neg hshort).trans (by rw [hget])

theorem trailFrom_name_unfollowed (hshort : ¬ nameLimit < n.utf8ByteSize) {target : String}
    (hget : d.get? (l ++ [n]) = some (.link target)) :
    d.trailFrom false links l [.name n] = [l ++ [n]] := by
  cases links <;> exact (if_neg hshort).trans (by rw [hget]; rfl)

theorem trailFrom_name_manyLinks (hshort : ¬ nameLimit < n.utf8ByteSize) {target : String}
    (hget : d.get? (l ++ [n]) = some (.link target)) :
    d.trailFrom ahead 0 l (.name n :: rest) = [l ++ [n]] := by
  exact (if_neg hshort).trans (by rw [hget]; exact congrArg ((l ++ [n]) :: ·) (ite_self []))

theorem trailFrom_name_link (hshort : ¬ nameLimit < n.utf8ByteSize) {target : String}
    (hget : d.get? (l ++ [n]) = some (.link target)) (hon : rest ≠ [] ∨ ahead = true) :
    d.trailFrom ahead (links + 1) l (.name n :: rest) =
      (l ++ [n]) :: d.trailFrom ahead links l (Path.componentsOf target.toList ++ rest) := by
  have hnot := not_last_of_followed hon
  exact (if_neg hshort).trans (by rw [hget]; exact congrArg ((l ++ [n]) :: ·) (if_neg hnot))

/-- A name in front is looked up first. -/
theorem mem_trailFrom_name (hshort : ¬ nameLimit < n.utf8ByteSize) :
    l ++ [n] ∈ d.trailFrom ahead links l (.name n :: rest) := by
  obtain ⟨more, hmore⟩ : ∃ more, d.trailFrom ahead links l (.name n :: rest) = (l ++ [n]) :: more := by
    cases links <;> exact ⟨_, if_neg hshort⟩
  rw [hmore]
  exact List.mem_cons_self

/-- A place is looked up while the components of a path are followed. -/
inductive LooksUp (d : Disk) (ahead : Bool) :
    (links : Nat) → Place → List Path.Component → Place → Prop
  | root {links : Nat} {l k : Place} {rest : List Path.Component} :
      LooksUp d ahead links [] rest k → LooksUp d ahead links l (.root :: rest) k
  | here {links : Nat} {l k : Place} {rest : List Path.Component} :
      LooksUp d ahead links l rest k → LooksUp d ahead links l (.here :: rest) k
  | up {links : Nat} {l k : Place} {rest : List Path.Component} :
      LooksUp d ahead links l.dropLast rest k → LooksUp d ahead links l (.up :: rest) k
  | name {links : Nat} {l : Place} {n : String} {rest : List Path.Component} :
      ¬ nameLimit < n.utf8ByteSize → LooksUp d ahead links l (.name n :: rest) (l ++ [n])
  | directory {links : Nat} {l k : Place} {n : String} {rest : List Path.Component} :
      ¬ nameLimit < n.utf8ByteSize → d.get? (l ++ [n]) = some .directory →
        LooksUp d ahead links (l ++ [n]) rest k → LooksUp d ahead links l (.name n :: rest) k
  | link {links : Nat} {l k : Place} {n target : String} {rest : List Path.Component} :
      (rest ≠ [] ∨ ahead = true) → ¬ nameLimit < n.utf8ByteSize →
        d.get? (l ++ [n]) = some (.link target) →
        LooksUp d ahead links l (Path.componentsOf target.toList ++ rest) k →
          LooksUp d ahead (links + 1) l (.name n :: rest) k

theorem LooksUp.mem {k : Place} (h : LooksUp d ahead links l path k) :
    k ∈ d.trailFrom ahead links l path := by
  induction h with
  | root _ ih => simpa using ih
  | here _ ih => simpa using ih
  | up _ ih => simpa using ih
  | name hshort => exact mem_trailFrom_name hshort
  | directory hshort hget _ ih =>
    rw [trailFrom_name_directory hshort hget]
    exact List.mem_cons_of_mem _ ih
  | link hon hshort hget _ ih =>
    rw [trailFrom_name_link hshort hget hon]
    exact List.mem_cons_of_mem _ ih

/-- The places on the way are those that are looked up. -/
theorem mem_trailFrom_iff {k : Place} :
    k ∈ d.trailFrom ahead links l path ↔ LooksUp d ahead links l path k := by
  refine ⟨fun hk => ?_, LooksUp.mem⟩
  -- Only the steps to a name look up a place; behind a directory or a link the walk goes on.
  induction links, l, path using follow_induction d ahead with
  | nil links l => simp at hk
  | root links l rest ih => exact .root (ih (by simpa using hk))
  | here links l rest ih => exact .here (ih (by simpa using hk))
  | up links l rest ih => exact .up (ih (by simpa using hk))
  | long links l n rest hlong => simp [trailFrom_name_long hlong] at hk
  | none links l n rest hshort hget =>
    rw [trailFrom_name_none hshort hget] at hk
    exact List.mem_singleton.1 hk ▸ .name hshort
  | directory links l n rest hshort hget ih =>
    rw [trailFrom_name_directory hshort hget] at hk
    rcases List.mem_cons.1 hk with rfl | hk
    · exact .name hshort
    · exact .directory hshort hget (ih hk)
  | file links l n rest content modified hshort hget =>
    rw [trailFrom_name_file hshort hget] at hk
    exact List.mem_singleton.1 hk ▸ .name hshort
  | unfollowed links l n target hshort hget hahead =>
    subst hahead
    rw [trailFrom_name_unfollowed hshort hget] at hk
    exact List.mem_singleton.1 hk ▸ .name hshort
  | manyLinks l n rest target hshort hget _ =>
    rw [trailFrom_name_manyLinks hshort hget] at hk
    exact List.mem_singleton.1 hk ▸ .name hshort
  | link links l n rest target hshort hget hon ih =>
    rw [trailFrom_name_link hshort hget hon] at hk
    rcases List.mem_cons.1 hk with rfl | hk
    · exact .name hshort
    · exact .link hon hshort hget (ih hk)

/-- The root is not looked up. -/
theorem LooksUp.ne_nil {k : Place} (h : LooksUp d ahead links l path k) : k ≠ [] := by
  induction h with
  | name _ => simp
  | root _ ih | here _ ih | up _ ih | directory _ _ _ ih | link _ _ _ _ ih => exact ih

theorem ne_nil_of_mem_trailFrom {k : Place} :
    k ∈ d.trailFrom ahead links l path → k ≠ [] := fun hk => (mem_trailFrom_iff.1 hk).ne_nil

/-- What is looked up behind a path to a directory is looked up from there. -/
theorem Leads.trailFrom_append (h : Leads d true links l path found)
    (hm : found = .entry m .directory) :
    ∃ left, ∀ ahead more, more ≠ [] → d.trailFrom ahead links l (path ++ more) =
      d.trailFrom true links l path ++ d.trailFrom ahead left m more := by
  induction h with
  | done links l =>
    cases hm
    exact ⟨links, fun ahead more _ => by simp⟩
  | root _ ih => simpa using ih hm
  | here _ ih => simpa using ih hm
  | up _ ih => simpa using ih hm
  | missing _ _ => cases hm
  | file _ _ => cases hm
  | directory hshort hget _ ih =>
    rcases ih hm with ⟨left, hleft⟩
    refine ⟨left, fun ahead more hmore => ?_⟩
    rw [List.cons_append, trailFrom_name_directory hshort hget, trailFrom_name_directory hshort hget,
      hleft ahead more hmore, List.cons_append]
  | unfollowed hahead _ _ => cases hahead
  | @link links l n target rest found hon hshort hget _ ih =>
    rcases ih hm with ⟨left, hleft⟩
    refine ⟨left, fun ahead more hmore => ?_⟩
    -- With more behind it a link is followed in any case.
    have hon' : rest ++ more ≠ [] ∨ ahead = true := Or.inl (by simp [hmore])
    rw [List.cons_append, trailFrom_name_link hshort hget hon', trailFrom_name_link hshort hget hon,
      ← List.append_assoc, hleft ahead more hmore, List.cons_append]

/-- A link at the end of a path that is not followed ends the way earlier. -/
theorem LooksUp.followed {k : Place} (h : LooksUp d ahead links l path k) :
    LooksUp d true links l path k := by
  induction h with
  | root _ ih => exact .root ih
  | here _ ih => exact .here ih
  | up _ ih => exact .up ih
  | name hshort => exact .name hshort
  | directory hshort hget _ ih => exact .directory hshort hget ih
  | link _ hshort hget _ ih => exact .link (Or.inr rfl) hshort hget ih

theorem trailFrom_subset_followed :
    d.trailFrom ahead links l path ⊆ d.trailFrom true links l path :=
  fun _ hk => (mem_trailFrom_iff.1 hk).followed.mem

/-- What is looked up on a path is looked up on the path with more behind it. -/
theorem LooksUp.append {k : Place} (h : LooksUp d true links l path k)
    (more : List Path.Component) : LooksUp d true links l (path ++ more) k := by
  induction h with
  | root _ ih => exact .root ih
  | here _ ih => exact .here ih
  | up _ ih => exact .up ih
  | name hshort => exact .name hshort
  | directory hshort hget _ ih => exact .directory hshort hget ih
  | link _ hshort hget _ ih =>
    rw [List.append_assoc] at ih
    exact .link (Or.inr rfl) hshort hget ih

theorem trailFrom_subset_append (more : List Path.Component) :
    d.trailFrom true links l path ⊆ d.trailFrom true links l (path ++ more) :=
  fun _ hk => ((mem_trailFrom_iff.1 hk).append more).mem

/-- Where a way ends at a file, or at nothing, that place is looked up. -/
theorem Leads.looksUp (h : Leads d ahead links l path found)
    (hm : found = .missing m ∨ ∃ content modified, found = .entry m (.file content modified)) :
    LooksUp d ahead links l path m := by
  induction h with
  | done links l => simp at hm
  | root _ ih => exact .root (ih hm)
  | here _ ih => exact .here (ih hm)
  | up _ ih => exact .up (ih hm)
  | @missing links l n hshort hget =>
    have heq : l ++ [n] = m := by simpa using hm
    exact heq ▸ .name hshort
  | file hshort hget =>
    rcases hm with hm | ⟨content, modified, hm⟩
    · cases hm
    · cases hm
      exact .name hshort
  | directory hshort hget _ ih => exact .directory hshort hget (ih hm)
  | unfollowed _ _ _ => simp at hm
  | link hon hshort hget _ ih => exact .link hon hshort hget (ih hm)

theorem Leads.mem_trailFrom (h : Leads d ahead links l path found)
    (hm : found = .missing m ∨ ∃ content modified, found = .entry m (.file content modified)) :
    m ∈ d.trailFrom ahead links l path := (h.looksUp hm).mem

/-- Disks that agree on the places on the way lead a path to the same entry, on the same way. -/
theorem follow_congr :
    (∀ k ∈ d.trailFrom ahead links l path, e.get? k = d.get? k) →
      e.follow ahead links l path = d.follow ahead links l path ∧
        e.trailFrom ahead links l path = d.trailFrom ahead links l path := by
  intro h
  -- Each place is looked up on both disks with the same result, so both go on the same way.
  induction links, l, path using follow_induction d ahead with
  | nil links l => simp
  | root links l rest ih => simpa using ih (by simpa using h)
  | here links l rest ih => simpa using ih (by simpa using h)
  | up links l rest ih => simpa using ih (by simpa using h)
  | long links l n rest hlong => simp [follow_name_long hlong, trailFrom_name_long hlong]
  | none links l n rest hshort hget =>
    rw [trailFrom_name_none hshort hget] at h ⊢
    have hself := (h _ List.mem_cons_self).trans hget
    rw [follow_name_none hshort hget, follow_name_none hshort hself, trailFrom_name_none hshort hself]
    exact ⟨rfl, rfl⟩
  | directory links l n rest hshort hget ih =>
    rw [trailFrom_name_directory hshort hget] at h ⊢
    have hself := (h _ List.mem_cons_self).trans hget
    have hrest := ih fun k hk => h k (List.mem_cons_of_mem _ hk)
    rw [follow_name_directory hshort hget, follow_name_directory hshort hself,
      trailFrom_name_directory hshort hself]
    exact ⟨hrest.1, by rw [hrest.2]⟩
  | file links l n rest content modified hshort hget =>
    rw [trailFrom_name_file hshort hget] at h ⊢
    have hself := (h _ List.mem_cons_self).trans hget
    rw [follow_name_file hshort hget, follow_name_file hshort hself, trailFrom_name_file hshort hself]
    exact ⟨rfl, rfl⟩
  | unfollowed links l n target hshort hget hahead =>
    subst hahead
    rw [trailFrom_name_unfollowed hshort hget] at h ⊢
    have hself := (h _ List.mem_cons_self).trans hget
    rw [follow_name_unfollowed hshort hget, follow_name_unfollowed hshort hself,
      trailFrom_name_unfollowed hshort hself]
    exact ⟨rfl, rfl⟩
  | manyLinks l n rest target hshort hget hon =>
    rw [trailFrom_name_manyLinks hshort hget] at h ⊢
    have hself := (h _ List.mem_cons_self).trans hget
    rw [follow_name_manyLinks hshort hget hon, follow_name_manyLinks hshort hself hon,
      trailFrom_name_manyLinks hshort hself]
    exact ⟨rfl, rfl⟩
  | link links l n rest target hshort hget hon ih =>
    rw [trailFrom_name_link hshort hget hon] at h ⊢
    have hself := (h _ List.mem_cons_self).trans hget
    have hrest := ih fun k hk => h k (List.mem_cons_of_mem _ hk)
    rw [follow_name_link hshort hget hon, follow_name_link hshort hself hon,
      trailFrom_name_link hshort hself hon]
    exact ⟨hrest.1, by rw [hrest.2]⟩

/-- On the way to an entry nothing is missing. -/
theorem Leads.get?_ne_none {x : Entry} (h : Leads d ahead links l path found)
    (hm : found = .entry m x) : ∀ k ∈ d.trailFrom ahead links l path, d.get? k ≠ none := by
  induction h with
  | done links l => simp
  | root _ ih => simpa using ih hm
  | here _ ih => simpa using ih hm
  | up _ ih => simpa using ih hm
  | missing _ _ => cases hm
  | file hshort hget => simp [trailFrom_name_file hshort hget, hget]
  | directory hshort hget _ ih =>
    rw [trailFrom_name_directory hshort hget, List.forall_mem_cons]
    exact ⟨by simp [hget], ih hm⟩
  | unfollowed hahead hshort hget =>
    subst hahead
    simp [trailFrom_name_unfollowed hshort hget, hget]
  | link hon hshort hget _ ih =>
    rw [trailFrom_name_link hshort hget hon, List.forall_mem_cons]
    exact ⟨by simp [hget], ih hm⟩

/-! ## Lost entries -/

/-- A disk that is another one without some of its entries. -/
structure Shrinks (d e : Disk) : Prop where
  cwd : e.cwd = d.cwd
  get? : ∀ k, e.get? k = d.get? k ∨ e.get? k = none

namespace Shrinks

/-- A path leads to an entry as before exactly if no place on the way is lost. -/
theorem leads_iff (h : Shrinks d e) {x : Entry} :
    Leads e ahead links l path (.entry m x) ↔
      Leads d ahead links l path (.entry m x) ∧
        ∀ k ∈ d.trailFrom ahead links l path, e.get? k ≠ none := by
  constructor
  · intro he
    -- Nothing is missing on the way, so nothing there was lost, and the way was there before.
    have hthere := he.get?_ne_none rfl
    have hsame : ∀ k ∈ e.trailFrom ahead links l path, d.get? k = e.get? k := by
      intro k hk
      rcases h.get? k with hkeep | hlost
      · exact hkeep.symm
      · exact absurd hlost (hthere k hk)
    have hcongr := follow_congr hsame
    rw [← follow_eq_ok_iff, hcongr.1, hcongr.2]
    exact ⟨he.follow_eq, hthere⟩
  · rintro ⟨hd, hkept⟩
    have hsame : ∀ k ∈ d.trailFrom ahead links l path, e.get? k = d.get? k := by
      intro k hk
      rcases h.get? k with hkeep | hlost
      · exact hkeep
      · exact absurd hlost (hkept k hk)
    rw [← follow_eq_ok_iff, (follow_congr hsame).1]
    exact hd.follow_eq

end Shrinks

/-! ## Entries of paths -/

/-- Whether a text is a path at all. -/
structure IsUsable (p : Path) : Prop where
  nonempty : p.text ≠ ""
  plain : '\x00' ∉ p.text.toList

/-- Whether a path that ends in a dot may lead here, which asks for a directory. -/
def Found.AllowsDot : Found → Prop
  | .missing _ => False
  | .entry _ x => x.isFile = false

/-- A path leads where following its components leads, unless it ends in a dot at no directory. -/
theorem reach_eq_ok_iff {p : Path} :
    d.reach ahead p = .ok found ↔
      IsUsable p ∧ (p.endsInDot = true → found.AllowsDot) ∧
        d.follow (ahead || p.endsInDot) linkLimit d.cwd p.components = .ok found := by
  by_cases htext : p.text = ""
  -- A text that is no path leads nowhere.
  · have hnot : ¬ IsUsable p := fun h => h.nonempty htext
    simp [reach, htext, hnot]
  by_cases hplain : '\x00' ∈ p.text.toList
  · have hnot : ¬ IsUsable p := fun h => h.plain hplain
    simp [reach, htext, hplain, hnot]
  have hp : IsUsable p := ⟨htext, hplain⟩
  rw [reach, if_neg htext, if_neg (by simpa using hplain)]
  cases d.follow (ahead || p.endsInDot) linkLimit d.cwd p.components with
  | error error => simp
  | ok reached =>
    simp only [hp, true_and, Except.ok.injEq]
    cases reached with
    | missing k =>
      cases p.endsInDot with
      | true =>
        simp only [if_true, reduceCtorEq, forall_const, false_iff]
        rintro ⟨hdot, rfl⟩
        exact hdot
      | false => simp
    | entry k x =>
      cases x with
      | file content modified =>
        cases p.endsInDot with
        | true =>
          simp only [if_true, reduceCtorEq, forall_const, false_iff]
          rintro ⟨hdot, rfl⟩
          cases hdot
        | false => simp
      | directory | link t =>
        simp only [Except.ok.injEq]
        exact ⟨fun h => ⟨fun _ => h ▸ rfl, h⟩, And.right⟩

/-- A path leads where its components lead, unless its end says that it does not mean a file. -/
theorem reach_eq_entry_iff {p : Path} {x : Entry} :
    d.reach ahead p = .ok (.entry m x) ↔
      IsUsable p ∧ (x.isFile = true → p.endsInDot = false) ∧
        Leads d (ahead || p.endsInDot) linkLimit d.cwd p.components (.entry m x) := by
  have hdot : (p.endsInDot = true → x.isFile = false) ↔ (x.isFile = true → p.endsInDot = false) := by
    cases p.endsInDot <;> simp
  rw [reach_eq_ok_iff, follow_eq_ok_iff, ← hdot]
  rfl

/-- A path leads to nothing where its components do, unless it ends in a dot. -/
theorem reach_eq_missing_iff {p : Path} :
    d.reach ahead p = .ok (.missing m) ↔
      IsUsable p ∧ p.endsInDot = false ∧
        Leads d ahead linkLimit d.cwd p.components (.missing m) := by
  rw [reach_eq_ok_iff, follow_eq_ok_iff]
  cases p.endsInDot <;> simp [Found.AllowsDot]

theorem locate_eq_entry_iff {p : Path} {x : Entry} :
    d.locate ahead p = .ok (.entry m x) ↔
      (x.isFile = true → p.endsInSlash = false) ∧
        d.reach (ahead || p.endsInSlash) p = .ok (.entry m x) := by
  rw [locate]
  cases hreach : d.reach (ahead || p.endsInSlash) p with
  | error error => simp
  | ok found =>
    cases found with
    | missing l => simp
    | entry l y =>
      cases y with
      | file content modified =>
        -- A slash at the end asks for a directory.
        cases hslash : p.endsInSlash with
        | true =>
          simp only [if_true, reduceCtorEq, false_iff]
          rintro ⟨hfile, heq⟩
          cases heq
          exact absurd (hfile rfl) (by simp)
        | false => simp
      | directory =>
        simp only [Except.ok.injEq, Found.entry.injEq]
        refine ⟨fun h => ⟨fun hfile => ?_, h⟩, fun h => h.2⟩
        simp [← h.2, Entry.isFile] at hfile
      | link t =>
        simp only [Except.ok.injEq, Found.entry.injEq]
        refine ⟨fun h => ⟨fun hfile => ?_, h⟩, fun h => h.2⟩
        simp [← h.2, Entry.isFile] at hfile

theorem entry_eq_ok_iff {p : Path} {x : Entry} :
    d.entry p = .ok (m, x) ↔
      IsUsable p ∧ (x.isFile = true → p.endsInSlash = false ∧ p.endsInDot = false) ∧
        Leads d true linkLimit d.cwd p.components (.entry m x) := by
  have hlocate : d.entry p = .ok (m, x) ↔ d.locate true p = .ok (.entry m x) := by
    rw [entry]
    cases d.locate true p with
    | error error => simp
    | ok found => cases found <;> simp
  rw [hlocate, locate_eq_entry_iff, Bool.true_or, reach_eq_entry_iff, Bool.true_or]
  constructor
  · rintro ⟨hslash, hp, hdot, hfollow⟩
    exact ⟨hp, fun hfile => ⟨hslash hfile, hdot hfile⟩, hfollow⟩
  · rintro ⟨hp, hend, hfollow⟩
    exact ⟨fun hfile => (hend hfile).1, hp, fun hfile => (hend hfile).2, hfollow⟩

/-! ## Reading -/

/-- Disks that agree on the places on the way show the same entry at a path. -/
theorem trail_congr {p : Path} (hcwd : e.cwd = d.cwd) (h : ∀ k ∈ d.trail p, e.get? k = d.get? k) :
    e.trail p = d.trail p := by
  rw [trail, trail, hcwd]
  exact (follow_congr h).2

theorem entry_congr {p : Path} (hcwd : e.cwd = d.cwd) (h : ∀ k ∈ d.trail p, e.get? k = d.get? k) :
    e.entry p = d.entry p := by
  have hfollow : e.follow true linkLimit e.cwd p.components =
      d.follow true linkLimit d.cwd p.components := by
    rw [hcwd]
    exact (follow_congr h).1
  simp only [entry, locate, reach, Bool.true_or, hfollow]

section

variable {p : Path} (h : e.entry p = d.entry p)
include h

theorem present_congr : e.present p = d.present p := by rw [present, present, h]

theorem isFile_congr : e.isFile p = d.isFile p := by rw [isFile, isFile, h]

theorem isDirectory_congr : e.isDirectory p = d.isDirectory p := by
  rw [isDirectory, isDirectory, h]

theorem readFile_congr : e.readFile p = d.readFile p := by rw [readFile, readFile, h]

theorem readText_congr : e.readText p = d.readText p := by rw [readText, readText, readFile_congr h]

end

theorem isFile_iff {p : Path} :
    d.isFile p = true ↔ ∃ m content modified, d.entry p = .ok (m, .file content modified) := by
  rw [isFile]
  split
  · next l content modified h => simp [h]
  · next h =>
    simp only [Bool.false_eq_true, false_iff]
    rintro ⟨m, content, modified, heq⟩
    exact h m content modified heq

namespace Shrinks

/-- A path leads to an entry as before exactly if no place on the way is lost. -/
theorem entry_eq_ok_iff (h : Shrinks d e) {p : Path} {x : Entry} :
    e.entry p = .ok (m, x) ↔ d.entry p = .ok (m, x) ∧ ∀ k ∈ d.trail p, e.get? k ≠ none := by
  rw [Disk.entry_eq_ok_iff, Disk.entry_eq_ok_iff, h.cwd, h.leads_iff]
  simp only [and_assoc, trail]

/-- A file is read as before exactly if no place on the way to it is lost. -/
theorem readFile_eq_iff (h : Shrinks d e) {p : Path} (hfile : d.isFile p = true) :
    e.readFile p = d.readFile p ↔ ∀ k ∈ d.trail p, e.get? k ≠ none := by
  rcases isFile_iff.1 hfile with ⟨m, content, modified, hd⟩
  constructor
  · intro hread
    have hok : e.readFile p = .ok (content, modified) := by
      rw [hread, readFile, hd]
    -- What was read comes from a file that the path leads to now.
    have he : ∃ m', e.entry p = .ok (m', .file content modified) := by
      rw [readFile] at hok
      split at hok
      · next l content' modified' hentry =>
        cases hok
        exact ⟨l, hentry⟩
      · cases hok
      · cases hok
    rcases he with ⟨m', he⟩
    exact (h.entry_eq_ok_iff.1 he).2
  · intro hkept
    have he : e.entry p = .ok (m, .file content modified) := h.entry_eq_ok_iff.2 ⟨hd, hkept⟩
    rw [readFile, readFile, he, hd]

end Shrinks
end Disk
end StaticBlog
