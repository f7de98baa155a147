import Mathlib.Data.List.Basic
import StaticBlog.Proofs.Disk.Trail
import StaticBlog.Proofs.Path.Below

/-!
# What is added to a disk

- `Entry.Alike`, `Disk.Extends` : a disk that has what another one has, with other texts in its files
- `Disk.Extends.leads` : what a path leads to stays
- `Disk.Proper` : a disk whose entries have names of files
- `Disk.Leads.put` : where a path leads to nothing, an entry can be put
- `Disk.Makes` : a disk with new directories
- `Disk.createDirectoriesFrom_succ_eq_ok_iff`, `Disk.makes_of_createDirectories` : making a directory
  with those above it
- `Disk.put_of_writeAt` : writing a file
-/

namespace StaticBlog

/-- Entries of one kind, which lead the same way. Files may hold different texts. -/
inductive Entry.Alike : Entry → Entry → Prop
  | file (content content' : Content) (modified modified' : Int) :
      Alike (.file content modified) (.file content' modified')
  | directory : Alike .directory .directory
  | link (target : String) : Alike (.link target) (.link target)

namespace Entry.Alike

theorem refl : ∀ x : Entry, x.Alike x
  | .file content modified => .file content content modified modified
  | .directory => .directory
  | .link target => .link target

theorem trans {x y z : Entry} (hxy : x.Alike y) (hyz : y.Alike z) : x.Alike z := by
  cases hxy with
  | file c c' t t' =>
    cases hyz with
    | file _ c'' _ t'' => exact .file c c'' t t''
  | directory =>
    cases hyz
    exact .directory
  | link target =>
    cases hyz
    exact .link target

theorem isFile {x y : Entry} (h : x.Alike y) : y.isFile = x.isFile := by
  cases h <;> rfl

end Entry.Alike

namespace Disk

variable {d e : Disk} {ahead : Bool} {links : Nat} {l m : Place} {n : String} {found : Found}
  {path : List Path.Component}

/-! ## Entries that stay -/

/-- A disk that has what another one has, with other texts in its files. -/
structure Extends (d e : Disk) : Prop where
  cwd : e.cwd = d.cwd
  get? : ∀ k x, d.get? k = some x → ∃ y, e.get? k = some y ∧ x.Alike y

namespace Extends

theorem refl (d : Disk) : Extends d d := ⟨rfl, fun _ x hx => ⟨x, hx, .refl x⟩⟩

theorem trans {d₁ d₂ d₃ : Disk} (h : Extends d₁ d₂) (h' : Extends d₂ d₃) : Extends d₁ d₃ := by
  refine ⟨h'.cwd.trans h.cwd, fun k x hx => ?_⟩
  rcases h.get? k x hx with ⟨y, hy, hxy⟩
  rcases h'.get? k y hy with ⟨z, hz, hyz⟩
  exact ⟨z, hz, hxy.trans hyz⟩

/-- What a path leads to stays. -/
theorem leads (h : Extends d e) {x : Entry} (hd : Leads d ahead links l path found)
    (hm : found = .entry m x) : ∃ y, Leads e ahead links l path (.entry m y) ∧ x.Alike y := by
  -- Each entry on the way has one of its kind in its place, which leads the same way.
  induction hd with
  | done links l =>
    cases hm
    exact ⟨.directory, .done links m, .directory⟩
  | root _ ih => exact (ih hm).imp fun _ => And.imp_left .root
  | here _ ih => exact (ih hm).imp fun _ => And.imp_left .here
  | up _ ih => exact (ih hm).imp fun _ => And.imp_left .up
  | missing _ _ => cases hm
  | file hshort hget =>
    cases hm
    rcases h.get? _ _ hget with ⟨y, hy, halike⟩
    refine ⟨y, ?_, halike⟩
    cases halike
    exact .file hshort hy
  | directory hshort hget _ ih =>
    rcases h.get? _ _ hget with ⟨y, hy, halike⟩
    cases halike
    exact (ih hm).imp fun _ => And.imp_left (.directory hshort hy)
  | unfollowed hahead hshort hget =>
    cases hm
    rcases h.get? _ _ hget with ⟨y, hy, halike⟩
    refine ⟨y, ?_, halike⟩
    cases halike
    exact .unfollowed hahead hshort hy
  | link hon hshort hget _ ih =>
    rcases h.get? _ _ hget with ⟨y, hy, halike⟩
    cases halike
    exact (ih hm).imp fun _ => And.imp_left (.link hon hshort hy)

theorem entry (h : Extends d e) {p : Path} {x : Entry} :
    d.entry p = .ok (m, x) → ∃ y, e.entry p = .ok (m, y) ∧ x.Alike y := by
  intro hd
  rcases entry_eq_ok_iff.1 hd with ⟨husable, hend, hleads⟩
  rcases h.leads hleads rfl with ⟨y, hy, hxy⟩
  refine ⟨y, entry_eq_ok_iff.2 ⟨husable, ?_, ?_⟩, hxy⟩
  · rw [hxy.isFile]
    exact hend
  · rw [h.cwd]
    exact hy

/-- What is looked up stays on the way, which may go on further. -/
theorem looksUp (h : Extends d e) {k : Place} (hk : LooksUp d ahead links l path k) :
    LooksUp e ahead links l path k := by
  induction hk with
  | root _ ih => exact .root ih
  | here _ ih => exact .here ih
  | up _ ih => exact .up ih
  | name hshort => exact .name hshort
  | directory hshort hget _ ih =>
    rcases h.get? _ _ hget with ⟨y, hy, hkind⟩
    cases hkind
    exact .directory hshort hy ih
  | link hon hshort hget _ ih =>
    rcases h.get? _ _ hget with ⟨y, hy, hkind⟩
    cases hkind
    exact .link hon hshort hy ih

theorem trailFrom_subset (h : Extends d e) :
    d.trailFrom ahead links l path ⊆ e.trailFrom ahead links l path :=
  fun _ hk => (h.looksUp (mem_trailFrom_iff.1 hk)).mem

theorem trail_subset (h : Extends d e) (p : Path) : d.trail p ⊆ e.trail p := by
  rw [trail, trail, h.cwd]
  exact h.trailFrom_subset

end Extends

theorem extends_put {x : Entry} (hl : l ≠ [])
    (h : ∀ y, d.get? l = some y → y.Alike x) : Extends d (d.put l x) := by
  refine ⟨rfl, fun k y hy => ?_⟩
  by_cases hk : l = k
  · subst hk
    exact ⟨x, get?_put_self d x hl, h y hy⟩
  · exact ⟨y, by rw [get?_put_of_ne d x hk, hy], .refl y⟩

/-! ## Names of entries -/

theorem mem_of_find?_eq_some {entries : List (Place × Entry)} {k : Place} {x : Entry} :
    find? entries k = some x → (k, x) ∈ entries := by
  intro h
  induction entries with
  | nil => cases h
  | cons y entries ih =>
    rcases y with ⟨k', y⟩
    rw [find?] at h
    split at h
    · next heq =>
      cases h
      rw [heq]
      exact List.mem_cons_self
    · exact List.mem_cons_of_mem _ (ih h)

theorem find?_ne_none_iff {entries : List (Place × Entry)} {k : Place} :
    find? entries k ≠ none ↔ ∃ x, (k, x) ∈ entries := by
  induction entries with
  | nil => simp [find?]
  | cons y entries ih =>
    rcases y with ⟨k', y⟩
    by_cases hk : k' = k
    · subst hk
      simp only [find?, if_true]
      exact ⟨fun _ => ⟨y, List.mem_cons_self⟩, fun _ => by simp⟩
    · rw [find?, if_neg hk, ih]
      have hne : ∀ x, (k, x) ≠ (k', y) := fun x heq => hk (congrArg Prod.fst heq).symm
      simp [hne]

/-- What can be the name of an entry. -/
structure IsEntryName (n : String) : Prop where
  isName : Path.IsName n
  short : ¬ nameLimit < n.utf8ByteSize
  plain : '\x00' ∉ n.toList

/-- A disk whose entries have names of files. -/
def Proper (d : Disk) : Prop := ∀ k n, d.get? (k ++ [n]) ≠ none → IsEntryName n

theorem proper_of_forall (h : ∀ x ∈ d.entries, ∀ n, x.1.getLast? = some n → IsEntryName n) :
    Proper d := by
  intro k n hget
  rw [Disk.get?, if_neg (by simp), find?_ne_none_iff] at hget
  rcases hget with ⟨x, hx⟩
  exact h _ hx n (by simp)

theorem Proper.put {x : Entry} (h : Proper d) (hn : IsEntryName n) :
    Proper (d.put (l ++ [n]) x) := by
  intro k n' hget
  by_cases hk : l ++ [n] = k ++ [n']
  · have hnn : n = n' := (List.append_inj' hk rfl).2 |> List.singleton_inj.1
    exact hnn ▸ hn
  · rw [get?_put_of_ne d x hk] at hget
    exact h k n' hget

theorem Shrinks.proper (h : Shrinks d e) (hd : Proper d) : Proper e := by
  intro k n hget
  rcases h.get? (k ++ [n]) with hkeep | hlost
  · exact hd k n (hkeep ▸ hget)
  · exact absurd hlost hget

/-! ## The end of a path -/

namespace Leads

/-- What is missing at the end of a path could be there. If no link at the end is followed, its place
ends in the last name of the path. -/
theorem get?_of_missing (h : Leads d ahead links l path found) (hm : found = .missing m) :
    d.get? m = none ∧ ∃ k n, m = k ++ [n] ∧ ¬ nameLimit < n.utf8ByteSize ∧
      (ahead = false → path.getLast? = some (.name n)) := by
  induction h with
  | done links l => cases hm
  | root _ ih | here _ ih | up _ ih | directory _ _ _ ih =>
    rcases ih hm with ⟨hget, k, n, hkn, hshort, hlast⟩
    exact ⟨hget, k, n, hkn, hshort, fun ha => by simp [List.getLast?_cons, hlast ha]⟩
  | @missing links l n hshort hget =>
    cases hm
    exact ⟨hget, l, n, rfl, hshort, fun _ => rfl⟩
  | file _ _ => cases hm
  | unfollowed _ _ _ => cases hm
  | @link links l n target rest found hon hshort hget _ ih =>
    rcases ih hm with ⟨hget', k, n', hkn, hshort', hlast⟩
    refine ⟨hget', k, n', hkn, hshort', fun ha => ?_⟩
    -- The last name of the path is not that of the link, since a link at the end is not followed.
    have hrest : rest ≠ [] := hon.resolve_right (by simp [ha])
    have hlast' := hlast ha
    rw [List.getLast?_append_of_ne_nil _ hrest] at hlast'
    rw [List.getLast?_cons, hlast', Option.getD_some]

/-- A path that leads to a file leads to an entry of the disk, whose name is not too long. -/
theorem get?_of_file {content : Content} {modified : Int} (h : Leads d ahead links l path found)
    (hm : found = .entry m (.file content modified)) :
    d.get? m = some (.file content modified) ∧
      ∃ k n, m = k ++ [n] ∧ ¬ nameLimit < n.utf8ByteSize := by
  induction h with
  | done links l => cases hm
  | root _ ih | here _ ih | up _ ih | directory _ _ _ ih | link _ _ _ _ ih => exact ih hm
  | missing _ _ => cases hm
  | @file links l n _ _ hshort hget =>
    cases hm
    exact ⟨hget, l, n, rfl, hshort⟩
  | unfollowed _ _ _ => cases hm

/-- A path that leads to a link leads to an entry of the disk. -/
theorem get?_of_link {t : String} (h : Leads d ahead links l path found)
    (hm : found = .entry m (.link t)) : d.get? m = some (.link t) := by
  induction h with
  | done links l => cases hm
  | root _ ih | here _ ih | up _ ih | directory _ _ _ ih | link _ _ _ _ ih => exact ih hm
  | missing _ _ => cases hm
  | file _ _ => cases hm
  | unfollowed _ _ hget =>
    cases hm
    exact hget

/-- A name at the end of a path leads to what stands there, unless that is a link. -/
theorem last {x : Entry} (hx : ∀ t, x ≠ .link t) (hshort : ¬ nameLimit < n.utf8ByteSize)
    (hget : d.get? (l ++ [n]) = some x) : Leads d ahead links l [.name n] (.entry (l ++ [n]) x) := by
  cases x with
  | file content modified => exact .file hshort hget
  | directory => exact .directory hshort hget (.done links (l ++ [n]))
  | link target => exact absurd rfl (hx target)

/-- Where a path leads to nothing, an entry can be put, and the path leads to it then. -/
theorem put (h : Leads d ahead links l path found) (hm : found = .missing m) {x : Entry}
    (hx : ∀ t, x ≠ .link t) : Leads (d.put m x) ahead links l path (.entry m x) := by
  rcases h.get?_of_missing hm with ⟨hnone, k₀, n₀, hmn, -, -⟩
  have hne : m ≠ [] := by simp [hmn]
  -- Nothing on the way is at the new place, since nothing was there.
  have hkeep : ∀ {k : Place} {y : Entry}, d.get? k = some y → (d.put m x).get? k = some y := by
    intro k y hy
    have hmk : m ≠ k := by
      rintro rfl
      rw [hnone] at hy
      cases hy
    rw [get?_put_of_ne d x hmk, hy]
  induction h with
  | done links l => cases hm
  | root _ ih => exact .root (ih hm)
  | here _ ih => exact .here (ih hm)
  | up _ ih => exact .up (ih hm)
  | missing hshort _ =>
    cases hm
    exact .last hx hshort (get?_put_self d x hne)
  | file _ _ => cases hm
  | directory hshort hget _ ih => exact .directory hshort (hkeep hget) (ih hm)
  | unfollowed _ _ _ => cases hm
  | link hon hshort hget _ ih => exact .link hon hshort (hkeep hget) (ih hm)

end Leads

/-- A path to a directory that is no link leads to the directory when links are followed. -/
theorem entry_of_locate_directory {p : Path} :
    d.locate false p = .ok (.entry m .directory) → d.entry p = .ok (m, .directory) := by
  intro h
  rcases reach_eq_entry_iff.1 (locate_eq_entry_iff.1 h).2 with ⟨husable, -, hleads⟩
  exact entry_eq_ok_iff.2 ⟨husable, by simp [Entry.isFile], hleads.followed rfl⟩

theorem isDirectory_iff {p : Path} :
    d.isDirectory p = true ↔ ∃ k, d.entry p = .ok (k, .directory) := by
  rw [isDirectory]
  split
  · next k h => simp [h]
  · next h =>
    simp only [Bool.false_eq_true, false_iff]
    rintro ⟨k, heq⟩
    exact h k heq

/-! ## New directories -/

/-- A disk with new directories at places of some kind. -/
structure Makes (within : Place → Prop) (d e : Disk) : Prop where
  cwd : e.cwd = d.cwd
  clock : e.clock = d.clock
  get? : ∀ k, e.get? k = d.get? k ∨ within k ∧ d.get? k = none ∧ e.get? k = some .directory ∧
    ∃ l n, k = l ++ [n] ∧ IsEntryName n

namespace Makes

variable {within : Place → Prop}

theorem refl (within : Place → Prop) (d : Disk) : Makes within d d :=
  ⟨rfl, rfl, fun _ => Or.inl rfl⟩

theorem trans {d₁ d₂ d₃ : Disk} (h : Makes within d₁ d₂) (h' : Makes within d₂ d₃) :
    Makes within d₁ d₃ := by
  refine ⟨h'.cwd.trans h.cwd, h'.clock.trans h.clock, fun k => ?_⟩
  rcases h'.get? k with hk | ⟨hin, hnone, hsome, hname⟩
  · rw [hk]
    exact h.get? k
  · rcases h.get? k with hk | ⟨-, -, hsome', -⟩
    · exact Or.inr ⟨hin, hk ▸ hnone, hsome, hname⟩
    · rw [hnone] at hsome'
      cases hsome'

theorem mono {within' : Place → Prop} (hin : ∀ k, within k → within' k) (h : Makes within d e) :
    Makes within' d e := by
  refine ⟨h.cwd, h.clock, fun k => ?_⟩
  rcases h.get? k with hk | ⟨hk, hrest⟩
  · exact Or.inl hk
  · exact Or.inr ⟨hin k hk, hrest⟩

theorem «extends» (h : Makes within d e) : Extends d e := by
  refine ⟨h.cwd, fun k x hx => ?_⟩
  rcases h.get? k with hk | ⟨-, hnone, -⟩
  · exact ⟨x, by rw [hk, hx], .refl x⟩
  · rw [hnone] at hx
    cases hx

theorem proper (h : Makes within d e) (hd : Proper d) : Proper e := by
  intro k n hget
  rcases h.get? (k ++ [n]) with hk | ⟨-, -, -, l, n', heq, hname⟩
  · rw [hk] at hget
    exact hd k n hget
  · have hnn : n = n' := List.singleton_inj.1 (List.append_inj' heq rfl).2
    exact hnn ▸ hname

/-- The links are those that were there before. -/
theorem get?_link_iff (h : Makes within d e) {k : Place} {t : String} :
    e.get? k = some (.link t) ↔ d.get? k = some (.link t) := by
  rcases h.get? k with hk | ⟨-, hnone, hdir, -⟩
  · rw [hk]
  · rw [hnone, hdir]
    simp

end Makes

/-- Making a directory puts it where the path leads. -/
theorem makes_of_createDirectory {p : Path} :
    d.createDirectory p = .ok e →
      Makes (fun k => d.reach false p = .ok (.missing k)) d e ∧ e.isDirectory p = true := by
  intro h
  rw [createDirectory] at h
  cases hreach : d.reach false p with
  | error error =>
    rw [hreach] at h
    cases h
  | ok found =>
    rw [hreach] at h
    cases found with
    | entry k x => cases h
    | missing k =>
      cases h
      rcases reach_eq_missing_iff.1 hreach with ⟨husable, hdot, hleads⟩
      rcases hleads.get?_of_missing rfl with ⟨hnone, l, n, hk, hshort, hlast⟩
      have hne : k ≠ [] := by simp [hk]
      -- The place ends in the last name of the path, which can be the name of an entry.
      have hmem : .name n ∈ p.components := List.mem_of_getLast? (hlast rfl)
      have hname : IsEntryName n := ⟨Path.isName_of_mem_components hmem, hshort, fun hnul =>
        husable.plain (Path.mem_text_of_mem_components hmem _ hnul)⟩
      refine ⟨⟨rfl, rfl, fun k' => ?_⟩, ?_⟩
      · by_cases hkk : k = k'
        · subst hkk
          exact Or.inr ⟨rfl, hnone, get?_put_self d _ hne, l, n, hk, hname⟩
        · exact Or.inl (get?_put_of_ne d _ hkk)
      · have hput : Leads (d.put k .directory) false linkLimit d.cwd p.components
            (.entry k .directory) := hleads.put rfl (by simp)
        exact isDirectory_iff.2
          ⟨k, entry_eq_ok_iff.2 ⟨husable, by simp [Entry.isFile], hput.followed rfl⟩⟩

theorem ensureDirectory_eq_ok_iff {p : Path} :
    d.ensureDirectory p = .ok e ↔ d.createDirectory p = .ok e ∨
      (∃ error, d.createDirectory p = .error error) ∧ d.isDirectory p = true ∧ e = d := by
  rw [ensureDirectory]
  cases d.createDirectory p with
  | ok made => simp
  | error error => cases d.isDirectory p <;> simp [eq_comm]

theorem makes_of_ensureDirectory {p : Path} :
    d.ensureDirectory p = .ok e →
      Makes (fun k => d.reach false p = .ok (.missing k)) d e ∧ e.isDirectory p = true := by
  intro h
  rcases ensureDirectory_eq_ok_iff.1 h with hcreate | ⟨-, hthere, rfl⟩
  · exact makes_of_createDirectory hcreate
  · exact ⟨.refl _ e, hthere⟩

/-- The ways in which a directory is made with those above it: no path asks for none, the directory
can be made, those above it have to be made first, or it is there. -/
theorem createDirectoriesFrom_succ_eq_ok_iff {fuel : Nat} {p : Path} :
    d.createDirectoriesFrom (fuel + 1) p = .ok e ↔
      p.text = "" ∧ e = d ∨ p.text ≠ "" ∧ (d.createDirectory p = .ok e ∨
        (d.createDirectory p = .error .notFound ∧ ∃ q above, p.parent? = some q ∧
          d.createDirectoriesFrom fuel q = .ok above ∧ above.ensureDirectory p = .ok e) ∨
        ∃ error, error ≠ .notFound ∧ d.createDirectory p = .error error ∧
          d.isDirectory p = true ∧ e = d) := by
  rw [createDirectoriesFrom]
  by_cases htext : p.text = ""
  · have hsame : (Except.ok d : Except DiskError Disk) = .ok e ↔ e = d :=
      ⟨fun h => (Except.ok.inj h).symm, fun h => h ▸ rfl⟩
    rw [if_pos htext, hsame]
    simp [htext]
  rw [if_neg htext]
  cases hcreate : d.createDirectory p with
  | ok made => simp [htext]
  | error error =>
    -- Only if a directory above is missing those above are made.
    by_cases hmissing : error = .notFound
    · subst hmissing
      cases hparent : p.parent? with
      | none => simp [htext]
      | some q =>
        cases habove : d.createDirectoriesFrom fuel q <;> simp [htext, habove]
    · split
      · next heq => cases heq
      · next heq => exact absurd (Except.error.inj heq) hmissing
      · next heq =>
        cases heq
        cases d.isDirectory p <;> simp [htext, hmissing, eq_comm]

/-- What is missing at the end of a path is looked up. -/
theorem mem_trail_of_reach_missing {p : Path} :
    d.reach false p = .ok (.missing m) → m ∈ d.trail p := by
  intro h
  exact trailFrom_subset_followed ((reach_eq_missing_iff.1 h).2.2.mem_trailFrom (Or.inl rfl))

/-- New directories at the end of a path are on the way that the path then has. -/
theorem Makes.on_trail {p : Path} (h : Makes (fun k => d.reach false p = .ok (.missing k)) d e) :
    Makes (· ∈ e.trail p) d e :=
  h.mono fun _ hk => h.extends.trail_subset p (mem_trail_of_reach_missing hk)

/-- The way to the path above another one is part of the way there. -/
theorem trail_parent_subset {p q : Path} (hparent : p.parent? = some q) : d.trail q ⊆ d.trail p := by
  rcases Path.components_parent?_prefix hparent with ⟨more, hmore⟩
  rw [trail, trail, ← hmore]
  exact trailFrom_subset_append more

/-- Making a directory with those above it only makes directories on the way that the path then has,
and the path leads to one of them. -/
theorem makes_of_createDirectoriesFrom {fuel : Nat} {p : Path} :
    d.createDirectoriesFrom fuel p = .ok e →
      Makes (· ∈ e.trail p) d e ∧ (p.text ≠ "" → e.isDirectory p = true) := by
  intro h
  induction fuel generalizing d e p with
  | zero => cases h
  | succ fuel ih =>
    rcases createDirectoriesFrom_succ_eq_ok_iff.1 h with ⟨htext, rfl⟩ | ⟨-, hcreate |
      ⟨-, q, above, hparent, habove, hensure⟩ | ⟨error, -, -, hthere, rfl⟩⟩
    · exact ⟨.refl _ e, fun hne => absurd htext hne⟩
    · have hmakes := makes_of_createDirectory hcreate
      exact ⟨hmakes.1.on_trail, fun _ => hmakes.2⟩
    · -- The directory above was missing and has been made first.
      have hlast := makes_of_ensureDirectory hensure
      have hmakes := (ih habove).1.mono fun k hk =>
        trail_parent_subset hparent (hlast.1.extends.trail_subset q hk)
      exact ⟨hmakes.trans hlast.1.on_trail, fun _ => hlast.2⟩
    · exact ⟨.refl _ e, fun _ => hthere⟩

theorem makes_of_createDirectories {p : Path} :
    d.createDirectories p = .ok e →
      Makes (· ∈ e.trail p) d e ∧ (p.text ≠ "" → e.isDirectory p = true) := by
  intro h
  exact makes_of_createDirectoriesFrom h

/-! ## Files -/

/-- A path that leads to a file leads to another one that is put in its place. -/
theorem entry_put_file {p : Path} {content content' : Content} {modified modified' : Int}
    (h : d.entry p = .ok (m, .file content modified)) :
    (d.put m (.file content' modified')).entry p = .ok (m, .file content' modified') := by
  rcases (entry_eq_ok_iff.1 h).2.2.get?_of_file rfl with ⟨hget, l, n, hm, -⟩
  have hne : m ≠ [] := by simp [hm]
  have halike : ∀ y, d.get? m = some y → y.Alike (.file content' modified') := by
    intro y hy
    rw [hget] at hy
    cases hy
    exact .file content content' modified modified'
  rcases (extends_put hne halike).entry h with ⟨y, hy, hkind⟩
  cases hkind with
  | file _ content'' _ modified'' =>
    -- The file that is found is the one that has been put there.
    have hself := ((entry_eq_ok_iff.1 hy).2.2.get?_of_file rfl).1
    rw [get?_put_self d _ hne] at hself
    cases hself
    exact hy

/-- Writing puts a file where the path leads, in place of another one or of nothing. -/
theorem put_of_writeAt {p : Path} {content : Content} {modified : Int} :
    d.writeAt p content modified = .ok e →
      ∃ m, m ≠ [] ∧ e = d.put m (.file content modified) ∧
        (∀ y, d.get? m = some y → y.Alike (.file content modified)) ∧
        (p.endsInSlash = false → e.entry p = .ok (m, .file content modified)) := by
  intro h
  rw [writeAt, locate, Bool.true_or] at h
  cases hreach : d.reach true p with
  | error error =>
    rw [hreach] at h
    cases h
  | ok found =>
    rw [hreach] at h
    cases found with
    | missing k =>
      cases h
      rcases reach_eq_missing_iff.1 hreach with ⟨husable, hdot, hleads⟩
      rcases hleads.get?_of_missing rfl with ⟨hnone, l, n, hk, -, -⟩
      refine ⟨k, by simp [hk], rfl, fun y hy => ?_, fun hslash => ?_⟩
      · rw [hnone] at hy
        cases hy
      · exact entry_eq_ok_iff.2 ⟨husable, fun _ => ⟨hslash, hdot⟩, hleads.put rfl (by simp)⟩
    | entry k x =>
      rcases reach_eq_entry_iff.1 hreach with ⟨husable, hdot, hleads⟩
      rw [Bool.true_or] at hleads
      cases x with
      | directory => cases h
      | link target => exact absurd rfl (hleads.ne_link k target)
      | file content' modified' =>
        -- A slash at the end would ask for a directory.
        cases hslash : p.endsInSlash with
        | true =>
          rw [hslash] at h
          cases h
        | false =>
          rw [hslash] at h
          cases h
          rcases hleads.get?_of_file rfl with ⟨hget, l, n, hk, -⟩
          have hentry : d.entry p = .ok (k, .file content' modified') :=
            entry_eq_ok_iff.2 ⟨husable, fun hfile => ⟨hslash, hdot hfile⟩, hleads⟩
          refine ⟨k, by simp [hk], rfl, fun y hy => ?_, fun _ => entry_put_file hentry⟩
          rw [hget] at hy
          cases hy
          exact .file content' content modified' modified

theorem extends_of_writeAt {p : Path} {content : Content} {modified : Int} :
    d.writeAt p content modified = .ok e → Extends d e := by
  intro h
  rcases put_of_writeAt h with ⟨m, hm, rfl, halike, -⟩
  exact extends_put hm halike

theorem extends_of_copy {source p : Path} : d.copy source p = .ok e → Extends d e := by
  intro h
  rw [copy] at h
  split at h
  · exact extends_of_writeAt h
  · cases h
  · cases h

end Disk
end StaticBlog
