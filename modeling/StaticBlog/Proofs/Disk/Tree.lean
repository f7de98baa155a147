import StaticBlog.Proofs.Disk.Likeness

/-!
# What is in a directory

- `Disk.Tree`, `Disk.treeAt` : what is below a place, whenever it was changed
- `Disk.Tree.write`, `Disk.Tree.writeAll` : a directory in which files are written
- `Disk.Tree.writeAll_eq_iff` : directories in which the same files are written hold the same exactly
  if they did wherever nothing is written
- `Disk.Fills` : a disk with files written below a path
- `Disk.fills_of_makeRoom` : making the directories above a file and writing it
-/

namespace StaticBlog

/-- An entry without the time of its last change. -/
def Entry.untimed : Entry → Entry
  | .file content _ => .file content 0
  | x => x

namespace Disk

variable {d e : Disk} {ahead : Bool} {links : Nat} {o l m : Place} {ns ms : List String} {output : Path}

/-! ## Trees -/

/-- What is in a directory, by the names that lead there. -/
abbrev Tree := List String → Option Entry

/-- What is in the directory at a place, whenever it was changed. No name leads to the directory
itself. -/
def treeAt (d : Disk) (o : Place) : Tree := fun ns =>
  if ns = [] then some .directory else (d.get? (o ++ ns)).map Entry.untimed

/-- A file that is written: the names that lead there from a directory, and what it holds. -/
structure NewFile where
  names : List String
  content : Content
  deriving DecidableEq, Repr

namespace Tree

variable {t t' : Tree} {files : List NewFile}

/-- A tree with a file written in it, and with the directories on the way there. -/
def write (t : Tree) (f : NewFile) : Tree := fun ns =>
  if ns = f.names then some (.file f.content 0)
  else if ns <+: f.names then some .directory else t ns

/-- A tree with files written in it one after the other. -/
def writeAll (t : Tree) (files : List NewFile) : Tree := files.foldl write t

theorem writeAll_append (t : Tree) (files files' : List NewFile) :
    t.writeAll (files ++ files') = (t.writeAll files).writeAll files' := List.foldl_append

/-- Whether names lead to something that is written, or are on the way there. -/
def Covers (files : List NewFile) (ns : List String) : Prop := ∃ f ∈ files, ns <+: f.names

theorem writeAll_of_not_covers (h : ¬ Covers files ns) : t.writeAll files ns = t ns := by
  induction files generalizing t with
  | nil => rfl
  | cons f files ih =>
    have hf : ¬ ns <+: f.names := fun hns => h ⟨f, List.mem_cons_self, hns⟩
    have hne : ns ≠ f.names := fun heq => hf (heq ▸ List.prefix_refl ns)
    have hrest : ¬ Covers files ns := fun ⟨g, hg, hns⟩ => h ⟨g, List.mem_cons_of_mem f hg, hns⟩
    calc t.writeAll (f :: files) ns = t.write f ns := ih hrest
      _ = t ns := by rw [write, if_neg hne, if_neg hf]

/-- What is written does not depend on what was there. -/
theorem writeAll_congr (h : Covers files ns) : t.writeAll files ns = t'.writeAll files ns := by
  induction files generalizing t t' with
  | nil =>
    rcases h with ⟨f, hf, -⟩
    cases hf
  | cons f files ih =>
    change (t.write f).writeAll files ns = (t'.write f).writeAll files ns
    by_cases hrest : Covers files ns
    · exact ih hrest
    · -- Only the first file is on the way, and nothing replaces it.
      have hf : ns <+: f.names := by
        rcases h with ⟨g, hg, hns⟩
        rcases List.mem_cons.1 hg with rfl | hg
        · exact hns
        · exact absurd ⟨g, hg, hns⟩ hrest
      rw [writeAll_of_not_covers hrest, writeAll_of_not_covers hrest]
      simp only [write, if_pos hf]

/-- Trees in which the same files are written are the same exactly if they were wherever nothing is
written. -/
theorem writeAll_eq_iff :
    t.writeAll files = t'.writeAll files ↔ ∀ ns, ¬ Covers files ns → t ns = t' ns := by
  constructor
  · intro h ns hns
    rw [← writeAll_of_not_covers (t := t) hns, h, writeAll_of_not_covers hns]
  · intro h
    funext ns
    by_cases hns : Covers files ns
    · exact writeAll_congr hns
    · rw [writeAll_of_not_covers hns, writeAll_of_not_covers hns, h ns hns]

end Tree

/-! ## Files from outside -/

/-- What is added below a place leaves the rest of the disk as it is. -/
theorem Adds.sameOn {written : Path → Prop} (h : Adds o written d e) : SameOn (¬ o <+: ·) d e :=
  ⟨h.extends.cwd, h.outside⟩

/-- A file that is found outside a directory is not one that names lead to from there. -/
theorem sameEntry_eq_false (hopen : Open output o d) (hns : ∀ n ∈ ns, Path.IsName n) {source : Path}
    (hsource : ∀ k ∈ d.trail source, ¬ o <+: k) {found : Content × Int}
    (hread : d.readFile source = .ok found) : d.sameEntry source (output.down ns) = false := by
  rw [readFile] at hread
  split at hread
  · next k content modified hentry =>
    have hk : ¬ o <+: k :=
      hsource k ((entry_eq_ok_iff.1 hentry).2.2.mem_trailFrom (Or.inr ⟨content, modified, rfl⟩))
    rw [sameEntry, hentry]
    cases hentry' : d.entry (output.down ns) with
    | error error => rfl
    | ok target =>
      rcases target with ⟨m, x⟩
      refine decide_eq_false fun hkm => hk ?_
      rw [hkm, place_of_entry_down hopen hns hentry']
      exact List.prefix_append o ns
  · cases hread
  · cases hread

/-! ## Files below a path -/

/-- A disk with files written below the path of a directory. -/
structure Fills (output : Path) (o : Place) (new : List NewFile) (d e : Disk) : Prop
    extends Adds o (fun p => ∃ f ∈ new, p = output.down f.names) d e where
  sound : Sound d → Sound e
  named : ∀ f ∈ new, ∀ n ∈ f.names, Path.IsName n
  tree : e.treeAt o = (d.treeAt o).writeAll new

namespace Fills

theorem refl (output : Path) (o : Place) (d : Disk) : Fills output o [] d d :=
  ⟨(Adds.refl o d).congr fun p => by simp, id, fun _ hf => absurd hf List.not_mem_nil, rfl⟩

theorem trans {d₁ d₂ d₃ : Disk} {new new' : List NewFile} (h : Fills output o new d₁ d₂)
    (h' : Fills output o new' d₂ d₃) : Fills output o (new ++ new') d₁ d₃ := by
  refine ⟨(h.toAdds.trans h'.toAdds).congr fun p => ?_, fun hd => h'.sound (h.sound hd),
    fun f hf => ?_, ?_⟩
  · simp [or_and_right, exists_or]
  · rcases List.mem_append.1 hf with hf | hf
    · exact h.named f hf
    · exact h'.named f hf
  · rw [h'.tree, h.tree, Tree.writeAll_append]

end Fills

/-- On the way to a file that names lead to where no links are there are directories. -/
theorem Leads.get?_of_prefix (hlinks : Unlinked o d) (hl : o <+: l) {found : Found}
    (h : Leads d ahead links l (ns.map .name) found) {content : Content} {modified : Int}
    (hm : found = .entry m (.file content modified)) (hms : ms <+: ns) (hne : ms ≠ [])
    (hlast : ms ≠ ns) : d.get? (l ++ ms) = some .directory := by
  induction ns generalizing l ms with
  | nil => exact absurd (List.prefix_nil.1 hms) hne
  | cons n ns ih =>
    rcases ms with _ | ⟨n', ms⟩
    · exact absurd rfl hne
    rcases List.cons_prefix_cons.1 hms with ⟨rfl, hrest⟩
    have hbelow : o <+: l ++ [n'] := hl.trans (List.prefix_append l [n'])
    rw [List.map_cons] at h
    generalize hpath : ns.map Path.Component.name = path at h
    cases h with
    | missing _ _ => cases hm
    | file _ _ =>
      -- The file stands at the end, so nothing is left in front of it.
      cases List.map_eq_nil_iff.1 hpath
      rw [List.prefix_nil.1 hrest] at hlast
      exact absurd rfl hlast
    | directory _ hget hdown =>
      subst hpath
      by_cases hmore : ms = []
      · rw [hmore, hget]
      · have hplace : l ++ n' :: ms = (l ++ [n']) ++ ms := by simp
        rw [hplace]
        exact ih hbelow hdown hrest hmore fun heq => hlast (heq ▸ rfl)
    | unfollowed _ _ hget => exact absurd hget (hlinks _ _ hbelow)
    | link _ _ hget _ => exact absurd hget (hlinks _ _ hbelow)

/-- On the way to a file below a directory without links there are directories. -/
theorem get?_of_entry_down (hopen : Open output o d) (hns : ∀ n ∈ ns, Path.IsName n)
    {content : Content} {modified : Int}
    (hentry : d.entry (output.down ns) = .ok (m, .file content modified)) (hms : ms <+: ns)
    (hne : ms ≠ []) (hlast : ms ≠ ns) : d.get? (o ++ ms) = some .directory := by
  have hnames : ns ≠ [] := by
    rintro rfl
    exact hne (List.prefix_nil.1 hms)
  have hleads := (entry_eq_ok_iff.1 hentry).2.2
  rcases (entry_eq_ok_iff.1 hopen.leads).2.2.append_iff rfl with ⟨left, hleft⟩
  rw [Path.components_down output hns, hleft true _ _ (by simpa using hnames)] at hleads
  exact hleads.get?_of_prefix hopen.unlinked (List.prefix_refl o) rfl hms hne hlast

/-- Making the directories above a file and writing it fills the directory with that file. -/
theorem fills_of_makeRoom (hopen : Open output o d) (hns : ∀ n ∈ ns, Path.IsName n) (hne : ns ≠ [])
    {dir : Path} {d' : Disk} {content : Content} {modified : Int}
    (hdir : (output.down ns).parent? = some dir) (hmake : d.createDirectories dir = .ok d')
    (hwrite : d'.writeAt (output.down ns) content modified = .ok e) :
    Fills output o [⟨ns, content⟩] d e := by
  have hadds := adds_of_makeRoom hopen hns hne hdir hmake hwrite
  refine ⟨hadds.congr fun p => by simp, fun hd => (hd.createDirectories hmake).writeAt hwrite,
    by simpa using hns, ?_⟩
  have hopen' := hadds.open hopen
  have hmakes := makes_above hopen hns hne hdir hmake
  rcases put_of_writeAt hwrite with ⟨m, hm, heq, -, hat⟩
  have hentry := hat (Path.endsInSlash_down output hns hne)
  have hplace : m = o ++ ns := place_of_entry_down hopen' hns hentry
  funext ms
  change e.treeAt o ms = (d.treeAt o).write ⟨ns, content⟩ ms
  by_cases hroot : ms = []
  · simp [treeAt, Tree.write, hroot, hne.symm]
  by_cases hlast : ms = ns
  · have hget : e.get? (o ++ ms) = some (.file content modified) := by
      rw [hlast, ← hplace, heq, get?_put_self d' _ hm]
    simp only [treeAt, Tree.write, if_neg hroot, if_pos hlast, hget, Option.map_some, Entry.untimed]
  by_cases hms : ms <+: ns
  · have hget := get?_of_entry_down hopen' hns hentry hms hroot hlast
    simp only [treeAt, Tree.write, if_neg hroot, if_neg hlast, if_pos hms, hget, Option.map_some,
      Entry.untimed]
  · -- Neither the file nor a directory on the way to it is here.
    have hput : e.get? (o ++ ms) = d'.get? (o ++ ms) := by
      rw [heq, hplace]
      exact get?_put_of_ne d' _ fun h => hlast (List.append_cancel_left h).symm
    have hmade : d'.get? (o ++ ms) = d.get? (o ++ ms) := by
      rcases hmakes.get? (o ++ ms) with hsame | ⟨⟨ms', hms', hk⟩, -⟩
      · exact hsame
      · exact absurd (List.append_cancel_left hk ▸ hms') hms
    simp only [treeAt, Tree.write, if_neg hroot, if_neg hlast, if_neg hms, hput, hmade]

end Disk
end StaticBlog
