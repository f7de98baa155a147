import StaticBlog.Proofs.Disk.Growth

/-!
# Filling a directory

What is written below a directory without links stays below it, and whatever else there is stays as
it is.

- `Disk.Unlinked` : no link is below a place
- `Disk.leads_below`, `Disk.prefix_of_mem_trailFrom` : names lead straight down where no links are
- `Disk.Adds` : a disk with new directories and files below a place
- `Disk.adds_of_createDirectories`, `Disk.adds_of_writeAt` : the steps that fill a directory
-/

namespace StaticBlog
namespace Disk

variable {d e : Disk} {ahead : Bool} {links : Nat} {o l : Place} {ns : List String} {output : Path}

/-! ## Names below a directory -/

/-- Whether a place is below another one. -/
def IsBelow (o k : Place) : Prop := o <+: k ∧ k ≠ o

theorem isBelow_append (o : Place) (hne : ns ≠ []) : IsBelow o (o ++ ns) :=
  ⟨List.prefix_append o ns, by simpa using hne⟩

/-- No link is at a place or below it. -/
def Unlinked (o : Place) (d : Disk) : Prop := ∀ k t, o <+: k → d.get? k ≠ some (.link t)

theorem unlinked_of_forall (h : ∀ x ∈ d.entries, ∀ t, x.2 ≠ .link t) : Unlinked o d := by
  intro k t _ hget
  rw [get?] at hget
  split at hget
  · cases hget
  · exact h _ (mem_of_find?_eq_some hget) t rfl

/-- Names lead straight down where no links are. -/
theorem leads_names (hlinks : Unlinked o d) (hl : o <+: l) {found : Found} :
    Leads d ahead links l (ns.map .name) found →
      found = .missing (l ++ ns) ∨ ∃ x, found = .entry (l ++ ns) x := by
  intro h
  induction ns generalizing l with
  | nil =>
    cases h
    exact Or.inr ⟨.directory, by simp⟩
  | cons n ns ih =>
    have hbelow : o <+: l ++ [n] := hl.trans (List.prefix_append l [n])
    have hplace : l ++ n :: ns = (l ++ [n]) ++ ns := by simp
    rw [List.map_cons] at h
    -- There are only names in the path, and no links below the place.
    generalize hrest : ns.map Path.Component.name = rest at h
    cases h with
    | missing _ _ =>
      cases List.map_eq_nil_iff.1 hrest
      exact Or.inl rfl
    | file _ _ =>
      cases List.map_eq_nil_iff.1 hrest
      exact Or.inr ⟨_, rfl⟩
    | directory _ _ hdown =>
      subst hrest
      rw [hplace]
      exact ih hbelow hdown
    | unfollowed _ _ hget => exact absurd hget (hlinks _ _ hbelow)
    | link _ _ hget _ => exact absurd hget (hlinks _ _ hbelow)

/-- And only places on the way straight down are looked up. -/
theorem prefix_of_mem_trailFrom (hlinks : Unlinked o d) (hl : o <+: l) {k : Place} :
    k ∈ d.trailFrom ahead links l (ns.map .name) → k <+: l ++ ns := by
  intro hk
  induction ns generalizing l with
  | nil => simp at hk
  | cons n ns ih =>
    have hbelow : o <+: l ++ [n] := hl.trans (List.prefix_append l [n])
    have hplace : l ++ n :: ns = (l ++ [n]) ++ ns := by simp
    rw [hplace]
    rw [List.map_cons, mem_trailFrom_iff] at hk
    cases hk with
    | name hshort => exact List.prefix_append _ ns
    | directory hshort hget hdown => exact ih hbelow hdown.mem
    | link _ _ hget _ => exact absurd hget (hlinks _ _ hbelow)

/-- A directory that a path leads to, without links in it. -/
structure Open (output : Path) (o : Place) (d : Disk) : Prop where
  leads : d.entry output = .ok (o, .directory)
  unlinked : Unlinked o d

/-- Names behind the path of a directory lead straight down from it. -/
theorem leads_below (h : Open output o d) (hne : ns ≠ []) {found : Found} :
    Leads d ahead linkLimit d.cwd (output.components ++ ns.map .name) found →
      found = .missing (o ++ ns) ∨ ∃ x, found = .entry (o ++ ns) x := by
  intro hleads
  rcases (entry_eq_ok_iff.1 h.leads).2.2.append_iff rfl with ⟨left, hleft⟩
  rw [hleft ahead _ found (by simpa using hne)] at hleads
  exact leads_names h.unlinked (List.prefix_refl o) hleads

/-- What a path below a directory leads to is below the directory. -/
theorem place_of_entry_down (h : Open output o d) (hns : ∀ n ∈ ns, Path.IsName n) {m : Place}
    {x : Entry} : d.entry (output.down ns) = .ok (m, x) → m = o ++ ns := by
  intro hentry
  cases ns with
  -- No name: the path is that of the directory itself.
  | nil =>
    have hsame : d.entry output = .ok (m, x) := hentry
    rw [h.leads] at hsame
    cases hsame
    simp
  | cons n ns =>
    have hleads := (entry_eq_ok_iff.1 hentry).2.2
    rw [Path.components_down output hns] at hleads
    rcases leads_below h (by simp) hleads with heq | ⟨y, heq⟩
    · cases heq
    · cases heq
      rfl

/-! ## What is added -/

/-- Whether a place holds a file. -/
def HasFile (d : Disk) (k : Place) : Prop :=
  ∃ content modified, d.get? k = some (.file content modified)

/-- Whether a path leads to a file at a place. -/
def FileAt (d : Disk) (p : Path) (k : Place) : Prop :=
  ∃ content modified, d.entry p = .ok (k, .file content modified)

theorem FileAt.mono {p : Path} {k : Place} (h : FileAt d p k) (hext : Extends d e) :
    FileAt e p k := by
  rcases h with ⟨content, modified, hentry⟩
  rcases hext.entry hentry with ⟨y, hy, hkind⟩
  cases hkind with
  | file _ content' _ modified' => exact ⟨content', modified', hy⟩

theorem FileAt.hasFile {p : Path} {k : Place} (h : FileAt d p k) : HasFile d k := by
  rcases h with ⟨content, modified, hentry⟩
  exact ⟨content, modified, ((entry_eq_ok_iff.1 hentry).2.2.get?_of_file rfl).1⟩

/-- A disk with new directories and files below a place. `written` tells the paths of the files. -/
structure Adds (o : Place) (written : Path → Prop) (d e : Disk) : Prop where
  «extends» : Extends d e
  outside : ∀ k, ¬ o <+: k → e.get? k = d.get? k
  unlinked : Unlinked o d → Unlinked o e
  proper : Proper d → Proper e
  there : ∀ p, written p → ∃ k, FileAt e p k
  files : ∀ k, HasFile e k ↔ HasFile d k ∨ ∃ p, written p ∧ FileAt e p k

namespace Adds

variable {written written' : Path → Prop}

theorem refl (o : Place) (d : Disk) : Adds o (fun _ => False) d d :=
  ⟨.refl d, fun _ _ => rfl, id, id, fun _ => False.elim, fun k => by simp⟩

theorem congr (h : Adds o written d e) (heq : ∀ p, written p ↔ written' p) :
    Adds o written' d e := by
  have hsame : written = written' := funext fun p => propext (heq p)
  exact hsame ▸ h

/-- What is written first stays when more is written. -/
theorem trans {d₁ d₂ d₃ : Disk} (h : Adds o written d₁ d₂) (h' : Adds o written' d₂ d₃) :
    Adds o (fun p => written p ∨ written' p) d₁ d₃ where
  «extends» := h.extends.trans h'.extends
  outside k hk := (h'.outside k hk).trans (h.outside k hk)
  unlinked hd := h'.unlinked (h.unlinked hd)
  proper hd := h'.proper (h.proper hd)
  there p hp := by
    rcases hp with hp | hp
    · rcases h.there p hp with ⟨k, hk⟩
      exact ⟨k, hk.mono h'.extends⟩
    · exact h'.there p hp
  files k := by
    -- What is there in the end was there, came first, or came then.
    constructor
    · intro hfile
      rcases (h'.files k).1 hfile with hfile | ⟨p, hp, hat⟩
      · rcases (h.files k).1 hfile with hfile | ⟨p, hp, hat⟩
        · exact Or.inl hfile
        · exact Or.inr ⟨p, Or.inl hp, hat.mono h'.extends⟩
      · exact Or.inr ⟨p, Or.inr hp, hat⟩
    · rintro (hfile | ⟨p, -, hat⟩)
      · exact (h'.files k).2 (Or.inl ((h.files k).2 (Or.inl hfile)))
      · exact hat.hasFile

theorem «open» (h : Adds o written d e) (hopen : Open output o d) : Open output o e := by
  refine ⟨?_, h.unlinked hopen.unlinked⟩
  rcases h.extends.entry hopen.leads with ⟨y, hy, hkind⟩
  cases hkind
  exact hy

end Adds

/-- New directories below a place hold no files. -/
theorem Makes.adds (h : Makes (o <+: ·) d e) : Adds o (fun _ => False) d e where
  «extends» := h.extends
  outside k hk := by
    rcases h.get? k with heq | ⟨hin, -⟩
    · exact heq
    · exact absurd hin hk
  unlinked hd := by
    intro k t hk hget
    rcases h.get? k with heq | ⟨-, -, hdir, -⟩
    · exact hd k t hk (heq ▸ hget)
    · rw [hget] at hdir
      cases hdir
  proper := h.proper
  there _ := False.elim
  files k := by
    rcases h.get? k with heq | ⟨-, hnone, hdir, -⟩
    · simp [HasFile, heq]
    · simp [HasFile, hnone, hdir]

/-- Directories on the way from a place are below it. -/
theorem Makes.below (h : Makes (fun k => ∃ ms, ms <+: ns ∧ k = o ++ ms) d e) :
    Makes (o <+: ·) d e :=
  h.mono fun _ ⟨ms, _, hk⟩ => hk ▸ List.prefix_append o ms

/-! ## Making directories -/

/-- Making a directory where one is fails for another reason than that nothing is found. -/
theorem exists_error_of_createDirectory {p : Path} (htext : p.text ≠ "")
    (hthere : Leads d true linkLimit d.cwd p.components (.entry o .directory)) :
    ∃ error, d.createDirectory p = .error error ∧ error ≠ .notFound := by
  by_cases hplain : '\x00' ∈ p.text.toList
  · refine ⟨.notAFile, ?_, by simp⟩
    rw [createDirectory, reach, if_neg htext, if_pos (by simpa using hplain)]
  · have hreach : ∃ m x, d.reach false p = .ok (.entry m x) := by
      -- A dot at the end means that a link there is followed.
      cases hdot : p.endsInDot with
      | true =>
        refine ⟨o, .directory, reach_eq_entry_iff.2 ⟨⟨htext, hplain⟩, fun hfile => ?_, ?_⟩⟩
        · cases hfile
        · rw [hdot]
          exact hthere
      | false =>
        rcases hthere.exists_unfollowed rfl with ⟨m, x, hleads, -⟩
        refine ⟨m, x, reach_eq_entry_iff.2 ⟨⟨htext, hplain⟩, fun _ => hdot, ?_⟩⟩
        rw [hdot]
        exact hleads
    rcases hreach with ⟨m, x, hreach⟩
    exact ⟨.alreadyExists, by rw [createDirectory, hreach], by simp⟩

/-- Where a path leads to a directory, none is made. -/
theorem eq_of_createDirectoriesFrom {fuel : Nat} {p : Path}
    (hthere : Leads d true linkLimit d.cwd p.components (.entry o .directory)) :
    d.createDirectoriesFrom fuel p = .ok e → e = d := by
  intro h
  cases fuel with
  | zero => cases h
  | succ fuel =>
    rcases createDirectoriesFrom_succ_eq_ok_iff.1 h with ⟨-, rfl⟩ | ⟨htext, hsome⟩
    · rfl
    · rcases exists_error_of_createDirectory htext hthere with ⟨error, hcreate, herror⟩
      rw [hcreate] at hsome
      rcases hsome with heq | ⟨heq, -⟩ | ⟨-, -, -, -, heq⟩
      · cases heq
      · exact absurd (Except.error.inj heq) herror
      · exact heq

/-- What is missing behind the path of a directory is missing where the names lead. -/
theorem eq_of_reach_missing (hopen : Open output o d) (hne : ns ≠ []) {p : Path} {k : Place}
    (hp : p.components = output.components ++ ns.map .name) :
    d.reach false p = .ok (.missing k) → k = o ++ ns := by
  intro hreach
  have hleads := (reach_eq_missing_iff.1 hreach).2.2
  rw [hp] at hleads
  rcases leads_below hopen hne hleads with heq | ⟨x, heq⟩
  · cases heq
    rfl
  · cases heq

/-- Making a directory below another one with those above it only makes directories on the way from
that one. -/
theorem makes_below (hopen : Open output o d) {fuel : Nat} (hns : ∀ n ∈ ns, Path.IsName n) {p : Path}
    (hp : p.components = output.components ++ ns.map .name) (hdown : ns ≠ [] → p = output.down ns) :
    d.createDirectoriesFrom fuel p = .ok e → Makes (fun k => ∃ ms, ms <+: ns ∧ k = o ++ ms) d e := by
  intro h
  induction fuel generalizing ns p e with
  | zero => cases h
  | succ fuel ih =>
    rcases List.eq_nil_or_concat ns with rfl | ⟨front, n, hlast⟩
    -- No name is left, so the directory itself is asked for, which is there.
    · have hthere : Leads d true linkLimit d.cwd p.components (.entry o .directory) := by
        rw [hp, List.map_nil, List.append_nil]
        exact (entry_eq_ok_iff.1 hopen.leads).2.2
      rw [eq_of_createDirectoriesFrom hthere h]
      exact .refl _ d
    · rw [List.concat_eq_append] at hlast
      subst hlast
      have hne : front ++ [n] ≠ [] := by simp
      have hfront : ∀ m ∈ front, Path.IsName m := fun m hm => hns m (by simp [hm])
      rcases Path.parent?_down output hfront (hns n (by simp)) with ⟨q, hparent, hq, hqdown⟩
      rw [← hdown hne] at hparent
      rcases createDirectoriesFrom_succ_eq_ok_iff.1 h with ⟨-, rfl⟩ | ⟨-, hcreate |
        ⟨-, q', above, hparent', habove, hensure⟩ | ⟨error, -, -, -, rfl⟩⟩
      · exact .refl _ e
      · exact (makes_of_createDirectory hcreate).1.mono fun k hk =>
          ⟨_, List.prefix_refl _, eq_of_reach_missing hopen hne hp hk⟩
      · rw [hparent] at hparent'
        cases hparent'
        -- The directory above is made first, which is the output directory or below it.
        have hmakes := ih hfront hq hqdown habove
        have hopen' := hmakes.below.adds.open hopen
        refine (hmakes.mono fun k ⟨ms, hms, hk⟩ => ⟨ms, hms.trans (List.prefix_append _ _), hk⟩).trans
          ((makes_of_ensureDirectory hensure).1.mono fun k hk => ?_)
        exact ⟨_, List.prefix_refl _, eq_of_reach_missing hopen' hne hp hk⟩
      · exact .refl _ e

/-! ## Writing files -/

section

variable {m : Place} {content : Content} {modified : Int}

theorem Unlinked.put (h : Unlinked o d) (hm : m ≠ []) :
    Unlinked o (d.put m (.file content modified)) := by
  intro k t hk hget
  by_cases hkm : m = k
  · subst hkm
    rw [get?_put_self d _ hm] at hget
    cases hget
  · rw [get?_put_of_ne d _ hkm] at hget
    exact h k t hk hget

theorem hasFile_put_iff (hm : m ≠ []) {k : Place} :
    HasFile (d.put m (.file content modified)) k ↔ HasFile d k ∨ k = m := by
  by_cases hkm : m = k
  · subst hkm
    simp [HasFile, get?_put_self d _ hm]
  · have hne : k ≠ m := Ne.symm hkm
    simp [HasFile, get?_put_of_ne d _ hkm, hne]

/-- The last name of a path that leads to a file of that name is the name of an entry. -/
theorem isEntryName_of_entry {p : Path} {n : String} (hn : .name n ∈ p.components) :
    d.entry p = .ok (l ++ [n], .file content modified) → IsEntryName n := by
  intro hentry
  rcases entry_eq_ok_iff.1 hentry with ⟨husable, -, hleads⟩
  rcases (hleads.get?_of_file rfl).2 with ⟨k, n', hplace, hshort⟩
  have hnn : n = n' := List.singleton_inj.1 (List.append_inj' hplace rfl).2
  exact ⟨Path.isName_of_mem_components hn, hnn ▸ hshort, fun hnul =>
    husable.plain (Path.mem_text_of_mem_components hn _ hnul)⟩

/-- Putting a file where a path below a directory leads adds it. -/
theorem adds_put (hopen : Open output o d) (hns : ∀ m ∈ ns, Path.IsName m) (hne : ns ≠ [])
    (hm : m ≠ []) (halike : ∀ y, d.get? m = some y → y.Alike (.file content modified))
    (hentry : (d.put m (.file content modified)).entry (output.down ns) =
      .ok (m, .file content modified)) :
    Adds o (· = output.down ns) d (d.put m (.file content modified)) := by
  have hext := extends_put hm halike
  have hat : FileAt (d.put m (.file content modified)) (output.down ns) m :=
    ⟨content, modified, hentry⟩
  -- The directory stays where it is, so the file is put below it.
  have hplace : m = o ++ ns := by
    refine place_of_entry_down ⟨?_, hopen.unlinked.put hm⟩ hns hentry
    rcases hext.entry hopen.leads with ⟨y, hy, hkind⟩
    cases hkind
    exact hy
  refine ⟨hext, fun k hk => ?_, fun hd => hd.put hm, fun hd => ?_, fun p hp => ⟨m, hp ▸ hat⟩,
    fun k => ?_⟩
  · refine get?_put_of_ne d _ ?_
    rintro rfl
    exact hk (hplace ▸ List.prefix_append o ns)
  · rcases List.eq_nil_or_concat ns with heq | ⟨front, n, heq⟩
    · exact absurd heq hne
    · rw [List.concat_eq_append] at heq
      subst heq
      rw [← List.append_assoc] at hplace
      subst hplace
      refine hd.put (isEntryName_of_entry ?_ hentry)
      rw [Path.components_down output hns]
      simp
  · rw [hasFile_put_iff hm]
    refine or_congr_right ⟨fun hk => ⟨_, rfl, hk ▸ hat⟩, ?_⟩
    rintro ⟨p, rfl, content', modified', hentry'⟩
    rw [hentry] at hentry'
    cases hentry'
    rfl

end

/-- Writing a file below a directory adds it. -/
theorem adds_of_writeAt (hopen : Open output o d) (hns : ∀ m ∈ ns, Path.IsName m) (hne : ns ≠ [])
    {content : Content} {modified : Int} :
    d.writeAt (output.down ns) content modified = .ok e → Adds o (· = output.down ns) d e := by
  intro h
  have hslash := Path.endsInSlash_down output hns hne
  rcases put_of_writeAt h with ⟨m, hm, rfl, halike, hentry⟩
  exact adds_put hopen hns hne hm halike (hentry hslash)

/-- Making the directories above a file only makes directories on the way there. -/
theorem makes_above (hopen : Open output o d) (hns : ∀ m ∈ ns, Path.IsName m) (hne : ns ≠ [])
    {dir : Path} (hdir : (output.down ns).parent? = some dir) :
    d.createDirectories dir = .ok e → Makes (fun k => ∃ ms, ms <+: ns ∧ k = o ++ ms) d e := by
  intro h
  rcases List.eq_nil_or_concat ns with heq | ⟨front, n, heq⟩
  · exact absurd heq hne
  · rw [List.concat_eq_append] at heq
    subst heq
    have hfront : ∀ m ∈ front, Path.IsName m := fun m hm => hns m (by simp [hm])
    rcases Path.parent?_down output hfront (hns n (by simp)) with ⟨q, hparent, hq, hqdown⟩
    rw [hparent] at hdir
    cases hdir
    refine (makes_below hopen hfront hq hqdown h).mono fun k ⟨ms, hms, hk⟩ => ?_
    exact ⟨ms, hms.trans (List.prefix_append front [n]), hk⟩

/-- Making the directories above a file and writing it adds the file. -/
theorem adds_of_makeRoom (hopen : Open output o d) (hns : ∀ m ∈ ns, Path.IsName m) (hne : ns ≠ [])
    {dir : Path} {d' : Disk} {content : Content} {modified : Int}
    (hdir : (output.down ns).parent? = some dir) (hmake : d.createDirectories dir = .ok d')
    (hwrite : d'.writeAt (output.down ns) content modified = .ok e) :
    Adds o (· = output.down ns) d e := by
  have hmakes : Makes (o <+: ·) d d' := (makes_above hopen hns hne hdir hmake).below
  have hwritten := adds_of_writeAt (hmakes.adds.open hopen) hns hne hwrite
  exact (hmakes.adds.trans hwritten).congr fun p => by simp

end Disk
end StaticBlog
