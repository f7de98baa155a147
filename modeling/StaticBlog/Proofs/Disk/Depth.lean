import StaticBlog.Proofs.Disk.Soundness

/-!
# How deep a walk goes

A walk goes into a directory that is another entry of the disk, or it follows a link, of which a path
may hold only so many. So it ends before its fuel does.

- `Disk.Room` : there is fuel enough for a walk through a directory
- `Disk.room_depthLimit`, `Disk.Room.join` : there is at the start, and at each step
- `Disk.walk_congr` : sound disks that look the same below a path have the same walk there
-/

namespace StaticBlog
namespace Disk

variable {d e : Disk} {l m : Place} {n : String} {path p : Path} {fuel fuel' : Nat}

/-- The entries below a place. -/
def entriesBelow (d : Disk) (l : Place) : List (Place × Entry) :=
  d.entries.filter fun x => l <+: x.1 ∧ x.1 ≠ l

theorem mem_entriesBelow_iff {x : Place × Entry} :
    x ∈ d.entriesBelow l ↔ x ∈ d.entries ∧ l <+: x.1 ∧ x.1 ≠ l := by
  simp [entriesBelow]

theorem length_entriesBelow_le (d : Disk) (l : Place) :
    (d.entriesBelow l).length ≤ d.entries.length := List.length_filter_le _ _

/-- Below an entry of a directory there are fewer entries than below the directory. -/
theorem length_entriesBelow_lt (h : d.get? (l ++ [n]) ≠ none) :
    (d.entriesBelow (l ++ [n])).length < (d.entriesBelow l).length := by
  rw [get?, if_neg (by simp), find?_ne_none_iff] at h
  rcases h with ⟨x, hmem⟩
  have hfilter : d.entriesBelow (l ++ [n]) =
      (d.entriesBelow l).filter fun x => l ++ [n] <+: x.1 ∧ x.1 ≠ l ++ [n] := by
    rw [entriesBelow, entriesBelow, List.filter_filter]
    refine List.filter_congr fun y _ => ?_
    -- What is below the entry is below the directory.
    have habove : l ++ [n] <+: y.1 → l <+: y.1 ∧ y.1 ≠ l := by
      intro hbelow
      refine ⟨(List.prefix_append l [n]).trans hbelow, fun heq => ?_⟩
      have hlength := hbelow.length_le
      rw [heq, List.length_append, List.length_singleton] at hlength
      omega
    rw [← Bool.decide_and]
    exact decide_eq_decide.2 ⟨fun hy => ⟨hy, habove hy.1⟩, fun hy => hy.1⟩
  have hself : (l ++ [n], x) ∈ d.entriesBelow l :=
    mem_entriesBelow_iff.2 ⟨hmem, List.prefix_append l [n], by simp⟩
  rw [hfilter, List.length_filter_lt_length_iff_exists]
  exact ⟨_, hself, by simp⟩

/-- There is fuel enough for a walk through the directory that a path leads to, whose way there leaves
`left` links that may be followed. -/
def Room (d : Disk) (fuel : Nat) (path : Path) (l : Place) : Prop :=
  ∃ left, left * (d.entries.length + 1) + (d.entriesBelow l).length < fuel ∧
    ∀ ahead rest, rest ≠ [] →
      d.follow ahead linkLimit d.cwd (path.components ++ rest) = d.follow ahead left l rest

theorem not_room_zero : ¬ Room d 0 path l := by
  rintro ⟨left, hroom, -⟩
  exact Nat.not_lt_zero _ hroom

/-- At the start there is. -/
theorem room_depthLimit (h : d.entry path = .ok (l, .directory)) : Room d d.depthLimit path l := by
  rcases (entry_eq_ok_iff.1 h).2.2.follow_append rfl with ⟨left, hle, hleft⟩
  refine ⟨left, ?_, hleft⟩
  have hcount := length_entriesBelow_le d l
  calc left * (d.entries.length + 1) + (d.entriesBelow l).length
      ≤ linkLimit * (d.entries.length + 1) + d.entries.length :=
        Nat.add_le_add (Nat.mul_le_mul_right _ hle) hcount
    _ < (linkLimit + 1) * (d.entries.length + 1) := by
        rw [Nat.succ_mul]
        omega

/-- A step of a walk goes into an entry of the directory, or follows a link. -/
theorem Room.join (h : Room d (fuel + 1) path l) (hn : Path.IsName n)
    (hentry : d.entry (path.join n) = .ok (m, .directory)) : Room d fuel (path.join n) m := by
  rcases h with ⟨left, hroom, hleft⟩
  have hleads := (entry_eq_ok_iff.1 hentry).2.2
  rw [Path.components_join path hn, ← follow_eq_ok_iff, hleft true _ (by simp),
    follow_eq_ok_iff] at hleads
  -- The way to the entry is the way to the directory with one more name.
  have hcomponents : ∀ ahead rest, rest ≠ [] →
      d.follow ahead linkLimit d.cwd ((path.join n).components ++ rest) =
        d.follow ahead left l (.name n :: rest) := by
    intro ahead rest _
    rw [Path.components_join path hn, List.append_assoc, List.singleton_append]
    exact hleft ahead _ (by simp)
  cases hleads with
  | directory hshort hget hdone =>
    cases hdone
    have hless : (d.entriesBelow (l ++ [n])).length < (d.entriesBelow l).length :=
      length_entriesBelow_lt (by simp [hget])
    refine ⟨left, by omega, fun ahead rest hrest => ?_⟩
    rw [hcomponents ahead rest hrest, follow_name_directory hshort hget]
  | @link links _ _ target _ _ hon hshort hget htarget =>
    rw [List.append_nil] at htarget
    rcases htarget.follow_append rfl with ⟨left', hle, hleft'⟩
    refine ⟨left', ?_, fun ahead rest hrest => ?_⟩
    · -- One link less is left, which makes up for all entries.
      have hcount := length_entriesBelow_le d m
      have hmul := Nat.mul_le_mul_right (d.entries.length + 1) hle
      rw [Nat.succ_mul] at hroom
      omega
    · rw [hcomponents ahead rest hrest, follow_name_link hshort hget (Or.inl hrest)]
      exact hleft' ahead rest hrest

/-! ## Walks through disks that look the same -/

theorem SameBelow.trail_eq (h : SameBelow d e p) {ns : List String}
    (hns : ∀ n ∈ ns, Path.IsName n) : e.trail (p.down ns) = d.trail (p.down ns) :=
  trail_congr h.cwd (h.get? ns hns)

theorem SameBelow.names (h : SameBelow d e p) (hd : Sound d) (he : Sound e)
    (hl : d.entry p = .ok (l, .directory)) : e.names l = d.names l := by
  refine names_congr hd he fun n => ?_
  by_cases hn : IsEntryName n
  · rw [h.get?_name hl hn]
  · -- No entry has another name.
    exact iff_of_false (fun hget => hn (he.proper l n hget)) fun hget => hn (hd.proper l n hget)

theorem SameBelow.holdsLink (h : SameBelow d e p) (hl : d.entry p = .ok (l, .directory))
    (hn : IsEntryName n) : e.holdsLink (l ++ [n]) = d.holdsLink (l ++ [n]) := by
  rw [Disk.holdsLink, Disk.holdsLink, h.get?_name hl hn]

/-- Sound disks that look the same below a path have the same walk there, whatever fuel there is. -/
theorem walkFrom_congr {above : List Place} (hd : Sound d) (he : Sound e)
    (hsame : SameBelow d e path) (hl : d.entry path = .ok (l, .directory))
    (hroom : Room d fuel path l) (hroom' : Room e fuel' path l) :
    e.walkFrom fuel' above path l = d.walkFrom fuel above path l := by
  induction fuel generalizing fuel' above path l with
  | zero => exact absurd hroom not_room_zero
  | succ fuel ih =>
    cases fuel' with
    | zero => exact absurd hroom' not_room_zero
    | succ fuel' =>
      have hl' : e.entry path = .ok (l, .directory) := by rw [hsame.entry_self, hl]
      rw [walkFrom_succ hd.proper hl, walkFrom_succ he.proper hl', hsame.names hd he hl]
      refine List.flatMap_congr fun n hn => ?_
      have hname : IsEntryName n := hd.proper l n (mem_names_iff.1 hn)
      have hjoin := hsame.join hname.isName
      rw [hsame.holdsLink hl hname]
      -- Both walks find the same at the name, and go on below it if that is a directory.
      cases hentry : d.entry (path.join n) with
      | error error => rw [stepsAt, stepsAt, hjoin.entry_self, hentry]
      | ok found =>
        rcases found with ⟨m, x⟩
        cases x with
        | file content modified => rw [stepsAt, stepsAt, hjoin.entry_self, hentry]
        | link t => rw [stepsAt, stepsAt, hjoin.entry_self, hentry]
        | directory =>
          have hentry' : e.entry (path.join n) = .ok (m, .directory) := by
            rw [hjoin.entry_self, hentry]
          have hrest : e.walkFrom fuel' (m :: above) (path.join n) m =
              d.walkFrom fuel (m :: above) (path.join n) m :=
            ih hjoin hentry (hroom.join hname.isName hentry) (hroom'.join hname.isName hentry')
          simp only [stepsAt, hentry, hentry', hrest]

theorem walk_congr (hd : Sound d) (he : Sound e) (hsame : SameBelow d e p) :
    e.walk p = d.walk p := by
  rw [walk, walk, hsame.entry_self]
  cases hentry : d.entry p with
  | error error => rfl
  | ok found =>
    rcases found with ⟨l, x⟩
    cases x with
    | file content modified => rfl
    | link target => rfl
    | directory =>
      have hentry' : e.entry p = .ok (l, .directory) := by rw [hsame.entry_self, hentry]
      exact walkFrom_congr hd he hsame hentry (room_depthLimit hentry) (room_depthLimit hentry')

end Disk
end StaticBlog
