import StaticBlog.Yaml.Value

/-!
# YAML values that have a form as JSON

- `Yaml.IsMemberName` : what can be the name of a member
- `Yaml.Representable` : values all of whose keys, at any depth, can be names of members
- `Yaml.exists_toJson_iff` : those are the values that have a form as JSON
- `Yaml.exists_fieldsToJson_iff` : the same for the fields of a record
-/

namespace StaticBlog
namespace Yaml

/-- What can be the name of a member: text, a truth value or a finite number. -/
def IsMemberName : Yaml → Prop
  | .string _ => True
  | .bool _ => True
  | .number (.int _) => True
  | .number (.float x) => x.isFinite = true
  | _ => False

/-- A value in which the keys of every mapping, at any depth, can be names of members. -/
inductive Representable : Yaml → Prop
  | null : Representable .null
  | bool (b : Bool) : Representable (.bool b)
  | number (n : Numeral) : Representable (.number n)
  | string (s : String) : Representable (.string s)
  | sequence {items : List Yaml} : (∀ v ∈ items, Representable v) → Representable (.sequence items)
  | mapping {pairs : List (Yaml × Yaml)} :
      (∀ p ∈ pairs, IsMemberName p.1) → (∀ p ∈ pairs, Representable p.2) →
        Representable (.mapping pairs)
  | tagged (tag : String) {v : Yaml} : Representable v → Representable (.tagged tag v)

/-! ## Steps that may fail -/

theorem exists_ok_bind_iff {ε α β : Type} {a : Except ε α} {f : α → Except ε β} :
    (∃ b, a >>= f = .ok b) ↔ ∃ x, a = .ok x ∧ ∃ b, f x = .ok b := by
  cases a with
  | error e => simp [Bind.bind, Except.bind]
  | ok x => simp [Bind.bind, Except.bind]

theorem exists_ok_pure {ε α : Type} (a : α) : ∃ b, (pure a : Except ε α) = .ok b := ⟨a, rfl⟩

theorem exists_memberName_iff (k : Yaml) : (∃ name, memberName k = .ok name) ↔ IsMemberName k := by
  cases k with
  | number n =>
    cases n with
    | int n => simp [memberName, IsMemberName]
    | float x => by_cases hx : x.isFinite = true <;> simp [memberName, IsMemberName, hx]
  | _ => simp [memberName, IsMemberName]

/-! ## The values with a form as JSON -/

mutual

/-- The values that have a form as JSON are those whose keys can all be names of members. -/
theorem exists_toJson_iff : ∀ v : Yaml, (∃ j, v.toJson = .ok j) ↔ v.Representable
  | .null => ⟨fun _ => .null, fun _ => ⟨.null, rfl⟩⟩
  | .bool b => ⟨fun _ => .bool b, fun _ => ⟨.bool b, rfl⟩⟩
  | .number n => by
    refine ⟨fun _ => .number n, fun _ => ?_⟩
    cases n with
    | int n => exact ⟨_, rfl⟩
    | float x => exact ⟨_, rfl⟩
  | .string s => ⟨fun _ => .string s, fun _ => ⟨.string s, rfl⟩⟩
  | .sequence items => by
    have hitems := exists_itemsToJson_iff items
    constructor
    · intro h
      rw [toJson, exists_ok_bind_iff] at h
      rcases h with ⟨js, hjs, -⟩
      exact .sequence (hitems.1 ⟨js, hjs⟩)
    · intro h
      cases h with
      | sequence hall =>
        rcases hitems.2 hall with ⟨js, hjs⟩
        exact ⟨.array js, by simp [toJson, hjs, Bind.bind, Except.bind, pure, Except.pure]⟩
  | .mapping pairs => by
    -- A mapping needs names for its keys as well as forms for its values.
    have hpairs := exists_pairsToJson_iff pairs
    constructor
    · intro h
      rw [toJson, exists_ok_bind_iff] at h
      rcases h with ⟨ms, hms, -⟩
      have hall := hpairs.1 ⟨ms, hms⟩
      exact .mapping (fun p hp => (hall p hp).1) (fun p hp => (hall p hp).2)
    · intro h
      cases h with
      | mapping hkeys hvalues =>
        rcases hpairs.2 fun p hp => ⟨hkeys p hp, hvalues p hp⟩ with ⟨ms, hms⟩
        exact ⟨.object (Dict.ofEntries ms),
          by simp [toJson, hms, Bind.bind, Except.bind, pure, Except.pure]⟩
  | .tagged tag v => by
    have hv := exists_toJson_iff v
    constructor
    · intro h
      rw [toJson, exists_ok_bind_iff] at h
      rcases h with ⟨j, hj, -⟩
      exact .tagged tag (hv.1 ⟨j, hj⟩)
    · intro h
      cases h with
      | tagged _ hall =>
        rcases hv.2 hall with ⟨j, hj⟩
        exact ⟨_, by simp [toJson, hj, Bind.bind, Except.bind, pure, Except.pure]; rfl⟩

theorem exists_itemsToJson_iff :
    ∀ vs : List Yaml, (∃ js, itemsToJson vs = .ok js) ↔ ∀ v ∈ vs, v.Representable
  | [] => by simp [itemsToJson]
  | v :: vs => by
    have hhead := exists_toJson_iff v
    have htail := exists_itemsToJson_iff vs
    rw [itemsToJson, exists_ok_bind_iff, List.forall_mem_cons, ← hhead, ← htail]
    simp only [exists_ok_bind_iff, exists_ok_pure, and_true]
    exact ⟨fun ⟨j, hj, hjs⟩ => ⟨⟨j, hj⟩, hjs⟩, fun ⟨⟨j, hj⟩, hjs⟩ => ⟨j, hj, hjs⟩⟩

theorem exists_pairsToJson_iff :
    ∀ ps : List (Yaml × Yaml), (∃ ms, pairsToJson ps = .ok ms) ↔
      ∀ p ∈ ps, p.1.IsMemberName ∧ p.2.Representable
  | [] => by simp [pairsToJson]
  | (k, v) :: ps => by
    have hname := exists_memberName_iff k
    have hvalue := exists_toJson_iff v
    have htail := exists_pairsToJson_iff ps
    rw [pairsToJson, exists_ok_bind_iff, List.forall_mem_cons, ← htail]
    simp only [exists_ok_bind_iff, exists_ok_pure, and_true, ← hname, ← hvalue]
    constructor
    · rintro ⟨name, hn, j, hj, hms⟩
      exact ⟨⟨⟨name, hn⟩, ⟨j, hj⟩⟩, hms⟩
    · rintro ⟨⟨⟨name, hn⟩, ⟨j, hj⟩⟩, hms⟩
      exact ⟨name, hn, j, hj, hms⟩

end

/-- Fields have a form as JSON together exactly if each of them has one. -/
theorem exists_fieldsToJson_iff (fs : Dict Yaml) :
    (∃ js, fieldsToJson fs = .ok js) ↔ ∀ f ∈ fs, f.2.Representable := by
  induction fs with
  | nil => simp [fieldsToJson]
  | cons f fs ih =>
    rcases f with ⟨name, v⟩
    have hhead := exists_toJson_iff v
    rw [fieldsToJson, exists_ok_bind_iff, List.forall_mem_cons, ← hhead, ← ih]
    simp only [exists_ok_bind_iff, exists_ok_pure, and_true]
    exact ⟨fun ⟨j, hj, hjs⟩ => ⟨⟨j, hj⟩, hjs⟩, fun ⟨⟨j, hj⟩, hjs⟩ => ⟨j, hj, hjs⟩⟩

theorem isOk_fieldsToJson_iff (fs : Dict Yaml) :
    (fieldsToJson fs).isOk = true ↔ ∀ f ∈ fs, f.2.Representable := by
  rw [← exists_fieldsToJson_iff]
  cases fieldsToJson fs with
  | error e => simp [Except.isOk, Except.toBool]
  | ok js => simp [Except.isOk, Except.toBool]

theorem fieldsToJson_cons_eq_ok_iff {f : String × Yaml} {fs : Dict Yaml} {js : Dict Json} :
    fieldsToJson (f :: fs) = .ok js ↔
      ∃ j rest, f.2.toJson = .ok j ∧ fieldsToJson fs = .ok rest ∧ js = (f.1, j) :: rest := by
  rw [fieldsToJson]
  cases f.2.toJson with
  | error e => simp [Bind.bind, Except.bind]
  | ok j =>
    cases fieldsToJson fs with
    | error e => simp [Bind.bind, Except.bind]
    | ok rest => simp [Bind.bind, Except.bind, pure, Except.pure, eq_comm]

theorem keys_of_fieldsToJson {fs : Dict Yaml} {js : Dict Json} :
    fieldsToJson fs = .ok js → js.keys = fs.keys := by
  intro h
  induction fs generalizing js with
  | nil =>
    cases h
    rfl
  | cons f fs ih =>
    rcases fieldsToJson_cons_eq_ok_iff.1 h with ⟨j, rest, -, hrest, rfl⟩
    exact congrArg (f.1 :: ·) (ih hrest)

end Yaml
end StaticBlog
