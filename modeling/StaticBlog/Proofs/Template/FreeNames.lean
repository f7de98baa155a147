import Mathlib.Data.List.Forall2
import StaticBlog.Template.Render

/-!
# What a page depends on

A template looks up the names that occur free in it and no others. Of the values found there it sees
how they are printed and tested, what is inside them, and which items they have.

- `Value.IsBisimulation` : a relation between values that no template tells apart
- `Node.freeNames` : the names that occur free in a part
- `Scope.Agree` : scopes in which some names lead to related values
- `Node.render_eq_of_agree` : in such scopes the text of a part is the same
- `Template.render_eq_of_eq_on_freeNames` : a page depends on the free names of its template alone
-/

namespace StaticBlog

/-! ## Optional values that are related -/

section

variable {α β : Type} {R : α → α → Prop} {S : β → β → Prop} {a b : Option α}

theorem optionRel_eq_iff : Option.Rel (· = ·) a b ↔ a = b := by
  constructor
  · intro h
    cases h with
    | some h => rw [h]
    | none => rfl
  · rintro rfl
    cases a with
    | some a => exact .some rfl
    | none => exact .none

theorem optionRel_bind {f g : α → Option β} (h : Option.Rel R a b)
    (hfg : ∀ x y, R x y → Option.Rel S (f x) (g y)) : Option.Rel S (a.bind f) (b.bind g) := by
  cases h with
  | some h => exact hfg _ _ h
  | none => exact .none

end

/-! ## Values that no template tells apart -/

namespace Value

/-- The items that a loop over a value runs through. -/
def items? : Value → Option (List Value)
  | .array items => some items
  | _ => none

/-- A relation between values that no template tells apart. Related values are printed and tested
alike, and what is found under a name in them and the items that they have are related again. -/
structure IsBisimulation (R : Value → Value → Prop) : Prop where
  text {v w : Value} (h : R v w) (dateFormat : String) (path : List String) :
    printed dateFormat path v = printed dateFormat path w
  truthy {v w : Value} (h : R v w) : v.isTruthy = w.isTruthy
  property {v w : Value} (h : R v w) (key : String) :
    Option.Rel R (v.property? key) (w.property? key)
  items {v w : Value} (h : R v w) : Option.Rel (List.Forall₂ R) v.items? w.items?

theorem isBisimulation_eq : IsBisimulation (· = ·) where
  text h _ _ := by rw [h]
  truthy h := by rw [h]
  property h key := optionRel_eq_iff.2 (by rw [h])
  items h := by
    rw [List.forall₂_eq_eq_eq]
    exact optionRel_eq_iff.2 (by rw [h])

/-- From related values a path leads to related values. -/
theorem IsBisimulation.lookup {R : Value → Value → Prop} (hR : IsBisimulation R) {v w : Value}
    (h : R v w) (path : List String) : Option.Rel R (v.lookup path) (w.lookup path) := by
  induction path generalizing v w with
  | nil => exact .some h
  | cons key path ih =>
    simp only [Value.lookup]
    exact optionRel_bind (hR.property h key) fun v w hvw => ih hvw

end Value

/-! ## Free names -/

namespace Node

mutual

/-- The names that occur free in a part: the first ones of its paths, but not the name of a loop in
the body of the loop. -/
def freeNames : Node → List String
  | .text _ => []
  | .print path _ => path.head?.toList
  | .loop item list _ body _ => list.head?.toList ++ (allFreeNames body).filter (· ≠ item)
  | .test path _ body _ => path.head?.toList ++ allFreeNames body

def allFreeNames : List Node → List String
  | [] => []
  | n :: ns => freeNames n ++ allFreeNames ns

end

end Node

/-- The names that occur free in a template. -/
def Template.freeNames (t : Template) : List String := Node.allFreeNames t.nodes

/-! ## Scopes that agree -/

/-- Scopes in which some names, and the paths that begin with them, lead to related values. -/
def Scope.Agree (R : Value → Value → Prop) (names : List String) (s s' : Scope) : Prop :=
  ∀ name ∈ names, ∀ path, Option.Rel R (s.resolve (name :: path)) (s'.resolve (name :: path))

variable {R : Value → Value → Prop} {names : List String} {s s' : Scope}

namespace Scope.Agree

theorem left {others : List String} (h : Agree R (names ++ others) s s') : Agree R names s s' :=
  fun name hname => h name (List.mem_append_left others hname)

theorem right {others : List String} (h : Agree R (others ++ names) s s') : Agree R names s s' :=
  fun name hname => h name (List.mem_append_right others hname)

theorem resolve {path : List String} (h : Agree R path.head?.toList s s') :
    Option.Rel R (s.resolve path) (s'.resolve path) := by
  cases path with
  | nil =>
    -- The empty path leads nowhere.
    have hnone : ∀ s : Scope, s.resolve [] = none := fun s => by cases s <;> rfl
    rw [hnone, hnone]
    exact .none
  | cons name path => exact h name (by simp) path

/-- In the body of a loop the scopes agree on the name of the loop as well. -/
theorem item (hR : Value.IsBisimulation R) {name : String} {v w : Value}
    (h : Agree R (names.filter (· ≠ name)) s s') (hvw : R v w) :
    Agree R names (.item s name v) (.item s' name w) := by
  intro key hkey path
  simp only [Scope.resolve]
  split
  · exact hR.lookup hvw path
  · next hne => exact h key (List.mem_filter.2 ⟨hkey, by simpa using hne⟩) path

end Scope.Agree

/-- Contexts in which the variables are related agree as scopes. -/
theorem Scope.agree_page (hR : Value.IsBisimulation R) {c c' : Context}
    (h : ∀ name ∈ names, Option.Rel R (c.get? name) (c'.get? name)) :
    Agree R names (.page c) (.page c') := by
  intro name hname path
  simp only [Scope.resolve, Context.resolve]
  exact optionRel_bind (h name hname) fun v w hvw => hR.lookup hvw path

/-! ## Texts in scopes that agree -/

namespace Node

/-- Over related arrays, bodies with the same text for related items make the same text. -/
theorem flatMap_eq_of_forall₂ {f g : Value → List Char} {items items' : List Value}
    (h : List.Forall₂ R items items') (hfg : ∀ v w, R v w → f v = g w) :
    items.flatMap f = items'.flatMap g := by
  induction h with
  | nil => rfl
  | cons hvw _ ih => rw [List.flatMap_cons, List.flatMap_cons, hfg _ _ hvw, ih]

theorem render_loop (dateFormat : String) (s : Scope) (item : String) (list : List String)
    (opener : List Char) (body : List Node) (close : List Char) :
    render dateFormat s (.loop item list opener body close) =
      (((s.resolve list).bind Value.items?).getD []).flatMap fun v =>
        renderAll dateFormat (.item s item v) body := by
  rw [render]
  cases s.resolve list with
  | none => rfl
  | some v => cases v <;> rfl

mutual

/-- The text of a part depends on what its free names lead to, and of that on no more than related
values have in common. -/
theorem render_eq_of_agree (hR : Value.IsBisimulation R) (dateFormat : String) :
    ∀ (n : Node) {s s' : Scope}, Scope.Agree R n.freeNames s s' →
      render dateFormat s n = render dateFormat s' n
  | .text _, _, _, _ => by simp only [render]
  | .print path _, s, s', h => by
    rw [freeNames] at h
    have hvalues := h.resolve
    simp only [render]
    generalize s.resolve path = a, s'.resolve path = b at hvalues
    cases hvalues with
    | some hvw => exact hR.text hvw dateFormat path
    | none => rfl
  | .loop item list _ body _, s, s', h => by
    rw [freeNames] at h
    -- The array is looked up outside of the loop, its items are seen inside.
    have hitems := optionRel_bind h.left.resolve fun v w hvw => hR.items hvw
    have hbody : ∀ v w, R v w → renderAll dateFormat (.item s item v) body =
        renderAll dateFormat (.item s' item w) body :=
      fun v w hvw => renderAll_eq_of_agree hR dateFormat body (h.right.item hR hvw)
    rw [render_loop, render_loop]
    generalize (s.resolve list).bind Value.items? = a, (s'.resolve list).bind Value.items? = b
      at hitems
    cases hitems with
    | some hvws => exact flatMap_eq_of_forall₂ hvws hbody
    | none => rfl
  | .test path _ body _, s, s', h => by
    rw [freeNames] at h
    have hvalues := h.left.resolve
    have hbody := renderAll_eq_of_agree hR dateFormat body h.right
    simp only [render, hbody]
    generalize s.resolve path = a, s'.resolve path = b at hvalues
    cases hvalues with
    | some hvw => simp only [hR.truthy hvw]
    | none => rfl

theorem renderAll_eq_of_agree (hR : Value.IsBisimulation R) (dateFormat : String) :
    ∀ (ns : List Node) {s s' : Scope}, Scope.Agree R (allFreeNames ns) s s' →
      renderAll dateFormat s ns = renderAll dateFormat s' ns
  | [], _, _, _ => by simp only [renderAll]
  | n :: ns, s, s', h => by
    rw [allFreeNames] at h
    simp only [renderAll, render_eq_of_agree hR dateFormat n h.left,
      renderAll_eq_of_agree hR dateFormat ns h.right]

end

end Node

/-! ## Pages -/

namespace Template

/-- Contexts in which the free names of a template have related values make the same page. -/
theorem render_eq_of_related (hR : Value.IsBisimulation R) (t : Template) (dateFormat : String)
    {c c' : Context} (h : ∀ name ∈ t.freeNames, Option.Rel R (c.get? name) (c'.get? name)) :
    t.render c dateFormat = t.render c' dateFormat := by
  have hnodes := Node.renderAll_eq_of_agree hR dateFormat t.nodes (Scope.agree_page hR h)
  rw [render, render, hnodes]

/-- A page depends on the free names of its template alone: contexts that give equal values to them
make the same page. -/
theorem render_eq_of_eq_on_freeNames (t : Template) (dateFormat : String) (c c' : Context)
    (h : ∀ name ∈ t.freeNames, c.get? name = c'.get? name) :
    t.render c dateFormat = t.render c' dateFormat :=
  t.render_eq_of_related Value.isBisimulation_eq dateFormat fun name hname =>
    optionRel_eq_iff.2 (h name hname)

/-- A source with a loop that hides a variable of the page, and a path inside the items. -/
def overview : String :=
  "\x7b% for p in posts %\x7d[\x7b\x7b p.title \x7d\x7d]\x7b% endfor %\x7d\x7b\x7b name \x7d\x7d"

/-- The page does not show the variable that the loop hides, nor any other that the source does not
name. -/
theorem overview_without_hidden_variable :
    let t := parse overview
    let posts : Value := .array [.object [("title", .string "A")], .object [("title", .string "B")]]
    let c : Context := ⟨[("posts", posts), ("name", .string "Blog"), ("p", .string "hidden")]⟩
    let c' : Context := ⟨[("name", .string "Blog"), ("title", .string "C"), ("posts", posts)]⟩
    (∀ name ∈ t.freeNames, c.get? name = c'.get? name) ∧
      t.render c "" = t.render c' "" ∧ t.render c' "" = "[A][B]Blog" := by
  intro t posts c c'
  have hnames : t.freeNames = ["posts", "name"] := by decide +kernel
  have hsame : ∀ name ∈ t.freeNames, c.get? name = c'.get? name := by
    rw [hnames]
    intro name hname
    rcases List.mem_cons.1 hname with rfl | hname
    · rfl
    · rw [List.mem_singleton.1 hname]
      rfl
  exact ⟨hsame, render_eq_of_eq_on_freeNames t "" c c' hsame, by decide +kernel⟩

end Template
end StaticBlog
