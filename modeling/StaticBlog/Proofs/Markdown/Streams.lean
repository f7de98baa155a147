import Mathlib.Data.List.ReduceOption
import StaticBlog.Proofs.Markdown.Headings
import StaticBlog.Proofs.Markdown.OutlineShape

/-!
# The events of a text

- `nested_events` : in the events of any text every part ends where it has to
- `CodeBlock` : a block of code as it stands in a stream
- `Gapped` : a stream, its blocks of code, and what is left when these are taken out
- `exists_gapped_events` : the code of any text can be taken out
-/

namespace StaticBlog
namespace Markdown

/-! ## Nesting -/

theorem within_append (tag : Tag) (inner es : List Event) :
    within tag inner ++ es = .enter tag :: (inner ++ .leave tag :: es) := by
  simp [within]

/-- What stays true when the events of a node are put in front stays so with those of more nodes. -/
theorem allEvents_induction {P : List Event → Prop} {ns : List Node} {es : List Event}
    (hns : ∀ n ∈ ns, ∀ {es}, P es → P (n.events ++ es)) (h : P es) :
    P (Node.allEvents ns ++ es) := by
  induction ns with
  | nil => exact h
  | cons n ns ih =>
    rcases List.forall_mem_cons.1 hns with ⟨hn, hns⟩
    rw [Node.allEvents, List.append_assoc]
    exact hn (ih hns)

theorem isLeaf_event (token : Token) (span : Span) : (token.event span).isLeaf = true := by
  cases token with
  | lineBreak manner => cases manner <;> rfl
  | _ => rfl

theorem isHeading_tag {kind : Part} (h : kind.isFree = true) : kind.tag.isHeading = false := by
  cases kind with
  | heading level => cases h
  | _ => rfl

section Nesting

variable {inside : List Tag} {es : List Event} {n : Node}

/-- What nests by itself does so inside a part that is no heading. -/
theorem Nested.within {tag : Tag} {inner : List Event} (htag : tag.isHeading = false)
    (hinner : ∀ {es}, Nested (tag :: inside) es → Nested (tag :: inside) (inner ++ es))
    (h : Nested inside es) : Nested inside (Markdown.within tag inner ++ es) := by
  rw [within_append]
  exact .enter (fun hheading => by rw [htag] at hheading; cases hheading) (hinner (.leave h))

theorem Node.IsLeaf.nested (hn : n.IsLeaf) (h : Nested inside es) :
    Nested inside (n.events ++ es) := by
  cases n with
  | leaf span token =>
    rw [Node.events]
    exact .leaf (isLeaf_event token span) h
  | part => exact absurd hn id

/-- Running text holds no headings, and so it may stand anywhere. -/
theorem Node.Inline.nested (hn : n.Inline) (h : Nested inside es) :
    Nested inside (n.events ++ es) := by
  induction hn generalizing inside es with
  | leaf span token => exact Node.IsLeaf.nested trivial h
  | part hkind hbody ih =>
    rw [Node.events]
    exact .within (isHeading_tag (Part.isFree_of_isInline hkind))
      (fun h => allEvents_induction (fun n hn _ h => ih n hn h) h) h

theorem Node.WellShaped.nested (hn : n.WellShaped) (hinside : ∀ t ∈ inside, t.isHeading = false)
    (h : Nested inside es) : Nested inside (n.events ++ es) := by
  -- Below a heading there is only running text, so that no heading is ever inside another.
  induction hn generalizing inside es with
  | leaf span token => exact Node.IsLeaf.nested trivial h
  | code hbody =>
    rw [Node.events]
    exact .within rfl
      (fun h => allEvents_induction (fun n hn _ h => (hbody n hn).isLeaf.nested h) h) h
  | heading hbody =>
    rw [Node.events, within_append]
    exact .enter (fun _ => hinside)
      (allEvents_induction (fun n hn _ h => (hbody n hn).nested h) (.leave h))
  | free hkind hbody ih =>
    have htag := isHeading_tag hkind
    rw [Node.events]
    exact .within htag (fun h => allEvents_induction
      (fun n hn _ h => ih n hn (List.forall_mem_cons.2 ⟨htag, hinside⟩) h) h) h

end Nesting

/-- In the events of a text every part ends where it has to, and no heading begins in another. -/
theorem nested_events (text : List Char) : Nested [] (events text) := by
  have h : Nested [] (Node.allEvents (blocks text) ++ []) :=
    allEvents_induction
      (fun n hn _ h => (wellShaped_blocks text n hn).nested (List.forall_mem_nil _) h) .done
  rwa [List.append_nil] at h

/-! ## Code -/

/-- A block of code in a stream: the text behind its fence, if it has one, and its text, which comes
in pieces. -/
structure CodeBlock where
  info : Option (List Char)
  texts : List (List Char)

namespace CodeBlock

def events (b : CodeBlock) : List Event := within (.code b.info) (b.texts.map .text)

/-- The language of a block, if it has one. -/
def language (b : CodeBlock) : Option String := languageOf b.info

/-- The text of a block. -/
def code (b : CodeBlock) : String := String.ofList b.texts.flatten

end CodeBlock

/-- Whether code begins or ends here. -/
def Event.boundsCode : Event → Bool
  | .enter (.code _) | .leave (.code _) => true
  | _ => false

/-- A stream with its blocks of code, and with what is left when a gap is put in the place of each.
-/
inductive Gapped : List Event → List CodeBlock → List (Option Event) → Prop
  | done : Gapped [] [] []
  | block (b : CodeBlock) {es : List Event} {bs : List CodeBlock} {gs : List (Option Event)}
      (rest : Gapped es bs gs) : Gapped (b.events ++ es) (b :: bs) (none :: gs)
  | event {e : Event} (he : e.boundsCode = false) {es : List Event} {bs : List CodeBlock}
      {gs : List (Option Event)} (rest : Gapped es bs gs) : Gapped (e :: es) bs (some e :: gs)

/-- Whether the code in a stream can be taken out. -/
def HasGaps (es : List Event) : Prop := ∃ bs gs, Gapped es bs gs

namespace HasGaps

variable {es : List Event} {n : Node}

theorem event {e : Event} (he : e.boundsCode = false) (h : HasGaps es) : HasGaps (e :: es) := by
  obtain ⟨bs, gs, h⟩ := h
  exact ⟨bs, some e :: gs, .event he h⟩

theorem block (b : CodeBlock) (h : HasGaps es) : HasGaps (b.events ++ es) := by
  obtain ⟨bs, gs, h⟩ := h
  exact ⟨b :: bs, none :: gs, .block b h⟩

theorem within {tag : Tag} {inner : List Event} (hopen : (Event.enter tag).boundsCode = false)
    (hclose : (Event.leave tag).boundsCode = false)
    (hinner : ∀ {es}, HasGaps es → HasGaps (inner ++ es)) (h : HasGaps es) :
    HasGaps (Markdown.within tag inner ++ es) := by
  rw [within_append]
  exact .event hopen (hinner (.event hclose h))

theorem leaf (token : Token) (span : Span) (h : HasGaps es) :
    HasGaps ((Node.leaf span token).events ++ es) := by
  have hevent : (token.event span).boundsCode = false := by
    cases token with
    | lineBreak manner => cases manner <;> rfl
    | _ => rfl
  rw [Node.events]
  exact .event hevent h

end HasGaps

theorem boundsCode_tag {kind : Part} (h : ∀ info, kind ≠ .code info) :
    (Event.enter kind.tag).boundsCode = false ∧ (Event.leave kind.tag).boundsCode = false := by
  cases kind with
  | code info => exact absurd rfl (h info)
  | _ => exact ⟨rfl, rfl⟩

theorem ne_code_of_isFree {kind : Part} (h : kind.isFree = true) (info : Option (List Char)) :
    kind ≠ .code info := by
  rintro rfl
  cases h

/-- Code tells its text, piece by piece. -/
theorem exists_texts_of_isText {ns : List Node} (h : All Node.IsText ns) :
    ∃ texts : List (List Char), Node.allEvents ns = texts.map .text := by
  induction ns with
  | nil => exact ⟨[], rfl⟩
  | cons n ns ih =>
    rcases List.forall_mem_cons.1 h with ⟨hn, hns⟩
    obtain ⟨texts, htexts⟩ := ih hns
    have hnode : ∃ s, n.events = [.text s] := by
      cases n with
      | part => exact absurd hn id
      | leaf span token =>
        cases token with
        | text => exact ⟨_, by rw [Node.events]; rfl⟩
        | literal s => exact ⟨_, by rw [Node.events]; rfl⟩
        | _ => exact absurd hn id
    obtain ⟨s, hs⟩ := hnode
    exact ⟨s :: texts, by rw [Node.allEvents, hs, htexts]; rfl⟩

section Gaps

variable {es : List Event} {n : Node}

theorem Node.Inline.hasGaps (hn : n.Inline) (h : HasGaps es) : HasGaps (n.events ++ es) := by
  induction hn generalizing es with
  | leaf span token => exact .leaf token span h
  | part hkind hbody ih =>
    have htag := boundsCode_tag (ne_code_of_isFree (Part.isFree_of_isInline hkind))
    rw [Node.events]
    exact .within htag.1 htag.2 (allEvents_induction fun n hn _ h => ih n hn h) h

theorem Node.WellShaped.hasGaps (hn : n.WellShaped) (h : HasGaps es) :
    HasGaps (n.events ++ es) := by
  induction hn generalizing es with
  | leaf span token => exact .leaf token span h
  | @code span info body hbody =>
    obtain ⟨texts, htexts⟩ := exists_texts_of_isText hbody
    rw [Node.events, htexts]
    exact .block ⟨info, texts⟩ h
  | heading hbody =>
    rw [Node.events]
    exact .within rfl rfl (allEvents_induction fun n hn _ h => (hbody n hn).hasGaps h) h
  | free hkind hbody ih =>
    have htag := boundsCode_tag (ne_code_of_isFree hkind)
    rw [Node.events]
    exact .within htag.1 htag.2 (allEvents_induction fun n hn _ h => ih n hn h) h

end Gaps

/-- In the events of a text blocks of code hold nothing but text, and so they can be taken out. -/
theorem exists_gapped_events (text : List Char) : ∃ bs gs, Gapped (events text) bs gs := by
  have h : HasGaps (Node.allEvents (blocks text) ++ []) :=
    allEvents_induction (fun n hn _ h => (wellShaped_blocks text n hn).hasGaps h)
      ⟨[], [], .done⟩
  rwa [List.append_nil] at h

end Markdown
end StaticBlog
