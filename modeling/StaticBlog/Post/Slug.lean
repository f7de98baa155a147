import StaticBlog.Text.Classes

/-!
# Slugs from file names

- `deriveSlug` : a file stem without the dates in front of it
-/

namespace StaticBlog

/-- Whether the first eleven characters are a date and a dash. -/
def isDateDash (y₁ y₂ y₃ y₄ s₁ m₁ m₂ s₂ d₁ d₂ s₃ : Char) : Bool :=
  [y₁, y₂, y₃, y₄, m₁, m₂, d₁, d₂].all Text.isDecimalDigit && [s₁, s₂, s₃].all (· = '-')

/-- Whether a text may follow a date: it has characters, and no line feed among them. -/
def isSlugRest (s : List Char) : Bool := !s.isEmpty && s.all (· ≠ '\n')

/-- A stem without the dates in front of it. A date comes off only if something follows it, so the
slug of a slug is itself. -/
def deriveSlugChars : List Char → List Char
  | y₁ :: y₂ :: y₃ :: y₄ :: s₁ :: m₁ :: m₂ :: s₂ :: d₁ :: d₂ :: s₃ :: rest =>
    if isDateDash y₁ y₂ y₃ y₄ s₁ m₁ m₂ s₂ d₁ d₂ s₃ && isSlugRest rest then deriveSlugChars rest
    else y₁ :: y₂ :: y₃ :: y₄ :: s₁ :: m₁ :: m₂ :: s₂ :: d₁ :: d₂ :: s₃ :: rest
  | s => s

def deriveSlug (stem : String) : String := String.ofList (deriveSlugChars stem.toList)

end StaticBlog
