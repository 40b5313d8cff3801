/-!
# Outlines

What is looked for in a document: which of its parts are read, and what each of them is read as. In
some formats a piece of text is a number, a word or nothing depending on what is asked for in its
place, and a part that nobody asks for may hold anything. Such a text is turned into a document
along an outline.
-/

namespace Sitewright

/-- What is looked for in a document. -/
inductive Outline where
  /-- A text. -/
  | text
  /-- A truth value. -/
  | truth
  /-- A natural number. -/
  | natural
  /-- A choice, by its tag. -/
  | choice
  /-- Something that may be absent. -/
  | nullable (outline : Outline)
  /-- A list. -/
  | list (outline : Outline)
  /-- A record with fields of these names. Other entries are passed over. -/
  | record (fields : List (String × Outline))
  /-- Any value. -/
  | value

namespace Outline

/-- Whether what is looked for may be absent. -/
def isNullable : Outline → Bool
  | nullable _ => true
  | _ => false

/-- What is looked for if it is not absent. -/
def required : Outline → Outline
  | nullable outline => outline.required
  | outline => outline

theorem isNullable_required : ∀ outline : Outline, outline.required.isNullable = false
  | text => rfl
  | truth => rfl
  | natural => rfl
  | choice => rfl
  | nullable outline => isNullable_required outline
  | list _ => rfl
  | record _ => rfl
  | value => rfl

end Outline

end Sitewright
