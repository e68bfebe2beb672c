import ChainLexer.Text.CharClass

/-!
# Comment markers

A line comment starts with a marker of two operator characters. Anything else could not be told from
an identifier, a number, a string or white space where a lexeme begins.
-/

namespace ChainLexer.Settings

open ChainLexer.Text

/-- Two operator characters that start a comment. -/
structure Marker where
  first : Char
  second : Char
  first_isOperatorChar : isOperatorChar first = true
  second_isOperatorChar : isOperatorChar second = true
deriving DecidableEq

namespace Marker

/-- Two hyphens. -/
def hyphens : Marker := ⟨'-', '-', by decide, by decide⟩

instance : Inhabited Marker := ⟨hyphens⟩

/-- The characters of the marker. -/
def toList (m : Marker) : List Char := [m.first, m.second]

/-- The marker as text. -/
def text (m : Marker) : String := String.ofList m.toList

/-- The marker with the given characters, when there are exactly two and both are operator
characters. -/
def ofList? : List Char → Option Marker
  | [a, b] =>
    if h : isOperatorChar a = true ∧ isOperatorChar b = true then some ⟨a, b, h.1, h.2⟩ else none
  | _ => none

/-- The marker with the given text. -/
def ofString? (text : String) : Option Marker := ofList? text.toList

/-- A text begins with the marker. -/
def startsAt (m : Marker) (cs : List Char) : Bool := m.toList.isPrefixOf cs

@[simp] theorem startsAt_nil (m : Marker) : m.startsAt [] = false := rfl

/-- No marker starts with a line feed, so none starts where a comment ends. -/
theorem startsAt_newline (m : Marker) (cs : List Char) : m.startsAt ('\n' :: cs) = false := by
  have := ne_newline_of_isOperatorChar m.first_isOperatorChar
  simp [startsAt, toList, List.isPrefixOf, this]

/-- A marker is the one that its characters describe. -/
theorem ofList?_toList (m : Marker) : ofList? m.toList = some m := by
  simp [ofList?, toList, m.first_isOperatorChar, m.second_isOperatorChar]

/-- The characters that describe a marker are its own. -/
theorem toList_of_ofList? {cs : List Char} {m : Marker} (h : ofList? cs = some m) :
    m.toList = cs := by
  unfold ofList? at h
  split at h
  · split at h
    · cases h; rfl
    · cases h
  · cases h

end Marker

end ChainLexer.Settings
