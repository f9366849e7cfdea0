import RandomC.Text.Dedent
import RandomC.Text.Replace

/-!
# Templates with named places

A place is written as its name between braces. Places are filled one name after the other, so a value
may itself bring a place that a later name fills.
-/

namespace RandomC.Text

/-- A text with places to fill, character by character. -/
structure Template where
  chars : List Char
  deriving DecidableEq, Repr

namespace Template

/-- A template from a text that is indented as a whole. -/
def ofIndented (text : String) : Template := ⟨dedent text.toList⟩

/-- A template as it is written. -/
def text (template : Template) : String := String.ofList template.chars

/-- The place of a name, as it is written. -/
def place (name : String) : String := "\x7b" ++ name ++ "\x7d"

/-- Fills the places of a name. -/
def fill (template : Template) (name value : String) : Template :=
  ⟨value.toList.intercalate (pieces (place name).toList 0 [] template.chars)⟩

/-- Fills the places, in the order of the names given. -/
def render (template : Template) (values : List (String × String)) : String :=
  (values.foldl (fun filled (name, value) => filled.fill name value) template).text

end Template

end RandomC.Text
