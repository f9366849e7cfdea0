import RandomC.Text.Lower

/-!
# Written switches

A switch is on or off; there are four words for each, in any case.
-/

namespace RandomC.Ini

/-- The words for a switch that is on. -/
def onWords : List String := ["1", "yes", "true", "on"]

/-- The words for a switch that is off. -/
def offWords : List String := ["0", "no", "false", "off"]

/-- Reads a switch. -/
def readSwitch? (text : String) : Option Bool :=
  let word := Text.lower text
  if onWords.contains word then some true else if offWords.contains word then some false else none

end RandomC.Ini
