import RandomC.Ini.Error
import RandomC.Text.Lower
import RandomC.Text.Replace

/-!
# Documents of grouped values

A document is a list of groups, each a list of keys with values. Keys are written in lower case. One group
of fixed name holds the values that all groups share.
-/

namespace RandomC.Ini

/-- Keys with their values, in order. -/
abbrev Entries := List (String × String)

/-- A document. -/
structure Document where
  shared : Entries
  groups : List (String × Entries)
  deriving DecidableEq, Repr

/-- The name of the group of shared values. -/
def sharedName : String := "DEFAULT"

/-- Why there is no value. -/
inductive Absence where
  | group
  | key
  deriving DecidableEq, Repr

/-- Puts a value under a key: in its place if the key exists, else at the end. -/
def Entries.put (key value : String) (entries : Entries) : Entries :=
  if (entries.lookup key).isSome then
    entries.map fun entry => if entry.1 == key then (key, value) else entry
  else entries ++ [(key, value)]

namespace Document

/-- A document without groups. -/
def empty : Document := ⟨[], []⟩

/-- The values that a group has of its own. There always is the group of shared values. -/
def group? (document : Document) (group : String) : Option Entries :=
  match document.groups.lookup group with
  | some entries => some entries
  | none => if group = sharedName then some [] else none

/-- The value that a group has under a key as it is written, or shares. -/
def stored? (document : Document) (entries : Entries) (key : String) : Option String :=
  match entries.lookup key with
  | some value => some value
  | none => document.shared.lookup key

/-- Makes sure that there is a group. -/
def addGroup (group : String) (document : Document) : Document :=
  if (document.groups.lookup group).isSome then document
  else { document with groups := document.groups ++ [(group, [])] }

/-- Puts a value under a key of a group, which is added if need be. -/
def put (group key value : String) (document : Document) : Document :=
  let document := document.addGroup group
  { document with
    groups := document.groups.map fun (name, entries) =>
      (name, if name == group then entries.put key value else entries) }

/-- Entries as they are written; a value of several lines goes on after a tab. -/
def entriesText (entries : Entries) : String :=
  String.join (entries.map fun (key, value) => key ++ " = " ++ Text.replace "\n" "\n\t" value ++ "\n")

/-- A group as it is written. -/
def groupText (group : String) (entries : Entries) : String := s!"[{group}]\n{entriesText entries}\n"

/-- A document as it is written. -/
def text (document : Document) : String :=
  (if document.shared.isEmpty then "" else groupText sharedName document.shared) ++
    String.join (document.groups.map fun (group, entries) => groupText group entries)

end Document

end RandomC.Ini
