import RandomC.Ini.Document

/-!
# References in values

A value may refer to another one: `%(key)s` stands for the value of the key, and `%%` for a percent sign.
A percent sign may not stand alone.
-/

namespace RandomC.Ini

/-- The key of the reference with which the characters begin, and its length, if they do. -/
def reference? : List Char → Option (List Char × Nat)
  | '%' :: '(' :: rest =>
    let key := rest.takeWhile (· != ')')
    if ! key.isEmpty && (rest.drop key.length).take 2 == [')', 's'] then some (key, key.length + 4) else none
  | _ => none

/-- The characters without the references; the first `skip` characters belong to one. -/
def dropReferences : (skip : Nat) → List Char → List Char
  | _, [] => []
  | skip + 1, _ :: rest => dropReferences skip rest
  | 0, c :: rest =>
    match reference? (c :: rest) with
    | some (_, length) => dropReferences (length - 1) rest
    | none => c :: dropReferences 0 rest

/-- The value, if it can be stored: every percent sign in it has a meaning. -/
def storable (value : String) : Except Error String :=
  let rest := dropReferences 0 (Text.replace "%%" "" value).toList
  if rest.contains '%' then .error (.unstorable value (rest.takeWhile (· != '%')).length) else .ok value

/-- Replaces the references in the characters of a value, given what stands for a key; the first `skip`
characters have been dealt with. -/
def expandWith (replacement : String → Except Error String) :
    (skip : Nat) → List Char → Except Error String
  | _, [] => .ok ""
  | skip + 1, _ :: rest => expandWith replacement skip rest
  | 0, c :: rest => do
    if c ≠ '%' then
      return String.singleton c ++ (← expandWith replacement 0 rest)
    match rest with
    | '%' :: _ => return "%" ++ (← expandWith replacement 1 rest)
    | '(' :: _ =>
      match reference? (c :: rest) with
      | none => throw (.brokenReference (String.ofList (c :: rest)))
      | some (key, length) =>
        let value ← replacement (Text.lower (String.ofList key))
        return value ++ (← expandWith replacement (length - 1) rest)
    | _ => throw (.lonePercent (String.ofList (c :: rest)))

/-- Replaces the references in a value, those included that come with the values referred to, `left`
values deep. `look` finds the value of a key; `missing` and `deep` are the errors of a key that does not
exist and of references that go too deep. -/
def expand (look : String → Option String) (missing : String → Error) (deep : Error) :
    (left : Nat) → String → Except Error String
  | 0, _ => .error deep
  | left + 1, value =>
    expandWith (fun key =>
      match look key with
      | none => .error (missing key)
      | some value =>
        if value.toList.contains '%' then expand look missing deep left value else .ok value)
      0 value.toList

namespace Document

/-- The value under a key of a group. The key may be written in any case. -/
def value (document : Document) (group key : String) : Except Error (Except Absence String) :=
  match document.group? group with
  | none => .ok (.error .group)
  | some entries =>
    let key := Text.lower key
    match document.stored? entries key with
    | none => .ok (.error .key)
    | some raw =>
      (expand (document.stored? entries) (.missingKey group key raw) (.tooDeep group key raw)
        maxReferenceDepth raw).map .ok

/-- Stores a value under a key of a group, which is added if need be. -/
def store (group key value : String) (document : Document) : Except Error Document := do
  return document.put group key (← storable value)

end Document

end RandomC.Ini
