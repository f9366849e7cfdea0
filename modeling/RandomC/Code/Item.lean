import RandomC.Code.Function
import RandomC.Text.Sheet

/-!
# Items of a program

A program is a sheet of items: the fields of composite types, the declarations of variables, functions,
and the two functions that every program may end with.
-/

namespace RandomC

/-- The two kinds of composite types. -/
inductive CompositeKind where
  | struct
  | union
  deriving DecidableEq, Repr

/-- What a field holds. -/
inductive FieldKind where
  /-- A scalar. -/
  | scalar (type : CType)
  /-- Some bits. -/
  | bits (signed : Bool) (width : Nat)
  deriving DecidableEq, Repr

/-- A field of a composite type. -/
structure Field where
  name : String
  isConst : Bool
  isVolatile : Bool
  kind : FieldKind
  deriving DecidableEq, Repr

/-- The type that a field counts as: an unsigned word of 32 bits for some bits. -/
def FieldKind.type : FieldKind → CType
  | scalar type => type
  | bits .. => .uint32

/-- The declaration of a field. -/
def Field.text (field : Field) : String :=
  qualifierText field.isConst field.isVolatile ++ match field.kind with
    | .scalar type => s!"{type.name} {field.name};"
    | .bits signed width => (if signed then "signed" else "unsigned") ++ s!" {field.name} : {width};"

/-- The value that a scalar global starts with. -/
inductive Initial where
  /-- A constant, cast to the type of the variable. -/
  | literal (value : Literal)
  /-- Zero, as it is. -/
  | zero
  deriving DecidableEq, Repr

/-- The declaration of something with a place in memory. -/
inductive Declaration where
  | global (v : GlobalVar) (initial : Initial)
  | array (v : ArrayVar)
  | pointer (v : PointerVar)
  /-- A pointer of `stars` levels to the link or pointer `target`, in the end to a scalar. -/
  | link (type : CType) (stars : Nat) (name target : String)
  /-- The variable that every composite type has. -/
  | composite (kind : CompositeKind) (index : Nat)
  deriving DecidableEq, Repr

/-- A declaration as it is written. -/
def Declaration.text : Declaration → String
  | global v initial =>
    let value := match initial with
      | .literal value => v.type.castText value.text
      | .zero => "0"
    s!"static {qualifierText v.isConst v.isVolatile}{v.type.name} {v.name} = {value};"
  | array v => s!"static {v.type.name} {v.name}[{v.length}] = \x7b0\x7d;"
  | pointer v =>
    s!"static {qualifierText v.constTarget v.volatileTarget}{v.targetType.name} " ++
      s!"*{qualifierText false v.isVolatile}{v.name} = &{v.target};"
  | link type stars name target =>
    let levels := String.ofList (List.replicate stars '*')
    s!"static {type.name} {levels}{name} = &{target};"
  | composite .struct index => s!"static struct S{index} gs_{index};"
  | composite .union index => s!"static union U{index} gu_{index};"

/-- How the function `main` is to look. -/
structure MainShape where
  /-- It takes arguments. -/
  acceptArgc : Bool
  /-- It brackets the program with calls of the runtime. -/
  runtime : Bool
  /-- It computes a hash of the globals. -/
  hash : Bool
  /-- An argument can ask for the hash to be printed. -/
  hashPrintf : Bool
  deriving DecidableEq, Repr

/-- An item of a program. -/
inductive Item where
  /-- The title of a section. -/
  | heading (title : String)
  /-- A line across. -/
  | rule
  | openComposite (kind : CompositeKind) (index : Int)
  | field (f : Field)
  | closeComposite
  | declare (declaration : Declaration)
  /-- A function that is declared ahead of its definition. -/
  | forward (signature : Signature)
  | define (definition : Definition)
  /-- The function that hashes scalars and arrays. -/
  | hash (globals : List GlobalVar) (arrays : List ArrayVar)
  /-- The function that calls the entry function. -/
  | main (shape : MainShape) (entry : Signature)
  deriving Repr

/-- The function that hashes scalars and arrays, under their names. -/
def hashLines (globals : List GlobalVar) (arrays : List ArrayVar) : List Line :=
  [⟨0, "void csmith_compute_hash(int print_hash_value)"⟩, ⟨0, "\x7b"⟩] ++
  globals.map (fun v => ⟨1, s!"transparent_crc((uint64_t){v.name}, \"{v.name}\", print_hash_value);"⟩) ++
  arrays.flatMap (fun v =>
    [⟨1, s!"for (int i = 0; i < {v.length}; i++)"⟩,
     ⟨2, s!"transparent_crc((uint64_t){v.name}[i], \"{v.name}[i]\", print_hash_value);"⟩]) ++
  [⟨0, "\x7d"⟩]

/-- What `main` does before it calls the entry function. -/
def mainStart (shape : MainShape) : List Line :=
  let flag : Line := ⟨1, "int print_hash_value = 0;"⟩
  (if shape.acceptArgc then
    [⟨0, "int main(int argc, char *argv[]) \x7b"⟩, flag] ++
    (if shape.runtime && shape.hashPrintf then
      [⟨1, "if (argc == 2 && strcmp(argv[1], \"1\") == 0) print_hash_value = 1;"⟩] else [])
  else
    ⟨0, "int main(void) \x7b"⟩ :: (if shape.runtime then [flag] else [])) ++
  (if shape.runtime then [⟨1, "platform_main_begin();"⟩] else []) ++
  (if shape.runtime && shape.hash then [⟨1, "crc32_gentab();"⟩] else [])

/-- What `main` does after the call. -/
def mainEnd (shape : MainShape) : List Line :=
  (if shape.hash then
    [⟨1, "csmith_compute_hash(print_hash_value);"⟩,
     ⟨1, "platform_main_end(crc32_context ^ 0xFFFFFFFFUL, print_hash_value);"⟩]
  else if shape.runtime then [⟨1, "platform_main_end(0u, 0);"⟩] else []) ++
  [⟨1, "return 0;"⟩, ⟨0, "\x7d"⟩]

/-- The function that calls the entry function. -/
def mainLines (shape : MainShape) (entry : String) : List Line :=
  mainStart shape ++ ⟨1, s!"(void){entry}();"⟩ :: mainEnd shape

namespace Item

/-- The lines of an item. -/
def lines : Item → List Line
  | heading title => [⟨0, s!"/* --- {title} --- */"⟩]
  | rule => [⟨0, "/* ------------------------------------------ */"⟩]
  | openComposite .struct index => [⟨0, s!"struct S{index} \x7b"⟩]
  | openComposite .union index => [⟨0, s!"union U{index} \x7b"⟩]
  | .field f => [⟨0, f.text⟩]
  | closeComposite => [⟨0, "\x7d;"⟩]
  | declare declaration => [⟨0, declaration.text⟩]
  | forward signature => [⟨0, signature.prototype ++ ";"⟩]
  | define definition => definition.lines
  | .hash globals arrays => hashLines globals arrays
  | .main shape entry => mainLines shape entry.name

/-- The text of an item whose first line stands at a level. -/
def layout (level : Int) (item : Item) : String :=
  String.join (item.lines.map fun line => Text.indentedLine (level + line.level) line.text)

end Item

end RandomC
