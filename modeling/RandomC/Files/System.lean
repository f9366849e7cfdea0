import RandomC.Text.Blank
import RandomC.Text.Utf8

/-!
# Files

Files are reached through three operations: looking whether there is something at a path, reading and
writing. The operations run in a monad that is left open, so that the same program works on the files of
the machine and on a tree of files in memory.
-/

namespace RandomC.Files

/-- What a file holds: text, or bytes that may be text. -/
inductive Content where
  | text (text : String)
  | bytes (bytes : List UInt8)
  deriving DecidableEq

/-- A failed operation on the file at a path. -/
inductive FileError where
  | notFound (path : String)
  | notDirectory (path : String)
  | isDirectory (path : String)
  | nameTooLong (path : String)
  | denied (path : String)
  /-- The path holds a character that no path can hold. -/
  | nullCharacter
  /-- Any other failure, with its number and description. -/
  | other (code : Nat) (description path : String)
  deriving DecidableEq, Repr

namespace FileError

/-- The name under which a failure is reported. -/
def kind : FileError → String
  | notFound _ => "FileNotFoundError"
  | notDirectory _ => "NotADirectoryError"
  | isDirectory _ => "IsADirectoryError"
  | denied _ => "PermissionError"
  | nullCharacter => "ValueError"
  | nameTooLong _ | other .. => "OSError"

/-- What is reported about a failure. -/
def message : FileError → String
  | notFound path => report 2 "No such file or directory" path
  | notDirectory path => report 20 "Not a directory" path
  | isDirectory path => report 21 "Is a directory" path
  | nameTooLong path => report 36 "File name too long" path
  | denied path => report 13 "Permission denied" path
  | nullCharacter => "embedded null byte"
  | other code description path => report code description path
where
  report (code : Nat) (description path : String) : String :=
    s!"[Errno {code}] {description}: {Text.quoted path}"

/-- The failure means that there is nothing at the path. -/
def meansAbsence : FileError → Bool
  | notFound _ | notDirectory _ | nullCharacter => true
  | _ => false

end FileError

/-- The operations on files. -/
structure FileSystem (m : Type → Type) where
  /-- Succeeds when there is a file or a directory at the path. -/
  find : String → m (Except FileError Unit)
  read : String → m (Except FileError Content)
  /-- Makes a text the content of a file, which is created if need be. -/
  write : String → String → m (Except FileError Unit)

/-- The content as text, all of which is decoded before any of it is used. -/
def Content.whole : Content → Except Text.Utf8Error String
  | .text written => .ok (Text.normalizeLineEnds written)
  | .bytes stored =>
    let decoded := Text.decodeUtf8 stored
    match decoded.error with
    | none => .ok (Text.normalizeLineEnds decoded.text)
    | some error => .error error

/-- A text is read line by line; reading may end with bytes that cannot be decoded. -/
structure LineSource where
  text : String
  error : Option Text.Utf8Error

/-- The text up to its last line feed. -/
def finishedLines (text : String) : String :=
  String.ofList (text.toList.reverse.dropWhile (· != '\n')).reverse

/-- Bytes are decoded in pieces of this size when lines are read. -/
def pieceSize : Nat := 8192

/-- The content as it is read line by line. Bytes are decoded piece by piece, ahead of the lines, so that a
wrong byte is met after the lines that were finished before its piece. A carriage return at the end of a
piece finishes no line before the next piece has been decoded. -/
def Content.lineByLine : Content → LineSource
  | .text written => ⟨Text.normalizeLineEnds written, none⟩
  | .bytes stored =>
    let decoded := Text.decodePieces pieceSize (stored.length + 1) ⟨[], []⟩ stored
    match decoded.error with
    | none => ⟨Text.normalizeLineEnds decoded.text, none⟩
    | some error =>
      let certain := match decoded.reversed with
        | '\r' :: rest => rest
        | reversed => reversed
      ⟨finishedLines (Text.normalizeLineEnds (String.ofList certain.reverse)), some error⟩

end RandomC.Files
