import EntitySync.Text.Utf8

/-!
# Files

What reading a file gives: a text, or the reason why there is none.
-/

namespace EntitySync

/-- Why a file cannot be read as a text. -/
inductive ReadFault where
  | notFound
  | notDirectory
  | isDirectory
  | accessDenied
  | nameTooLong
  | notUtf8
deriving DecidableEq

namespace ReadFault

def message : ReadFault → String
  | .notFound => "No such file or directory (os error 2)"
  | .notDirectory => "Not a directory (os error 20)"
  | .isDirectory => "Is a directory (os error 21)"
  | .accessDenied => "Permission denied (os error 13)"
  | .nameTooLong => "File name too long (os error 36)"
  | .notUtf8 => "stream did not contain valid UTF-8"

/-- There is nothing at the path. -/
def isMissing : ReadFault → Bool
  | .notFound | .notDirectory | .nameTooLong => true
  | _ => false

end ReadFault

/-- What reading a file gives. -/
abbrev FileText := Except ReadFault String

/-- The text that the bytes of a file encode. -/
def FileText.ofBytes (bytes : List UInt8) : FileText :=
  match Utf8.decode? bytes with
  | some text => .ok text
  | none => .error .notUtf8

end EntitySync
