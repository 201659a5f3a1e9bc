import EntitySync.Text.Percent

/-!
# Paths of URLs

A path is a list of segments between slashes. The segments `.` and `..` are resolved: the first
stands for the place itself and the second for the one above, but nothing stands above the letter
of a drive. The path of a URL that names no place in a tree is not taken apart.
-/

namespace EntitySync

/-- The path of a URL. -/
inductive UrlPath where
  | segments (parts : List (List Char))
  | undivided (text : List Char)
deriving DecidableEq

namespace UrlPath

/-! ### Dots -/

/-- A letter before a colon or a bar. -/
def isDriveLetter : List Char → Bool
  | [letter, mark] => letter.isAlpha && (mark = ':' || mark = '|')
  | _ => false

/-- The segments of the place above, the last one first. -/
def parent : List (List Char) → List (List Char)
  | [] => []
  | last :: kept => if isDriveLetter last then last :: kept else kept

/-- Resolve `.` and `..`, with the segments kept so far in reverse order. -/
def resolveSegments : List (List Char) → List (List Char) → List (List Char)
  | kept, [] => kept.reverse
  | kept, [last] =>
    if last = ['.'] then ([] :: kept).reverse
    else if last = ['.', '.'] then ([] :: parent kept).reverse
    else (last :: kept).reverse
  | kept, segment :: rest =>
    if segment = ['.'] then resolveSegments kept rest
    else if segment = ['.', '.'] then resolveSegments (parent kept) rest
    else resolveSegments (segment :: kept) rest

/-- The segments of a path without `.` and `..`. -/
def removeDotSegments (segments : List (List Char)) : List (List Char) :=
  resolveSegments [] segments

/-- A dot may be percent encoded. -/
def decodeDots : List Char → List Char
  | '%' :: '2' :: c :: rest =>
    if c = 'e' || c = 'E' then '.' :: decodeDots rest else '%' :: '2' :: c :: decodeDots rest
  | c :: rest => c :: decodeDots rest
  | [] => []

/-- A segment that stands for `.` or `..`, in its plain form. -/
def plainSegment (segment : List Char) : List Char :=
  let plain := decodeDots segment
  if plain = ['.'] || plain = ['.', '.'] then plain else segment

/-! ### Reading -/

/-- Characters that stand for themselves in no segment. -/
def encodedMarks : String := " \"#<>?`\x7b\x7d"

/-- The segments that a text writes between slashes. -/
def segmentsOf (text : List Char) : List (List Char) :=
  (removeDotSegments ((text.splitOn '/').map plainSegment)).map (Percent.encodeBut encodedMarks)

/-! ### Paths of files -/

/-- Paths of files write the letter of a drive with a colon, and start with no empty segment. -/
def normalDrive : List (List Char) → List (List Char)
  | segment :: rest =>
    if isDriveLetter segment then (segment.take 1 ++ [':']) :: rest else segment :: rest
  | [] => []

def startsWithDrive (segments : List (List Char)) : Bool := segments.head?.any isDriveLetter

def withoutEmptyFront (segments : List (List Char)) : List (List Char) :=
  match segments.dropWhile List.isEmpty with
  | [] => [[]]
  | segments => segments

/-! ### Writing -/

def text : UrlPath → List Char
  | .segments parts => parts.flatMap ('/' :: ·)
  | .undivided text => text

end UrlPath

end EntitySync
