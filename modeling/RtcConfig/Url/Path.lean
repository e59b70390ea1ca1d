import RtcConfig.Url.Percent

/-! # Paths of URLs

A path that starts with a slash is a list of segments. A segment `.` is dropped and `..` drops
the segment before it as well, where each dot may be written `%2e`; at the end either leaves an
empty segment. The segment before `..` stays if it starts with a drive letter. Any other path is
opaque and keeps its text. Characters outside the printable ASCII ones are percent-encoded in
both, and a few more in segments.
-/

namespace RtcConfig.Url

def keptInOpaquePath (c : Char) : Bool := 0x20 ≤ c.toNat && c.toNat < 0x7f

def keptInSegment (c : Char) : Bool :=
  keptInOpaquePath c && !(c ∈ [' ', '"', '<', '>', '\x60', '\x7b', '\x7d'])

/-- The text of a segment with every encoded dot as a dot. -/
def decodeDots : List Char → List Char
  | '%' :: '2' :: 'e' :: r => '.' :: decodeDots r
  | '%' :: '2' :: 'E' :: r => '.' :: decodeDots r
  | c :: r => c :: decodeDots r
  | [] => []

def isSingleDot (segment : List Char) : Bool := decodeDots segment == ['.']

def isDoubleDot (segment : List Char) : Bool := decodeDots segment == ['.', '.']

def startsWithDriveLetter : List Char → Bool
  | c :: d :: r => c.isAlpha && (d == ':' || d == '|') && (r.isEmpty || r.head? == some '\\')
  | _ => false

/-- The segments above the last one, which comes first. -/
def parent : List (List Char) → List (List Char)
  | [] => []
  | s :: above => if startsWithDriveLetter s then s :: above else above

/-- Resolves the dots of a path below the segments already passed, the last of which comes first. -/
def resolveFrom (passed : List (List Char)) : List (List Char) → List (List Char)
  | [] => passed.reverse
  | [s] =>
    if isDoubleDot s then (parent passed).reverse ++ [[]]
    else if isSingleDot s then passed.reverse ++ [[]]
    else passed.reverse ++ [s]
  | s :: rest =>
    if isDoubleDot s then resolveFrom (parent passed) rest
    else if isSingleDot s then resolveFrom passed rest
    else resolveFrom (s :: passed) rest

/-- The path whose text behind its first slash is given. -/
def segmentPath (cs : List Char) : List Char :=
  '/' :: ['/'].intercalate (resolveFrom [] ((percentEncode keptInSegment cs).splitOn '/'))

def opaquePath (cs : List Char) : List Char := percentEncode keptInOpaquePath cs

/-- The path behind an authority: empty, or with a first slash, added where it is missing. -/
def authorityPath : List Char → List Char
  | [] => []
  | '/' :: r => segmentPath r
  | r => segmentPath r

end RtcConfig.Url
