import RtcConfig.Url.Authority
import RtcConfig.Url.Path

/-! # Reading URLs

Control characters and blanks around a URL are dropped, and tabs and line ends everywhere. Then
comes the scheme, up to the first colon. Behind a generic scheme `//` starts an authority, a
single slash a path of segments, and anything else is an opaque path. Behind a web scheme any
slashes start an authority.
-/

namespace RtcConfig.Url

def isControlOrBlank (c : Char) : Bool := c.toNat ≤ 0x20

def trim (cs : List Char) : List Char :=
  ((cs.dropWhile isControlOrBlank).reverse.dropWhile isControlOrBlank).reverse

def clean (cs : List Char) : List Char :=
  (trim cs).filter fun c => !(c == '\t' || c == '\n' || c == '\r')

def isSchemeChar (c : Char) : Bool := c.isAlphanum || c == '+' || c == '-' || c == '.'

/-- The rest of a scheme in lower case and the text behind its colon. -/
def readSchemeRest : List Char → Option (List Char × List Char)
  | [] => none
  | ':' :: r => some ([], r)
  | c :: r =>
    if isSchemeChar c then (readSchemeRest r).map fun p => (c.toLower :: p.1, p.2) else none

/-- A scheme starts with a letter. -/
def readScheme (cs : List Char) : Option (List Char × List Char) :=
  if cs.head?.any Char.isAlpha then readSchemeRest cs else none

inductive SchemeKind where
  | generic
  | web
  | file
  deriving DecidableEq, Repr

def schemeKind (scheme : String) : SchemeKind :=
  if scheme = "file" then .file
  else if scheme ∈ ["http", "https", "ws", "wss", "ftp"] then .web
  else .generic

def isSlash (c : Char) : Bool := c == '/' || c == '\\'

/-- The text of the path and the query behind it. -/
def splitQuery (cs : List Char) : List Char × List Char :=
  let (path, rest) := cs.span fun c => c != '?' && c != '#'
  (path, match rest with
    | '?' :: r => r.takeWhile (· != '#')
    | _ => [])

def readGeneric (scheme : String) (cs : List Char) : Except UrlError Url :=
  match cs with
  | '/' :: '/' :: r => do
    let rest ← skipAuthority false r
    let (path, query) := splitQuery rest
    .ok (.generic scheme (authorityPath path) query)
  | '/' :: r =>
    let (path, query) := splitQuery r
    .ok (.generic scheme (segmentPath path) query)
  | r =>
    let (path, query) := splitQuery r
    .ok (.generic scheme (opaquePath path) query)

def readWeb (scheme : String) (cs : List Char) : Except UrlError Url := do
  let _ ← skipAuthority true (cs.dropWhile isSlash)
  .ok (.web scheme)

/-- A file URL has a host only behind two slashes. -/
def readFile (scheme : String) (cs : List Char) : Except UrlError Url := do
  match cs with
  | c :: d :: r => if isSlash c && isSlash d then checkFileHost r else .ok ()
  | _ => .ok ()
  .ok (.web scheme)

def ofText (s : String) : Except UrlError Url :=
  match readScheme (clean s.toList) with
  | none => .error .relativeWithoutBase
  | some (scheme, rest) =>
    let scheme := String.ofList scheme
    match schemeKind scheme with
    | .generic => readGeneric scheme rest
    | .web => readWeb scheme rest
    | .file => readFile scheme rest

end RtcConfig.Url
