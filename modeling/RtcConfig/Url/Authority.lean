import RtcConfig.Url.Host

/-! # Authorities of URLs

Behind `//` a URL names user information up to its last `@`, a host and a port. The authority
ends at a slash, a question mark or a number sign, for a web scheme also at a backslash. Only
its errors matter: the functions return the text behind the part they check.
-/

namespace RtcConfig.Url

def endsAuthority (web : Bool) (c : Char) : Bool :=
  c == '/' || c == '?' || c == '#' || (web && c == '\\')

/-- The text before and behind the last `@`. -/
def splitLastAt (cs : List Char) : Option (List Char × List Char) :=
  let (after, before) := cs.reverse.span (· != '@')
  match before with
  | [] => none
  | _ :: info => some (info.reverse, after.reverse)

/-- Whether a user or a password is given, and the text from the host on. -/
def skipUserInfo (web : Bool) (cs : List Char) : Except UrlError (Bool × List Char) :=
  let (authority, rest) := cs.span fun c => !endsAuthority web c
  match splitLastAt authority with
  | none => .ok (false, cs)
  | some ([], host) =>
    if (host ++ rest).head?.any (endsAuthority web) then .error .emptyHost
    else .ok (false, host ++ rest)
  | some (info, host) => .ok (info != [':'], host ++ rest)

/-- The host and the text behind it; a colon in brackets does not end the host. -/
def spanHost (web inside : Bool) : List Char → List Char × List Char
  | [] => ([], [])
  | c :: r =>
    if endsAuthority web c || (c == ':' && !inside) then ([], c :: r)
    else
      let (host, rest) := spanHost web (c == '[' || (inside && c != ']')) r
      (c :: host, rest)

/-- Skips a port below 65536, of which `n` are the digits so far. -/
def skipPort (n : Nat) : List Char → Except UrlError (List Char)
  | [] => .ok []
  | c :: r => match Text.digit? 10 c with
    | some d =>
      if 10 * n + d < 65536 then skipPort (10 * n + d) r else .error .invalidPort
    | none =>
      if c == '/' || c == '\\' || c == '?' || c == '#' then .ok (c :: r)
      else .error .invalidPort

def checkHost (web : Bool) (host : List Char) : Except UrlError Unit :=
  if web then
    if host.isEmpty then .error .emptyHost else checkWebHost host
  else checkOpaqueHost host

/-- Skips an authority. -/
def skipAuthority (web : Bool) (cs : List Char) : Except UrlError (List Char) := do
  let (named, cs) ← skipUserInfo web cs
  let (host, rest) := spanHost web false cs
  checkHost web host
  let rest ← match rest with
    | ':' :: r => if host.isEmpty then .error .emptyHost else skipPort 0 r
    | r => .ok r
  if host.isEmpty && named then .error .emptyHost else .ok rest

def isDriveLetter : List Char → Bool
  | [c, d] => c.isAlpha && (d == ':' || d == '|')
  | _ => false

/-- Checks the host of a file URL, where no host and a drive letter need no check. -/
def checkFileHost (cs : List Char) : Except UrlError Unit :=
  let host := cs.takeWhile fun c => !endsAuthority true c
  if host.isEmpty || isDriveLetter host then .ok () else checkWebHost host

end RtcConfig.Url
