import RtcConfig.Url.Percent

/-! # Queries of URLs

A query is a list of pairs between ampersands, each split at its first equals sign. In names and
values a plus sign is a space and percent triples are bytes.
-/

namespace RtcConfig.Url

def decodeFormText (cs : List Char) : List UInt8 :=
  percentDecode (cs.map fun c => if c = '+' then ' ' else c)

def decodePair (cs : List Char) : List UInt8 × List UInt8 :=
  let (name, value) := cs.span (· != '=')
  (decodeFormText name, decodeFormText (value.drop 1))

def queryPairs (query : List Char) : List (List UInt8 × List UInt8) :=
  ((query.splitOn '&').filter fun cs => !cs.isEmpty).map decodePair

/-- The value of the first pair with the given name. -/
def queryValue? (name : String) (query : List Char) : Option (List UInt8) :=
  (queryPairs query).lookup (utf8 name.toList)

end RtcConfig.Url
