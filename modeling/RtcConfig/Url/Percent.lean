import RtcConfig.Text.Digits

/-! # Percent encoding

A character that a part of a URL does not keep is written as the bytes of its UTF-8 form, each a
percent sign and two upper-case hexadecimal digits. Decoding reads such triples in either case
and takes all else as it stands, so it yields bytes.
-/

namespace RtcConfig.Url

def utf8 (cs : List Char) : List UInt8 := cs.flatMap String.utf8EncodeChar

def percentByte (b : UInt8) : List Char :=
  ['%', Text.upperHexDigit (b.toNat / 16), Text.upperHexDigit (b.toNat % 16)]

def percentEncode (kept : Char → Bool) (cs : List Char) : List Char :=
  cs.flatMap fun c => if kept c then [c] else (String.utf8EncodeChar c).flatMap percentByte

def percentDecode : List Char → List UInt8
  | [] => []
  | '%' :: h :: l :: r => match Text.digit? 16 h, Text.digit? 16 l with
    | some a, some b => UInt8.ofNat (16 * a + b) :: percentDecode r
    | _, _ => utf8 ['%'] ++ percentDecode (h :: l :: r)
  | c :: r => utf8 [c] ++ percentDecode r

end RtcConfig.Url
