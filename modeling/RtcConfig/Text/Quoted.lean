import RtcConfig.Text.Digits
import RtcConfig.Text.Unprintable

/-! # Quoted text

A text between double quotes on one line. A quote and a backslash are written behind a
backslash, NUL, tab, line feed and carriage return by a letter of their own, every other
character without a visible form by its code point in hexadecimal, and all else as it stands.
-/

namespace RtcConfig.Text

def escape (c : Char) : List Char :=
  match c with
  | '\x00' => ['\\', '0']
  | '\t' => ['\\', 't']
  | '\n' => ['\\', 'n']
  | '\r' => ['\\', 'r']
  | '"' => ['\\', '"']
  | '\\' => ['\\', '\\']
  | c => if isUnprintable c then
      ['\\', 'u', '\x7b'] ++ hexadecimal c.toNat ++ ['\x7d']
    else [c]

def quote (s : String) : String :=
  String.ofList ('"' :: s.toList.flatMap escape ++ ['"'])

end RtcConfig.Text
