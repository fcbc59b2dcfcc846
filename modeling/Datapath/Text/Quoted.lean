import Datapath.Text.Printable

/-!
# Quoted text

A text is quoted by double quotes around it and backslashes within: before a
quote and a backslash, before the letter of a tab, line feed, carriage return or
zero, and before the bracketed number of any other character that does not show.
-/

namespace Datapath.Text.Quoted

/-- The number of a character in hexadecimal, without leading zeros, in the brackets of
an escape. -/
def numbered (char : Char) : List Char :=
  ['\\', 'u', '\x7b'] ++ Nat.toDigits 16 char.toNat ++ ['\x7d']

/-- A character as it stands between quotes. -/
def encode (char : Char) : List Char :=
  match char with
  | '\x00' => ['\\', '0']
  | '\t' => ['\\', 't']
  | '\n' => ['\\', 'n']
  | '\r' => ['\\', 'r']
  | '"' => ['\\', '"']
  | '\\' => ['\\', '\\']
  | other => if isPrintable other then [other] else numbered other

/-- A text in quotes. -/
def text (content : List Char) : String :=
  String.ofList ('"' :: content.flatMap encode ++ ['"'])

end Datapath.Text.Quoted
