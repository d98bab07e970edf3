/-
Quoted texts.

A quoted text stands between double quotes.  Double quote, backslash, line feed, carriage
return, tab and NUL are written as a backslash and one character, every other hidden character
as a backslash, the letter `u` and its code point in hexadecimal digits between braces.
-/
import PacketBearer.Text.Hidden
import PacketBearer.Text.Numeral

namespace PacketBearer.Text

/-- The written form of one character inside a quoted text. -/
def quoteChar (c : Char) : List Char :=
  if c = '"' then ['\\', '"']
  else if c = '\\' then ['\\', '\\']
  else if c = '\n' then ['\\', 'n']
  else if c = '\r' then ['\\', 'r']
  else if c = '\t' then ['\\', 't']
  else if c = '\x00' then ['\\', '0']
  else if isHidden c then
    ['\\', 'u', '\x7b'] ++ Nat.toDigits 16 c.toNat ++ ['\x7d']
  else [c]

/-- A text between double quotes. -/
def quote (s : String) : String :=
  String.ofList ('"' :: s.toList.flatMap quoteChar ++ ['"'])

end PacketBearer.Text
