import SlotServer.Text.Printable

/-!
# Quoted text

Text between quotation marks, in which nothing can be mistaken for the end of the text or of the
line: quotation marks and backslashes are marked by a backslash, and characters that cannot be
shown are written by name or by number.
-/

namespace SlotServer.Text

/-- The way in which a character is written between quotation marks. -/
def quotedChar (c : Char) : List Char :=
  if c = '"' then ['\\', '"']
  else if c = '\\' then ['\\', '\\']
  else if c = '\n' then ['\\', 'n']
  else if c = '\r' then ['\\', 'r']
  else if c = '\t' then ['\\', 't']
  else if c = '\x00' then ['\\', '0']
  else if c = ' ' then [c]
  else if isUnprintable c then ['\\', 'u', '{'] ++ Nat.toDigits 16 c.toNat ++ ['}']
  else [c]

/-- A text between quotation marks. -/
def quoted (text : String) : String :=
  String.ofList ('"' :: text.toList.flatMap quotedChar ++ ['"'])

end SlotServer.Text
