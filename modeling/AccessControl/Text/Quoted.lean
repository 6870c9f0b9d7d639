import AccessControl.Text.Unprintable

/-!
# Quoted text

A text between double quotes, fit for a message: quotes and backslashes are escaped, the common
controls have short names, and every other unprintable character is shown by its code point.
-/

set_option autoImplicit false

namespace AccessControl.Text

/-- The code point of a character in braces, in lower-case hexadecimal without leading zeros. -/
def codePointEscape (c : Char) : List Char :=
  ['\\', 'u', '\x7b'] ++ Nat.toDigits 16 c.toNat ++ ['\x7d']

/-- The form of one character inside a quoted text. -/
def quoteChar (c : Char) : List Char :=
  if c = '"' then ['\\', '"']
  else if c = '\\' then ['\\', '\\']
  else if c = '\x00' then ['\\', '0']
  else if c = '\t' then ['\\', 't']
  else if c = '\r' then ['\\', 'r']
  else if c = '\n' then ['\\', 'n']
  else if isUnprintable c then codePointEscape c
  else [c]

/-- A text between double quotes, with every character in its quoted form. -/
def quote (text : String) : String :=
  String.ofList ('"' :: text.toList.flatMap quoteChar ++ ['"'])

end AccessControl.Text
