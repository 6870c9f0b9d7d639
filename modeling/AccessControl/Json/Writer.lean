import AccessControl.Json.Basic

/-!
# Writing JSON

The text of a JSON value on one line, without separators between tokens. Quotes, backslashes and
control characters are escaped; every other character stands for itself.
-/

set_option autoImplicit false

namespace AccessControl.Json

def escapeChar (c : Char) : String :=
  if c = '"' then "\\\""
  else if c = '\\' then "\\\\"
  else if c.toNat < 0x20 then
    let digits := Nat.toDigits 16 c.toNat
    "\\u" ++ String.ofList (List.replicate (4 - digits.length) '0' ++ digits)
  else String.singleton c

/-- What is written so far, followed by a string literal. -/
def appendEscaped (written : String) (content : String) : String :=
  (content.toList.foldl (fun written c => written ++ escapeChar c) (written.push '"')).push '"'

mutual

/-- What is written so far, followed by a value. A value without Unicode text is written as a lone
surrogate escape, which reads back as itself. -/
def appendTo (written : String) : Json → String
  | .null => written ++ "null"
  | .bool true => written ++ "true"
  | .bool false => written ++ "false"
  | .integer value => written ++ toString value
  | .decimal literal => written ++ literal
  | .text content => appendEscaped written content
  | .unpaired => written ++ "\"\\ud800\""
  | .array [] => written ++ "[]"
  | .array (item :: items) => (appendItems (appendTo (written.push '[') item) items).push ']'
  | .object [] => written ++ "\x7b\x7d"
  | .object ((name, value) :: members) =>
    let opened := (appendEscaped (written.push '\x7b') name).push ':'
    (appendMembers (appendTo opened value) members).push '\x7d'

/-- What is written so far, followed by the items of an array after its first one. -/
def appendItems (written : String) : List Json → String
  | [] => written
  | item :: items => appendItems (appendTo (written.push ',') item) items

/-- What is written so far, followed by the members of an object after its first one. -/
def appendMembers (written : String) : List (String × Json) → String
  | [] => written
  | (name, value) :: members =>
    let separated := (appendEscaped (written.push ',') name).push ':'
    appendMembers (appendTo separated value) members

end

def render (value : Json) : String :=
  value.appendTo ""

end AccessControl.Json
