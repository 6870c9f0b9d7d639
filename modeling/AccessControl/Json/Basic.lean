/-!
# JSON values

The values that a JSON text denotes, and the questions that a reader of records asks of them.
Numbers are kept apart by their written form: an integer literal denotes an integer of any size, and
a literal with a fraction, an exponent or a negative zero is kept as it stands, since no field
accepts it.
-/

set_option autoImplicit false

namespace AccessControl

/-- The value that a JSON text denotes. -/
inductive Json
  | null
  | bool (value : Bool)
  /-- An integer literal, negative zero apart. -/
  | integer (value : Int)
  /-- A number literal that is not an integer literal. -/
  | decimal (literal : String)
  | text (value : String)
  /-- A string literal that holds half of a surrogate pair, or an object with such a member name:
  the grammar admits it, but it denotes no Unicode text. -/
  | unpaired
  | array (items : List Json)
  | object (members : List (String × Json))

namespace Json

def member? (name : String) : Json → Option Json
  | .object members => members.lookup name
  | _ => none

/-- The value of a member that is present and not null. -/
def given? (name : String) (value : Json) : Option Json :=
  match value.member? name with
  | some .null => none
  | found => found

def asBool? : Json → Option Bool
  | .bool value => some value
  | _ => none

def asText? : Json → Option String
  | .text value => some value
  | _ => none

/-- The name that a value stands for: a name is written as a text, or as an object in which it is the
only member and null. -/
def asName? : Json → Option String
  | .text name => some name
  | .object [(name, .null)] => some name
  | _ => none

def asArray? : Json → Option (List Json)
  | .array items => some items
  | _ => none

def asInteger? : Json → Option Int
  | .integer value => some value
  | _ => none

/-- The number, of an integer literal that is at least zero and below a bound. -/
def asBelow? (bound : Nat) (value : Json) : Option Nat := do
  let n ← value.asInteger?
  if 0 ≤ n ∧ n < bound then some n.toNat else none

/-- The counter, of an integer literal between zero and `2 ^ 64 - 1`. -/
def asUInt64? (value : Json) : Option UInt64 :=
  (value.asBelow? UInt64.size).map UInt64.ofNat

/-- The identifier, of an integer literal between `-2 ^ 63` and `2 ^ 63 - 1`. -/
def asInt64? (value : Json) : Option Int64 := do
  let n ← value.asInteger?
  if Int64.minValue.toInt ≤ n ∧ n ≤ Int64.maxValue.toInt then some (Int64.ofInt n) else none

/-- The items of an array, all read by the same rule. -/
def asListOf? {α : Type} (read : Json → Option α) (value : Json) : Option (List α) := do
  (← value.asArray?).mapM read

/-- A value that may be null. -/
def asNullable? {α : Type} (read : Json → Option α) : Json → Option (Option α)
  | .null => some none
  | value => (read value).map some

/-- Whether any of the names occurs more than once among the members. -/
def hasRepeated (names : List String) (members : List (String × Json)) : Bool :=
  names.any fun name => 1 < (members.map Prod.fst).count name

/-- The fields of a structure, in the order of `names`. A structure is written as an object, each
field at most once and other members ignored, or as an array of its fields in order; such an array
may end early, but not before `least` fields are written. -/
def fields? (names : List String) (least : Nat) : Json → Option (List (Option Json))
  | .object members =>
    if hasRepeated names members then none else some (names.map fun name => members.lookup name)
  | .array items =>
    if least ≤ items.length ∧ items.length ≤ names.length then
      some (items.map some ++ List.replicate (names.length - items.length) none)
    else none
  | _ => none

/-- A field that has to be written. -/
def required? {α : Type} (read : Json → Option α) (field : Option Json) : Option α :=
  field.bind read

/-- A field that may be absent or null. -/
def optional? {α : Type} (read : Json → Option α) : Option Json → Option (Option α)
  | none => some none
  | some value => asNullable? read value

/-- A field that may be absent, but not null. -/
def defaulted? {α : Type} (fallback : α) (read : Json → Option α) : Option Json → Option α
  | none => some fallback
  | some value => read value

def ofOption {α : Type} (write : α → Json) : Option α → Json
  | none => .null
  | some value => write value

def ofUInt64 (n : UInt64) : Json := .integer n.toNat

def ofNat (n : Nat) : Json := .integer n

def ofTexts (texts : List String) : Json := .array (texts.map .text)

end Json

end AccessControl
