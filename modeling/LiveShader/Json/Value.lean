import LiveShader.Json.Numeral
import LiveShader.Text.Hex

/-!
# JSON values and their compact text

`Value` is the tree of a complete JSON text; `Value.render` writes it without blanks, members in
their order. Of a text's characters only the quote, the backslash and those below U+0020 are
escaped.
-/

namespace LiveShader.Json

/-- A JSON value. Members keep their order and may repeat. -/
inductive Value where
  | null
  | bool (b : Bool)
  | number (w : Numeral)
  | text (t : String)
  | seq (items : List Value)
  | map (members : List (String × Value))

/-! ## Writing -/

/-- A character as it stands between quotes. -/
def escaped (c : Char) : List Char :=
  if c = '"' ∨ c = '\\' then ['\\', c]
  else if c = '\x08' then ['\\', 'b']
  else if c = '\x0c' then ['\\', 'f']
  else if c = '\n' then ['\\', 'n']
  else if c = '\r' then ['\\', 'r']
  else if c = '\t' then ['\\', 't']
  else if c.toNat < 0x20 then
    ['\\', 'u', '0', '0', Text.hexDigit (c.toNat / 16), Text.hexDigit (c.toNat % 16)]
  else [c]

/-- A text between quotes. -/
def quote (t : String) : List Char :=
  '"' :: t.toList.flatMap escaped ++ ['"']

/-- A number as written. -/
def Numeral.render (w : Numeral) : List Char :=
  (if w.negative then ['-'] else []) ++ w.whole ++
    (if w.fraction.isEmpty then [] else '.' :: w.fraction) ++
    match w.exponent with
    | none => []
    | some (negative, ds) => 'e' :: (if negative then ['-'] else []) ++ ds

/-- A list without the comma that would stand before its first piece. -/
def withoutComma (cs : List Char) : List Char :=
  cs.drop 1

mutual

/-- The compact text of a value. -/
def Value.render : Value → List Char
  | .null => ['n', 'u', 'l', 'l']
  | .bool true => ['t', 'r', 'u', 'e']
  | .bool false => ['f', 'a', 'l', 's', 'e']
  | .number w => w.render
  | .text t => quote t
  | .seq items => '[' :: withoutComma (Value.renderItems items) ++ [']']
  | .map members => '\x7b' :: withoutComma (Value.renderMembers members) ++ ['\x7d']

/-- The items of an array, each after a comma. -/
def Value.renderItems : List Value → List Char
  | [] => []
  | v :: vs => ',' :: v.render ++ Value.renderItems vs

/-- The members of an object, each after a comma. -/
def Value.renderMembers : List (String × Value) → List Char
  | [] => []
  | (k, v) :: ms => ',' :: quote k ++ ':' :: v.render ++ Value.renderMembers ms

end

end LiveShader.Json
