import LiveShader.Text.Printable

/-!
# Foreign text inside a message

`quoted` puts a text between double quotes so that the message stays on one line: quotes and
backslashes take a backslash, the common controls have letters, and every character that would not
show itself is written by its number.
-/

namespace LiveShader.Text

/-- The character as it stands between the quotes. -/
def quotedChar (c : Char) : List Char :=
  if c = '\x00' then ['\\', '0']
  else if c = '\t' then ['\\', 't']
  else if c = '\r' then ['\\', 'r']
  else if c = '\n' then ['\\', 'n']
  else if c = '"' ∨ c = '\\' then ['\\', c]
  else if showsItself c then [c]
  else ['\\', 'u', '\x7b'] ++ Nat.toDigits 16 c.toNat ++ ['\x7d']

/-- The text between double quotes. -/
def quoted (text : String) : String :=
  String.ofList ('"' :: text.toList.flatMap quotedChar ++ ['"'])

end LiveShader.Text
