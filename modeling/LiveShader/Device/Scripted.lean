import LiveShader.Device.Objects

/-!
# A device with telling answers

The scripted device derives its answers from the sources: a location shows where a name stands or
how long it is, and an info log says what is wrong and where.
-/

namespace LiveShader.Scripted

/-- The info log of a shader: empty if it compiled or is not there, or if its text asks for
silence; else it names the place of the `#error` line, or the length of the text. -/
def shaderLog : Option ShaderObject → String
  | none => ""
  | some s =>
    if s.compiled || Text.mentions s.text "#silent" then ""
    else
      match Text.offset? "#error".toList s.text.toList with
      | some n => "ERROR: #error at byte " ++ toString n ++ "\n"
      | none => "ERROR: no void main in " ++ toString s.text.utf8ByteSize ++ " bytes"

/-- A uniform is found if some line declares it; its location is the length of its name. -/
def uniform (sources : List String) (name : String) : Option Nat :=
  if sources.any (Objects.declaresUniform name) then some name.utf8ByteSize else none

/-- The number of line feeds before the first occurrence of a name. -/
def lineOf (name : List Char) : List Char → Option Nat
  | [] => if name.isEmpty then some 0 else none
  | c :: cs =>
    if name.isPrefixOf (c :: cs) then some 0
    else (lineOf name cs).map fun n => if c = '\n' then n + 1 else n

/-- An attribute is found if some source has its name; its location is the number of the line, from
zero, in the first such source. -/
def attrib (sources : List String) (name : String) : Option Nat :=
  sources.findSome? fun s => lineOf name.toList s.toList

/-- Two existing stages make a program. -/
def rules : Rules where
  links _ existing := existing == 2
  shaderLog := shaderLog
  uniform := uniform
  attrib := attrib

/-- The scripted device. -/
abbrev device : Device := Objects.device rules

end LiveShader.Scripted
