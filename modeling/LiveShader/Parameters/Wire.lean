import LiveShader.Parameters
import LiveShader.Json.Record

/-!
# Rendering parameters as JSON

A document overrides any subset of the parameters; the others keep their defaults. The colour is an
array of four numbers, the place of the camera one of three. The reason why a document could not be
read is given without the line and the column (`Json.Problem`).
-/

namespace LiveShader

open Json

namespace Color

/-- How the items of an array become components. -/
def setters : List (Setter Color) :=
  [.of Doc.readSingle fun x c => { c with r := x },
    .of Doc.readSingle fun x c => { c with g := x },
    .of Doc.readSingle fun x c => { c with b := x },
    .of Doc.readSingle fun x c => { c with a := x }]

/-- Read a colour. -/
def read : Doc → Except Problem Color :=
  Doc.readArray setters ⟨0, 0, 0, 0⟩

end Color

namespace Vec3

/-- How the items of an array become components. -/
def setters : List (Setter Vec3) :=
  [.of Doc.readSingle fun t v => { v with x := t },
    .of Doc.readSingle fun t v => { v with y := t },
    .of Doc.readSingle fun t v => { v with z := t }]

/-- Read a vector. -/
def read : Doc → Except Problem Vec3 :=
  Doc.readArray setters ⟨0, 0, 0⟩

end Vec3

namespace Parameters

/-- How parameters are read. -/
def record : Record Parameters where
  title := "RenderConfig"
  fields := [
    { name := "clearColor", put := .of Color.read fun x p => { p with background := x } },
    { name := "fieldOfViewDegrees"
      put := .of Doc.readSingle fun x p => { p with viewAngle := x } },
    { name := "near", put := .of Doc.readSingle fun x p => { p with near := x } },
    { name := "far", put := .of Doc.readSingle fun x p => { p with far := x } },
    { name := "eye", put := .of Vec3.read fun x p => { p with eye := x } }]
  blank := {}

/-- Read parameters. -/
def parse (text : String) : Except Problem Parameters :=
  readAll record.read text

end Parameters

end LiveShader
