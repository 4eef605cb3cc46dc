/-!
# Names the engine feeds, and the built-in stages

The vertex attribute and the uniforms that a shader may declare to be fed by the engine, and the
two stages that stand in for a missing one. Both are written in GLSL ES 3.00.
-/

namespace LiveShader.Builtin

/-- The vertex attribute that carries the mesh position. -/
def positionAttribute : String := "a_position"

/-- A `float`: seconds since the session started rendering. -/
def timeUniform : String := "u_time"

/-- A `vec2`: the size of the backing store in pixels. -/
def resolutionUniform : String := "u_resolution"

/-- A `mat4`: projection × view × model. A vertex stage that names it is drawn on the cube. -/
def cameraUniform : String := "u_modelViewProjectionMatrix"

/-- The vertex stage used when none is supplied: it passes the position through. -/
def vertexText : String :=
  "#version 300 es\n" ++
  "in vec4 a_position;\n" ++
  "\n" ++
  "void main() \x7b\n" ++
  "    gl_Position = a_position;\n" ++
  "\x7d\n"

/-- The fragment stage used when none is supplied: the colour cycles with the time. -/
def fragmentText : String :=
  "#version 300 es\n" ++
  "precision highp float;\n" ++
  "\n" ++
  "uniform float u_time;\n" ++
  "\n" ++
  "out vec4 frag_color;\n" ++
  "\n" ++
  "void main() \x7b\n" ++
  "    frag_color = vec4(\n" ++
  "        sin(u_time) * 0.5 + 0.5,\n" ++
  "        cos(u_time) * 0.5 + 0.5,\n" ++
  "        sin(u_time + 3.14) * 0.5 + 0.5,\n" ++
  "        1.0\n" ++
  "    );\n" ++
  "\x7d\n"

end LiveShader.Builtin
