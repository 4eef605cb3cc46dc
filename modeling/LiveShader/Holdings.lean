import LiveShader.Build

/-!
# What a session holds on the device

`Holdings` name the objects that one session owns. They are given up all together, and only once.
-/

namespace LiveShader

open Engine

/-- The objects that one session owns, until they are given up. -/
structure Holdings where
  program : Option Program := none
  placed : Option PlacedMesh := none
  deriving DecidableEq, Repr

namespace Holdings

/-- Hold a program and its mesh. -/
def of (program : Program) (placed : PlacedMesh) : Holdings :=
  ⟨some program, some placed⟩

theorem of_inj {program program' : Program} {placed placed' : PlacedMesh}
    (h : of program placed = of program' placed') : program = program' ∧ placed = placed' := by
  rw [of, of, mk.injEq, Option.some_inj, Option.some_inj] at h
  exact h

/-- Whether nothing is held. -/
def isEmpty (h : Holdings) : Bool :=
  h.program.isNone && h.placed.isNone

/-- Delete everything that is held. A second time finds nothing to delete. -/
def giveUp (h : Holdings) : Engine Holdings := do
  h.program.forM Build.deleteProgram
  h.placed.forM PlacedMesh.delete
  return {}

end Holdings

end LiveShader
