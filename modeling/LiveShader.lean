import LiveShader.Answer
import LiveShader.Answer.Wire
import LiveShader.Build
import LiveShader.CallbackQueue
import LiveShader.Canvas
import LiveShader.Decimal.Binary
import LiveShader.Decimal.Fixed
import LiveShader.Decimal.Shortest
import LiveShader.Device.Objects
import LiveShader.Device.Recording
import LiveShader.Device.Request
import LiveShader.Device.Scripted
import LiveShader.Digest
import LiveShader.Engine
import LiveShader.Failure
import LiveShader.Fence.Assign
import LiveShader.Fence.Block
import LiveShader.Fence.Scan
import LiveShader.Gl.Call
import LiveShader.Gl.Command
import LiveShader.Gl.Exposed
import LiveShader.Gl.FrontEnd
import LiveShader.Gl.Fronted
import LiveShader.Holdings
import LiveShader.Json.Doc
import LiveShader.Json.Numeral
import LiveShader.Json.Problem
import LiveShader.Json.Quotation
import LiveShader.Json.Record
import LiveShader.Json.Token
import LiveShader.Json.Value
import LiveShader.LogFilter
import LiveShader.Matrix
import LiveShader.Mesh
import LiveShader.Notice
import LiveShader.Parameters
import LiveShader.Parameters.Wire
import LiveShader.Pattern.Automaton
import LiveShader.Pattern.Basic
import LiveShader.Pattern.ByteRange
import LiveShader.Pattern.CharSet
import LiveShader.Pattern.Escape
import LiveShader.Pattern.Extent
import LiveShader.Pattern.Literal
import LiveShader.Pattern.Mode
import LiveShader.Pattern.Nesting
import LiveShader.Pattern.Normal
import LiveShader.Pattern.Reader
import LiveShader.Pattern.SetReader
import LiveShader.Phase
import LiveShader.Plan
import LiveShader.Proofs.Building
import LiveShader.Proofs.Contract
import LiveShader.Proofs.Course
import LiveShader.Proofs.Frames
import LiveShader.Proofs.Handoff
import LiveShader.Proofs.Live
import LiveShader.Proofs.Queue
import LiveShader.Proofs.Stock
import LiveShader.Proofs.Token
import LiveShader.Session
import LiveShader.Shader.Builtin
import LiveShader.Shader.Code
import LiveShader.Text.Blank
import LiveShader.Text.Hex
import LiveShader.Text.Letter
import LiveShader.Text.Printable
import LiveShader.Text.Quoted
import LiveShader.Text.Search
import LiveShader.Text.Slice
import LiveShader.View
import LiveShader.Proofs.Attempt
import LiveShader.Proofs.Verdict
import LiveShader.Proofs.Dependable
import LiveShader.Proofs.Memory
import LiveShader.Proofs.Rendering
import LiveShader.Proofs.RoundTrip
import LiveShader.Gl.Pipeline
import LiveShader.Proofs.OverGl
import LiveShader.Proofs.DrawState
import LiveShader.Proofs.Removal
import LiveShader.Proofs.FrontEnds
import LiveShader.Proofs.Orderly
import LiveShader.Proofs.Shift
import LiveShader.Proofs.Mirror
import LiveShader.Proofs.Isolation
import LiveShader.Json.Grammar
import LiveShader.Proofs.Reading
import LiveShader.Proofs.Records
import LiveShader.Proofs.Schema
import LiveShader.Proofs.Truncation
import LiveShader.Proofs.Fences
import LiveShader.Proofs.ProseStages
import LiveShader.Proofs.Preparation
import LiveShader.Proofs.Ledger
import LiveShader.Proofs.Reaction
import LiveShader.Proofs.Redraw
import LiveShader.Proofs.Tenure
import LiveShader.Proofs.Stranded
import LiveShader.Proofs.Requests
import LiveShader.Proofs.FenceLines
import LiveShader.Proofs.Choice
import LiveShader.Proofs.Hints
import LiveShader.Proofs.Clean
import LiveShader.Proofs.Layout
import LiveShader.Proofs.Deletion
import LiveShader.Proofs.Foreign
import LiveShader.Proofs.Overrides
import LiveShader.Proofs.Singles
import LiveShader.Proofs.Aspect
import LiveShader.Proofs.Counters
