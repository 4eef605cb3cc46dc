import LiveShader.Pattern.Basic
import LiveShader.Text.Search

/-!
# How long a piece can be, and where it must be

`Pattern.shortest` and `Pattern.longest` bound the pieces that a pattern stands for, in bytes.
`Pattern.startsText` and `Pattern.endsText` say that every piece is at the start or the end of the
text; they look at the edges that a pattern begins and ends with.
-/

namespace LiveShader.Pattern

/-- The length of the shortest piece in bytes; `none` if a part stands for nothing at all. -/
def shortest : Pattern → Option Nat
  | .empty | .edge _ => some 0
  | .text cs => some (Text.byteLength cs)
  | .one s _ => s.ranges.head?.map fun r => r.low.utf8Size
  | .seq p q => p.shortest.bind fun m => q.shortest.map (m + ·)
  | .alt p q => p.shortest.bind fun m => q.shortest.map (min m)
  | .times p low _ _ => p.shortest.map (· * low)
  | .group _ p => p.shortest

/-- The length of the longest piece in bytes; `none` if a part stands for nothing at all, or there
is no longest piece. -/
def longest : Pattern → Option Nat
  | .empty | .edge _ => some 0
  | .text cs => some (Text.byteLength cs)
  | .one s _ => s.ranges.getLast?.map fun r => r.high.utf8Size
  | .seq p q => p.longest.bind fun m => q.longest.map (m + ·)
  | .alt p q => p.longest.bind fun m => q.longest.map (max m)
  | .times p _ high _ => high.bind fun h => p.longest.map (· * h)
  | .group _ p => p.longest

/-- Whether a piece must start where the text starts. -/
def startsText : Pattern → Bool
  | .edge e => e == .textStart
  | .seq p q => p.startsText || p.longest == some 0 && q.startsText
  | .alt p q => p.startsText && q.startsText
  | .times p low _ _ => 0 < low && p.startsText
  | .group _ p => p.startsText
  | _ => false

/-- Whether a piece must end where the text ends. -/
def endsText : Pattern → Bool
  | .edge e => e == .textEnd
  | .seq p q => q.endsText || q.longest == some 0 && p.endsText
  | .alt p q => p.endsText && q.endsText
  | .times p low _ _ => 0 < low && p.endsText
  | .group _ p => p.endsText
  | _ => false

end LiveShader.Pattern
