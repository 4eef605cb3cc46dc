/-!
# How deep a written pattern nests

A group, a repetition and a set between brackets are each one level further out than what they hold,
and so is a row of two or more parts, alternatives or items of a set. `Nested` keeps the depth of a
written form beside what was read from it, and `Row` that of a row while it grows.

Results:
* `depth_add_le_whole`: an item is no deeper than the row it stands in.
-/

namespace LiveShader.Pattern

/-- What was read, with the depth of its written form. -/
structure Nested (α : Type) where
  value : α
  depth : Nat := 0

/-- The depth above which a pattern is refused. -/
def depthLimit : Nat := 250

/-- Items in a row, the latest first. -/
structure Row (α : Type) where
  items : List α := []
  /-- The depth of the deepest. -/
  deepest : Nat := 0

namespace Row

variable {α : Type}

/-- With one more item. -/
def add (r : Row α) (item : Nested α) : Row α where
  items := item.value :: r.items
  deepest := max r.deepest item.depth

/-- The row read as a whole; a single item is no deeper for standing alone. -/
def whole (join : List α → α) (r : Row α) : Nested α where
  value := join r.items.reverse
  depth :=
    match r.items with
    | [] | [_] => r.deepest
    | _ => r.deepest + 1

theorem depth_add_le_whole (join : List α → α) (r : Row α) (item : Nested α) :
    item.depth ≤ ((r.add item).whole join).depth := by
  simp only [add, whole]
  split <;> omega

end Row

end LiveShader.Pattern
