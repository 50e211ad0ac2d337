import ApiDocs.Console.Markup
import ApiDocs.Console.Wrap
/-!
Tables in frames.

The cells of a table hold text with markup.  A column is as wide as its widest cell, and when the table
does not fit on the console, the widest columns that may be broken shrink first.
-/

namespace ApiDocs.Console

/-- A column: its heading, whether its cells may be broken, and its cells. -/
structure Column where
  heading : Text
  isWrapped : Bool := true
  cells : List Text
  deriving Repr

/-! ## Widths of columns -/

def padding : Nat := 2

def askedWidth (room : Nat) (shown : Text) : Nat :=
  min room ((shown.lines.map width).foldl max 0 + padding)

/-- The width that a column asks for, out of `room`; too narrow a room is taken as a whole. -/
def columnWidth (room : Nat) (shown : List Text) : Nat :=
  if room ≤ padding then room else (shown.map (askedWidth room)).foldl max 0

/-- The integer that is nearest to a quotient; of two the even one. -/
def roundHalfEven (n d : Nat) : Nat :=
  let q := n / d
  if 2 * (n % d) < d then q
  else if d < 2 * (n % d) then q + 1
  else if q % 2 = 0 then q else q + 1

/-- A column that may shrink by at most `limit`; without a limit it keeps its width. -/
structure Shrinking where
  width : Nat
  limit : Nat

/-- The excess is taken in even parts from the columns with a limit, from the left to the right. -/
def shrinkFrom (excess shares : Nat) : List Shrinking → List Nat
  | [] => []
  | c :: rest =>
    if c.limit = 0 then c.width :: shrinkFrom excess shares rest
    else
      let part := min c.limit (roundHalfEven excess shares)
      (c.width - part) :: shrinkFrom (excess - part) (shares - 1) rest

def shrink (excess : Nat) (cs : List Shrinking) : List Nat :=
  shrinkFrom excess (cs.filter (0 < ·.limit)).length cs

def widthOf (widths : List Nat) : Nat := widths.foldl (· + ·) 0

/-- The widest of the columns that may be broken, which come with `true`, shrink to the next widest, and
so on until all fit into the room.  The fuel exceeds the sum of the widths. -/
def collapse (fuel room : Nat) (columns : List (Nat × Bool)) : List (Nat × Bool) :=
  match fuel with
  | 0 => columns
  | fuel + 1 =>
    let excess := widthOf (columns.map (·.1)) - room
    let breakable := (columns.filter (·.2)).map (·.1)
    let widest := breakable.foldl max 0
    let second := (breakable.filter (· ≠ widest)).foldl max 0
    if excess = 0 || widest = second then columns
    else
      let shrunk := shrink excess <| columns.map fun (w,isWrapped) =>
        ⟨w,if isWrapped && w = widest then min excess (widest - second) else 0⟩
      collapse fuel room (shrunk.zip (columns.map (·.2)))

/-- The widths of columns, given with what their cells show, that fit into the room as far as
possible. -/
def columnWidths (room : Nat) (columns : List (List Text × Bool)) : List Nat :=
  let asked := columns.map fun (shown,isWrapped) => (max 1 (columnWidth room shown),isWrapped)
  let total := widthOf (asked.map (·.1))
  if total ≤ room then asked.map (·.1)
  else
    let collapsed := (collapse (total + 1) room asked).map (·.1)
    let excess := widthOf collapsed - room
    let fitted := if excess = 0 then collapsed else shrink excess (collapsed.map fun w => ⟨w,w⟩)
    List.zipWith (fun w (shown,_) => columnWidth w shown) fitted columns

/-! ## Frames -/

/-- The signs of a line of a frame: its left end, what is repeated, what divides columns, its right
end. -/
structure Rule where
  left : Nat
  line : Nat
  divider : Nat
  right : Nat

def topRule : Rule := ⟨0x250F,0x2501,0x2533,0x2513⟩

def headRule : Rule := ⟨0x2521,0x2501,0x2547,0x2529⟩

def bottomRule : Rule := ⟨0x2514,0x2500,0x2534,0x2518⟩

def headBar : Nat := 0x2503

def cellBar : Nat := 0x2502

def Rule.text (r : Rule) (widths : List Nat) : Text :=
  r.left :: (Text.join [r.divider] (widths.map (Text.repeated · r.line)) ++ [r.right])

/-! ## Rows -/

/-- The lines of a cell of a given width; without room for text it has none. -/
def cellLines (width : Nat) (isWrapped : Bool) (shown : Text) : List Text :=
  if width ≤ padding then []
  else
    let layout : Layout := ⟨width - padding,.ellipsis,isWrapped,true⟩
    (layout.lines shown).map fun line => 0x20 :: (line ++ [0x20])

/-- The lines of cells side by side, each with its width; short cells are filled up below, or above
for headings. -/
def rowLines (bar : Nat) (isHead : Bool) (cells : List (Nat × List Text)) : List Text :=
  let height := (cells.map (·.2.length)).foldl max 0
  let filled := cells.map fun (w,lines) =>
    let blank := List.replicate (height - lines.length) (Text.repeated w 0x20)
    let lines := if isHead then blank ++ lines else lines ++ blank
    if lines.isEmpty then [Text.repeated w 0x20] else lines
  (List.range (max 1 height)).map fun i =>
    bar :: (Text.join [bar] (filled.map fun lines => lines[i]?.getD []) ++ [bar])

def shownColumns : List Column → Except MarkupError (List (List Text × Bool))
  | [] => .ok []
  | c :: rest =>
    ((c.heading :: c.cells).mapM shownText).bind fun shown =>
      (shownColumns rest).map ((shown,c.isWrapped) :: ·)

/-- The lines of a table on a console of a given width.  Where there is no room for any text, the
markup is not looked at. -/
def tableLines (width : Nat) (columns : List Column) : Except MarkupError (List Text) :=
  let frame := columns.length + 1
  let rows := columns.map fun c => (c.heading :: c.cells).length
  let shown : Except MarkupError (List (List Text × Bool)) :=
    if width - frame ≤ padding then
      .ok (columns.map fun c => ((c.heading :: c.cells).map fun _ => [],c.isWrapped))
    else shownColumns columns
  shown.map fun shown =>
    let widths := columnWidths (width - frame) shown
    let row (i : Nat) : List (Nat × List Text) :=
      List.zipWith (fun w (cells,isWrapped) => (w,cellLines w isWrapped (cells[i]?.getD [])))
        widths shown
    let head := rowLines headBar true (row 0)
    let body := (List.range (rows.foldl max 0 - 1)).flatMap fun i =>
      rowLines cellBar false (row (i + 1))
    (topRule.text widths :: (head ++ headRule.text widths :: (body ++ [bottomRule.text widths]))).map
      fun line => if width < Console.width line then fit width line else line

end ApiDocs.Console
