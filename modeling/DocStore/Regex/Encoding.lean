import DocStore.Regex

/-!
Encodings: texts as bytes (`bytesOf`), and classes as ranges of bytes (`encodings`).

The encodings of a class make a tree in which those with the same beginning share it.  Its
nodes are listed so that each stands behind the nodes below it (`nodesOf`).
-/

namespace DocStore.Regex

open Unicode (CodeRange)

/-! ## Texts -/

def bytesOf (text : List Char) : List UInt8 :=
  text.flatMap String.utf8EncodeChar

/-- Lists that begin alike and stand side by side, under what they begin with. -/
def byHead {α : Type} [DecidableEq α] (ws : List (List α)) : List (α × List (List α)) :=
  ws.foldr (fun
    | [], groups => groups
    | a :: w, [] => [(a, [w])]
    | a :: w, (b, ws) :: groups =>
      if a = b then (b, w :: ws) :: groups else (a, [w]) :: (b, ws) :: groups) []

/-! ## Classes -/

/-- The values from a first to a last one, for one byte of an encoding. -/
abbrev ByteRange : Type := Nat × Nat

/-- The numbers from `first` to `last`, of a leading digit and `n` digits of base 64, as
products of ranges of digits, in ascending order. -/
def digitRanges : Nat → Nat → Nat → List (List ByteRange)
  | 0, first, last => [[(first, last)]]
  | n + 1, first, last =>
    let block := Nat.pow 64 (n + 1)
    let (high, high') := (first / block, last / block)
    let (low, low') := (first % block, last % block)
    let lead (digit : Nat) : List ByteRange → List ByteRange := ((digit, digit) :: ·)
    if high = high' then (digitRanges n low low').map (lead high)
    else
      let before := if low = 0 then [] else (digitRanges n low (block - 1)).map (lead high)
      let behind := if low' = block - 1 then [] else (digitRanges n 0 low').map (lead high')
      let start := if low = 0 then high else high + 1
      let stop := if low' = block - 1 then high' + 1 else high'
      let whole :=
        if start < stop then [(start, stop - 1) :: List.replicate (n + 1) (0, 63)] else []
      before ++ whole ++ behind

/-- The code points that an encoding of each length takes, with the digits behind the
leading byte and what the leading byte adds to its digit. -/
def lengthClasses : List (CodeRange × Nat × Nat) :=
  [((0, 0x7F), 0, 0), ((0x80, 0x7FF), 1, 0xC0), ((0x800, 0xFFFF), 2, 0xE0),
    ((0x10000, 0x10FFFF), 3, 0xF0)]

def marked (mark : Nat) (r : ByteRange) : ByteRange :=
  (r.1 + mark, r.2 + mark)

/-- The encodings of a class as products of byte ranges, in ascending order. -/
def encodings (k : CharClass) : List (List ByteRange) :=
  k.ranges.toList.flatMap fun (first, last) =>
    lengthClasses.flatMap fun ((low, high), digits, mark) =>
      if max first low ≤ min last high then
        (digitRanges digits (max first low) (min last high)).map fun
          | [] => []
          | lead :: rest => marked mark lead :: rest.map (marked 0x80)
      else []

/-- A node of the tree: the bytes that come next, each with the index of the node behind it;
none where an encoding ends. -/
abbrev Node : Type := List (ByteRange × Option Nat)

/-- Add the nodes of encodings of at most `n` bytes.  The node of all of them comes last. -/
def addNodes : Nat → List (List ByteRange) → Array Node → Array Node
  | 0, _, nodes => nodes
  | n + 1, es, nodes =>
    let (nodes, node) := (byHead es).foldl (fun (nodes, node) (range, behind) =>
      if behind.all List.isEmpty then (nodes, (range, none) :: node)
      else
        let nodes := addNodes n behind nodes
        (nodes, (range, some (nodes.size - 1)) :: node)) (nodes, [])
    nodes.push node.reverse

/-- The tree of encodings; an encoding has at most four bytes. -/
def nodesOf (es : List (List ByteRange)) : Array Node :=
  addNodes 4 es #[]

end DocStore.Regex
