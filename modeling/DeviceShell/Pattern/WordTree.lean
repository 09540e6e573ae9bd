import DeviceShell.Pattern.Layout

/-!
# Trees of words

Words that are alternatives of each other are read with a tree in which
they share how they begin. A word that ends at a node comes between the
words that went into the tree before it and those that came later, so the
branches of a node are in groups.
-/

namespace DeviceShell.Layout

/-- Words cut into groups where one of them is empty. -/
def wordGroups : List (List Nat) → List (List (List Nat))
  | [] => [[]]
  | [] :: words => [] :: wordGroups words
  | word :: words =>
    match wordGroups words with
    | group :: groups => (word :: group) :: groups
    | [] => [[word]]

/-- Words without empty ones at the start that come after another. -/
def dropRepeatedEnds : List (List Nat) → List (List Nat)
  | [] :: words => [] :: words.dropWhile List.isEmpty
  | words => words

/-- What follows the first byte of some words, for each first byte. -/
def byFirstByte (words : List (List Nat)) : List (List (List Nat)) :=
  (words.filterMap List.head?).eraseDups.map fun byte =>
    words.filterMap fun word => if word.head? = some byte then
      some word.tail else none

/-- What trees of words take. A node has a state for each group of words that
branches from it, and a choice between those and the ends of words between the
groups. There are no more nodes with branches than bytes, so `fuel` above their
number is enough. -/
def treeLayout : Nat → List (List (List Nat)) → Layout → Layout
  | 0, _, l => l
  | _, [], l => l
  | fuel + 1, words :: rest, l =>
    let groups := wordGroups (dropRepeatedEnds words)
    let branches := (groups.filter (!·.isEmpty)).map byFirstByte
    let ranges := (branches.map List.length).filter (1 < ·)
    treeLayout fuel ((branches.flatten.filter (·.any (!·.isEmpty))) ++ rest)
      ⟨l.states + branches.length + 1,
        l.ways + 8 * ranges.foldl (· + ·) 0 + 4 *
          (branches.length + (groups.length - 1))⟩

/-- Lays out words, each a row of bytes: their tree, and the state where all of
them end. -/
def layWords? (words : List (List Nat)) (l : Layout) : Option Layout :=
  let tree := treeLayout ((words.map List.length).foldl (· + ·) 1) [words] {}
  l.grow? (tree.states + 1) tree.ways

end DeviceShell.Layout
