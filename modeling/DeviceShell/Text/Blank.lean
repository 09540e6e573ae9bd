/-!
# Blanks, pieces and words

Everything the shell reads by hand is cut up with three tools: trimming,
splitting at separators, and splitting into words. All three are written on
`List Char`, where an induction can follow them, and the text they hand back
is a part of the text they were given. "Blank" is the Unicode property
White_Space and not the six ASCII characters, so a no-break space pasted into
a line separates words just as a space does.
-/

namespace DeviceShell.Text

/-- The characters with the Unicode property White_Space. -/
def isBlank (c : Char) : Bool :=
  let n := c.toNat
  (0x09 ≤ n && n ≤ 0x0D) || n == 0x20 || n == 0x85 || n ==
    0xA0 || n == 0x1680 ||
    (0x2000 ≤ n && n ≤ 0x200A) || n == 0x2028 || n == 0x2029 || n == 0x202F ||
    n == 0x205F || n == 0x3000

/-- Every character that core counts as white space is blank. -/
theorem isBlank_of_isWhitespace {c : Char} (h : c.isWhitespace = true) :
    isBlank c = true := by
  simp only [Char.isWhitespace, Bool.or_eq_true, decide_eq_true_eq] at h
  rcases h with ((rfl | rfl) | rfl) | rfl <;> decide

/-- The text without the blanks it starts with. -/
def trimStart (cs : List Char) : List Char :=
  cs.dropWhile isBlank

/-- The text without the blanks it ends with. -/
def trimEnd (cs : List Char) : List Char :=
  (cs.reverse.dropWhile isBlank).reverse

/-- The text without the blanks around it. -/
def trim (cs : List Char) : List Char :=
  trimEnd (trimStart cs)

/-- The parts of a list between its separators: one more than there are
separators, and any of them may be empty. -/
def pieces {α : Type} (isSeparator : α → Bool) : List α → List (List α)
  | [] => [[]]
  | a :: rest =>
    if isSeparator a then [] :: pieces isSeparator rest
    else (pieces isSeparator rest).modifyHead (a :: ·)

/-- There is always at least one piece. -/
theorem pieces_ne_nil {α : Type} (p : α → Bool) (as : List α) :
    pieces p as ≠ [] := by
  induction as with
  | nil => simp [pieces]
  | cons a rest ih =>
    rw [pieces]
    split
    · simp
    · cases h : pieces p rest with
      | nil => exact absurd h ih
      | cons q qs => simp

/-- The longest runs of characters that are not blank. -/
def words (cs : List Char) : List (List Char) :=
  (pieces isBlank cs).filter (!·.isEmpty)

/-- The comma-separated parts of a text, trimmed, without the empty ones. -/
def listItems (cs : List Char) : List (List Char) :=
  ((pieces (· == ',') cs).map trim).filter (!·.isEmpty)

/-- The text without `start` in front, if it has that. -/
def stripStart? (start : Char) : List Char → Option (List Char)
  | c :: rest => if c = start then some rest else none
  | [] => none

/-- The text without `stop` at its end, if it has that. -/
def stripEnd? (stop : Char) (cs : List Char) : Option (List Char) :=
  (stripStart? stop cs.reverse).map List.reverse

/-- The inside of a text that starts with `start` and, after that, ends with
`stop`. One character never serves as both. -/
def inside? (start stop : Char) (cs : List Char) : Option (List Char) :=
  (stripStart? start cs).bind (stripEnd? stop)

/-- `String` counterpart of `trim`. -/
def trimmed (s : String) : String :=
  String.ofList (trim s.toList)

/-- The text followed by spaces up to `width` characters; a longer text stays
as it is. -/
def padRight (width : Nat) (s : String) : String :=
  String.ofList (s.toList ++ List.replicate (width - s.toList.length) ' ')

end DeviceShell.Text
