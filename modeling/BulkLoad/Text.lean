/-!
Texts: white space as the Unicode property White_Space defines it and the trimming of texts by it,
and the replacement of one text in another, from left to right and without overlaps.
-/

namespace BulkLoad.Text

/-- White space, over all of Unicode. -/
def isBlank (c : Char) : Bool :=
  let n := c.toNat
  (9 ≤ n && n ≤ 13) || n == 0x20 || n == 0x85 || n == 0xA0 || n == 0x1680 ||
    (0x2000 ≤ n && n ≤ 0x200A) || n == 0x2028 || n == 0x2029 || n == 0x202F || n == 0x205F ||
    n == 0x3000

/-- Drops the characters at the end that a test accepts. -/
def dropTrailing (p : Char → Bool) (cs : List Char) : List Char :=
  (cs.reverse.dropWhile p).reverse

/-- A text without blanks at its two ends. -/
def trim (s : String) : String :=
  String.ofList (dropTrailing isBlank (s.toList.dropWhile isBlank))

/-- Nothing but blanks. -/
def isAllBlank (s : String) : Bool := s.toList.all isBlank

/-- Replaces occurrences of `pattern`; the next `skip` characters belong to one already replaced. -/
def replaceFrom (pattern replacement : List Char) : Nat → List Char → List Char
  | _, [] => []
  | skip + 1, _ :: rest => replaceFrom pattern replacement skip rest
  | 0, c :: rest =>
    if pattern.isPrefixOf (c :: rest) then
      replacement ++ replaceFrom pattern replacement (pattern.length - 1) rest
    else c :: replaceFrom pattern replacement 0 rest

/-- Replaces every occurrence of a text that is not empty. -/
def replaceAll (pattern replacement text : String) : String :=
  String.ofList (replaceFrom pattern.toList replacement.toList 0 text.toList)

/-- Writes one character twice wherever it stands. -/
def doubledChars (q : Char) (cs : List Char) : List Char :=
  cs.flatMap fun c => if c == q then [q, q] else [c]

def doubled (q : Char) (s : String) : String := String.ofList (doubledChars q s.toList)

end BulkLoad.Text
