import BulkLoad.Text
import BulkLoad.Text.Lossy

/-!
The end of what a process says: the last lines of a stream within a budget of bytes, each cut to a
number of characters.
-/

namespace BulkLoad.Sink

/-- The most bytes that are kept of a stream, counting one for the end of each line. -/
def tailBytes : Nat := 16 * 1024

/-- The most characters that are kept of a line. -/
def lineChars : Nat := 2048

/-- The lines kept, with the count of their bytes. The later ones are kept backwards, so that lines
are cheap to add and to drop. -/
structure Tail where
  earlier : List String := []
  later : List String := []
  bytes : Nat := 0
  deriving DecidableEq, Inhabited

namespace Tail

def lines (t : Tail) : List String := t.earlier ++ t.later.reverse

/-- The bytes of a line with its end. -/
def cost (line : String) : Nat := Bytes.lengthOfText line + 1

/-- A line cut to the characters that are kept. -/
def cut (line : String) : String := String.ofList (line.toList.take lineChars)

/-- Drops lines from the front while there are too many bytes. -/
def dropFront : List String → Nat → List String × Nat
  | [], bytes => ([], bytes)
  | line :: rest, bytes =>
    if tailBytes < bytes then dropFront rest (bytes - cost line) else (line :: rest, bytes)

/-- Drops the first lines until the rest is within the budget. -/
def shrink (t : Tail) : Tail :=
  match dropFront t.earlier t.bytes with
  | ([], bytes) =>
    if tailBytes < bytes then
      let kept := dropFront t.later.reverse bytes
      ⟨kept.1, [], kept.2⟩
    else ⟨[], t.later, bytes⟩
  | (earlier, bytes) => ⟨earlier, t.later, bytes⟩

/-- Takes one more line. -/
def push (t : Tail) (line : String) : Tail :=
  shrink { t with later := cut line :: t.later, bytes := t.bytes + cost (cut line) }

def text (t : Tail) : String := "\n".intercalate t.lines

end Tail

/-- Lines of a stream, backwards, with the ends that they have. -/
def splitLines : List Bytes → Bytes → Bytes → List Bytes
  | done, [], [] => done
  | done, current, [] => current.reverse :: done
  | done, current, b :: rest =>
    if b = 0x0A then splitLines ((b :: current).reverse :: done) [] rest
    else splitLines done (b :: current) rest

/-- A line of a stream as a text without its end. -/
def lineText (line : Bytes) : String :=
  String.ofList (Text.dropTrailing (fun c => c == '\r' || c == '\n') (Text.lossy line).toList)

/-- The end of a stream. -/
def tailText (stream : Bytes) : String :=
  ((splitLines [] [] stream).reverse.foldl (fun (t : Tail) line => t.push (lineText line)) {}).text

/-- The last line of a text; a line end at the end of the text starts no further line. -/
def lastLine? (s : String) : Option String :=
  let backwards := s.toList.reverse
  match backwards with
  | [] => none
  | _ =>
    let line := match backwards with
      | '\n' :: rest => rest
      | _ => backwards
    let chars := line.takeWhile (· != '\n')
    let chars := match backwards, chars with
      | '\n' :: _, '\r' :: rest => rest
      | _, _ => chars
    some (String.ofList chars.reverse)

end BulkLoad.Sink
