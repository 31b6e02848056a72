import AnnotatedSql.Error
import AnnotatedSql.Source.Piece
import AnnotatedSql.Text.Bytes

/-!
The statements of a source text. A semicolon outside quotes and comments ends one; what holds only comments and
blanks is no statement.
-/
namespace AnnotatedSql.Source

/-- Where a statement stands in its source. -/
structure Extent where
  /-- Byte offset of its first character that is not blank. -/
  location : Nat
  /-- Length in bytes, without blanks at its end and without the semicolon. -/
  length : Nat
  /-- Whether a semicolon ends it. -/
  terminated : Bool
deriving Repr, DecidableEq

/-- The text at an extent, if the extent lies on characters of the source. -/
def Extent.text? (extent : Extent) (source : List Char) : Option (List Char) :=
  Text.slice? source extent.location (extent.location + extent.length)

/-- A statement's text, which a semicolon has to end. -/
def Extent.pluck (extent : Extent) (text : List Char) : Except Error (List Char) :=
  if extent.terminated && extent.length != 0 then .ok text else .error .missingTerminator

def concat (chunk : List Piece) : List Char :=
  chunk.flatMap Piece.text

/-- The extent of the statement in a chunk that starts at a byte offset. -/
def extentOf (start : Nat) (chunk : List Piece) (terminated : Bool) : Option Extent :=
  if chunk.any (·.role == .code) then
    let text := concat chunk
    let body := Text.trimStart text
    some {
      location := start + (Text.byteSize text - Text.byteSize body)
      length := Text.byteSize (Text.trim text)
      terminated }
  else none

/-- The extents of consecutive chunks, each but the last one ended by a semicolon. -/
def extentsFrom (start : Nat) : List (List Piece) → List Extent
  | [] => []
  | [last] => (extentOf start last false).toList
  | chunk :: next :: rest =>
    (extentOf start chunk true).toList ++ extentsFrom (start + Text.byteSize (concat chunk) + 1) (next :: rest)

/-- The statements of a source text, in order. -/
def statements (dialect : Dialect) (source : List Char) : List Extent :=
  extentsFrom 0 ((pieces dialect source).splitOnP (·.role == .terminator))

end AnnotatedSql.Source
