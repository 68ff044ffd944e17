/-!
# PNG headers

The sides of a picture as the first bytes of a PNG file tell them. Nothing else of the file is
looked at.
-/

namespace NoteChart.Png

/-- The bytes that every file starts with, and the start of its first chunk, the header. -/
def signature : List UInt8 :=
  [0x89, 0x50, 0x4e, 0x47, 0x0d, 0x0a, 0x1a, 0x0a, 0, 0, 0, 13, 0x49, 0x48, 0x44, 0x52]

/-- The number that some bytes are, highest byte first. -/
def number (bytes : List UInt8) : Nat := bytes.foldl (fun n byte ↦ 256 * n + byte.toNat) 0

/-- The width and height of the picture in a file. -/
def sides? (bytes : List UInt8) : Option (Nat × Nat) :=
  let header := bytes.drop signature.length
  if bytes.take signature.length = signature ∧ 8 ≤ header.length then
    some (number (header.take 4), number ((header.drop 4).take 4))
  else none

end NoteChart.Png
