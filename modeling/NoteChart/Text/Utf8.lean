/-!
# Decoding UTF-8

Turns the bytes of a file into characters, or tells which bytes are none. The byte that leads a
character says how many follow and in which range the first of them lies; the narrower ranges keep
out overlong forms, halves of surrogate pairs and code points that do not exist.

A fault covers the bytes of a character up to the one that rules it out. Where the text ends too
early, it covers what there is.
-/

namespace NoteChart.Text

/-- Why some bytes are no character. -/
inductive Utf8Cause
  | badStart
  | badContinuation
  | endOfData
deriving DecidableEq

/-- A place where decoding fails: the byte there, its position, and the bytes the fault covers. -/
structure Utf8Fault where
  cause : Utf8Cause
  byte : Nat
  position : Nat
  length : Nat
deriving DecidableEq

/-- Two hexadecimal digits. -/
def hexByte (byte : Nat) : String :=
  String.ofList (([byte / 16, byte % 16]).map fun n ↦ Nat.digitChar n)

/-- The wording of a fault. -/
def Utf8Fault.message (fault : Utf8Fault) : String :=
  let place :=
    if fault.length = 1 then "byte 0x" ++ hexByte fault.byte ++ s!" in position {fault.position}"
    else s!"bytes in position {fault.position}-{fault.position + fault.length - 1}"
  let reason :=
    match fault.cause with
    | .badStart => "invalid start byte"
    | .badContinuation => "invalid continuation byte"
    | .endOfData => "unexpected end of data"
  "'utf-8' codec can't decode " ++ place ++ ": " ++ reason

/-- What a leading byte announces: its own share of the code point, the range of the next byte, and
the number of bytes that follow. -/
def leading? (byte : Nat) : Option (Nat × Nat × Nat × Nat) :=
  if byte < 0x80 then some (byte, 0, 0, 0)
  else if byte < 0xc2 then none
  else if byte < 0xe0 then some (byte - 0xc0, 0x80, 0xbf, 1)
  else if byte = 0xe0 then some (0, 0xa0, 0xbf, 2)
  else if byte = 0xed then some (0xd, 0x80, 0x9f, 2)
  else if byte < 0xf0 then some (byte - 0xe0, 0x80, 0xbf, 2)
  else if byte = 0xf0 then some (0, 0x90, 0xbf, 3)
  else if byte < 0xf4 then some (byte - 0xf0, 0x80, 0xbf, 3)
  else if byte = 0xf4 then some (4, 0x80, 0x8f, 3)
  else none

/-- Takes `count` continuation bytes, the first of them between `low` and `high`, onto the part of a
code point that was read. A failure tells its cause and the bytes that were taken. -/
def continuation (code taken low high : Nat) :
    Nat → List UInt8 → Except (Utf8Cause × Nat) (Nat × List UInt8)
  | 0, bytes => .ok (code, bytes)
  | _ + 1, [] => .error (.endOfData, taken)
  | count + 1, byte :: rest =>
    if low ≤ byte.toNat ∧ byte.toNat ≤ high then
      continuation (code * 64 + (byte.toNat - 0x80)) (taken + 1) 0x80 0xbf count rest
    else .error (.badContinuation, taken)

/-- Takes the character that `byte :: rest` starts with. -/
def character (byte : UInt8) (rest : List UInt8) : Except (Utf8Cause × Nat) (Char × List UInt8) :=
  match leading? byte.toNat with
  | none => .error (.badStart, 1)
  | some (code, low, high, count) =>
    (continuation code 1 low high count rest).map fun (code, rest) ↦ (Char.ofNat code, rest)

/-- Decodes bytes; `fuel` bounds the number of characters and `position` counts the bytes in
front. -/
def decodeFrom : Nat → Nat → List UInt8 → Except Utf8Fault (List Char)
  | 0, _, _ | _, _, [] => .ok []
  | fuel + 1, position, byte :: rest =>
    match character byte rest with
    | .error (cause, length) => .error ⟨cause, byte.toNat, position, length⟩
    | .ok (char, after) =>
      (decodeFrom fuel (position + (rest.length + 1 - after.length)) after).map (char :: ·)

/-- Decodes the bytes of a text. -/
def decodeUtf8 (bytes : List UInt8) : Except Utf8Fault (List Char) :=
  decodeFrom bytes.length 0 bytes

/-- The text with one way of ending a line: a carriage return, alone or before a line feed, becomes
a line feed. -/
def unifyLines : List Char → List Char
  | [] => []
  | '\r' :: '\n' :: rest => '\n' :: unifyLines rest
  | '\r' :: rest => '\n' :: unifyLines rest
  | c :: rest => c :: unifyLines rest

end NoteChart.Text
