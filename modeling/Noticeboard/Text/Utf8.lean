/-!
# Text in bytes

A character is written in one to four bytes.  The first byte tells how many follow and narrows the
range of the second, so that no character has two spellings.  Bytes that do not fit are reported
with their place, or each such stretch is read as one replacement character.
-/

namespace Noticeboard.Text.Utf8

/-- What stands at the head of some bytes. -/
inductive Piece where
  | char (c : Char)
  | broken (size : Nat)
  | cut
  deriving Repr, DecidableEq

/-- What a first byte says: its bits of the character, the number of bytes that follow, and the
range of the next of them. -/
structure Leader where
  bits : Nat
  following : Nat := 0
  low : Nat := 0x80
  high : Nat := 0xBF

def Leader.ofByte? (byte : Nat) : Option Leader :=
  if byte < 0x80 then some { bits := byte }
  else if byte < 0xC2 then none
  else if byte < 0xE0 then some { bits := byte - 0xC0, following := 1 }
  else if byte = 0xE0 then some { bits := 0, following := 2, low := 0xA0 }
  else if byte = 0xED then some { bits := 0xD, following := 2, high := 0x9F }
  else if byte < 0xF0 then some { bits := byte - 0xE0, following := 2 }
  else if byte = 0xF0 then some { bits := 0, following := 3, low := 0x90 }
  else if byte < 0xF4 then some { bits := byte - 0xF0, following := 3 }
  else if byte = 0xF4 then some { bits := 4, following := 3, high := 0x8F }
  else none

/-- Reads the bytes that follow a first byte; `size` bytes were read before. -/
def readFollowing (bits size low high : Nat) : Nat → List Nat → Piece × List Nat
  | 0, rest => (.char (Char.ofNat bits), rest)
  | _ + 1, [] => (.cut, [])
  | following + 1, byte :: rest =>
    if low ≤ byte ∧ byte ≤ high then
      readFollowing (64 * bits + (byte - 0x80)) (size + 1) 0x80 0xBF following rest
    else (.broken size, byte :: rest)

def readPiece (byte : Nat) (rest : List Nat) : Piece × List Nat :=
  match Leader.ofByte? byte with
  | some leader => readFollowing leader.bits 1 leader.low leader.high leader.following rest
  | none => (.broken 1, rest)

def readPieces : Nat → List Nat → List Piece
  | 0, _ | _, [] => []
  | fuel + 1, byte :: rest =>
    let (piece, rest) := readPiece byte rest
    piece :: readPieces fuel rest

/-- The pieces that bytes are made of; there are at most as many as bytes. -/
def pieces (bytes : List Nat) : List Piece :=
  readPieces bytes.length bytes

/-- Bytes that are no text, and where they begin. -/
inductive Fault where
  | broken (size index : Nat)
  | cut (index : Nat)
  deriving Repr, DecidableEq

def Fault.message : Fault → String
  | .broken size index =>
    "invalid utf-8 sequence of " ++ toString size ++ " bytes from index " ++ toString index
  | .cut index => "incomplete utf-8 byte sequence from index " ++ toString index

def strictFrom (index : Nat) : List Piece → Except Fault (List Char)
  | [] => .ok []
  | .char c :: rest => (strictFrom (index + c.utf8Size) rest).map (c :: ·)
  | .broken size :: _ => .error (.broken size index)
  | .cut :: _ => .error (.cut index)

/-- Reads bytes that have to be a text. -/
def decode (bytes : List Nat) : Except Fault String :=
  (strictFrom 0 (pieces bytes)).map String.ofList

/-- Reads bytes with a replacement character for what is no text. -/
def decodeLossy (bytes : List Nat) : String :=
  String.ofList ((pieces bytes).map fun
    | .char c => c
    | .broken _ | .cut => Char.ofNat 0xFFFD)

def encode (text : String) : List Nat :=
  text.toUTF8.toList.map UInt8.toNat

end Noticeboard.Text.Utf8
