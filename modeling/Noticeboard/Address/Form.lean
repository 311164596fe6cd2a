import Noticeboard.Text.Hex
import Noticeboard.Text.Utf8

/-!
# Form fields

The part of an address after the question mark holds fields, written as names and values with
percent signs for bytes and plus signs for blanks.
-/

namespace Noticeboard.Address

/-- Puts bytes for their percent signs; a percent sign without two digits stands for itself. -/
def percentDecode : List Nat → List Nat
  | 0x25 :: high :: low :: rest =>
    match Text.hexValue? (Char.ofNat high), Text.hexValue? (Char.ofNat low) with
    | some high, some low => (16 * high + low) :: percentDecode rest
    | _, _ => 0x25 :: percentDecode (high :: low :: rest)
  | byte :: rest => byte :: percentDecode rest
  | [] => []

/-- Blanks are read before percent signs, so an escaped plus sign stays one. -/
def decodeFormText (bytes : List Nat) : String :=
  Text.Utf8.decodeLossy (percentDecode (bytes.map fun byte => if byte = 0x2B then 0x20 else byte))

/-- A field is cut at its first equals sign. -/
def decodeField (bytes : List Nat) : String × String :=
  let isSign (byte : Nat) : Bool := byte == 0x3D
  (decodeFormText (bytes.takeWhile (!isSign ·)),
    decodeFormText ((bytes.dropWhile (!isSign ·)).drop 1))

/-- The fields between ampersands; empty stretches hold none. -/
def formFields (text : String) : List (String × String) :=
  (((Text.Utf8.encode text).splitOn 0x26).filter fun bytes => !bytes.isEmpty).map decodeField

end Noticeboard.Address
