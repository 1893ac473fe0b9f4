/-!
# Bytes as characters

UTF-8 writes a character in one to four bytes. The first byte says how many follow and which values the
second one may have; all others have the values `0x80` to `0xBF`.

`decodeLossy` reads bytes that may be damaged: what starts a character and is not finished becomes one
replacement character, and so does each byte that starts none.
-/

namespace Runbook.Text

/-- What the first byte of a character says about the others. -/
structure Lead where
  /-- The bits of the character that the first byte holds. -/
  bits : Nat
  /-- How many bytes follow. -/
  count : Nat
  /-- The values that the second byte may have. -/
  low : Nat := 0x80
  high : Nat := 0xBF

/-- What a first byte says; nothing if no character of several bytes starts with it. -/
def lead? (byte : Nat) : Option Lead :=
  if 0xC2 ≤ byte && byte ≤ 0xDF then some ⟨byte - 0xC0, 1, 0x80, 0xBF⟩
  else if byte == 0xE0 then some ⟨0, 2, 0xA0, 0xBF⟩
  else if byte == 0xED then some ⟨0xD, 2, 0x80, 0x9F⟩
  else if 0xE1 ≤ byte && byte ≤ 0xEF then some ⟨byte - 0xE0, 2, 0x80, 0xBF⟩
  else if byte == 0xF0 then some ⟨0, 3, 0x90, 0xBF⟩
  else if 0xF1 ≤ byte && byte ≤ 0xF3 then some ⟨byte - 0xF0, 3, 0x80, 0xBF⟩
  else if byte == 0xF4 then some ⟨4, 3, 0x80, 0x8F⟩
  else none

/-- The characters of some bytes. `pending` is a character of which not all bytes have been read yet. -/
def decodeFrom (pending : Option Lead) : List UInt8 → List Char
  | [] => if pending.isSome then ['\uFFFD'] else []
  | byte :: bytes =>
    let code := byte.toNat
    let start (before : List Char) : List Char :=
      if code < 0x80 then before ++ Char.ofNat code :: decodeFrom none bytes
      else match lead? code with
        | some lead => before ++ decodeFrom (some lead) bytes
        | none => before ++ '\uFFFD' :: decodeFrom none bytes
    match pending with
    | none => start []
    | some lead =>
      if lead.low ≤ code && code ≤ lead.high then
        let bits := 64 * lead.bits + (code - 0x80)
        if lead.count ≤ 1 then Char.ofNat bits :: decodeFrom none bytes
        else decodeFrom (some ⟨bits, lead.count - 1, 0x80, 0xBF⟩) bytes
      else start ['\uFFFD']

/-- The characters of some bytes, with replacements for what is no character. -/
def decodeLossy (bytes : List UInt8) : List Char :=
  decodeFrom none bytes

end Runbook.Text
