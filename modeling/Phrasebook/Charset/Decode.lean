import Phrasebook.Charset.Basic

/-! The text that the bytes of a file stand for. -/

namespace Phrasebook.Charset

/-- The character of a single byte. -/
def byteChar? (upper : List Nat) (byte : UInt8) : Option Char :=
  if byte < 128 then some (Char.ofNat byte.toNat)
  else
    match upper[byte.toNat - 128]? with
    | some 0xfffd => none
    | some n => some (Char.ofNat n)
    | none => none

/-- The words of two bytes each; a single byte at the end is none. -/
def words? (bigEndian : Bool) : List UInt8 → Option (List Nat)
  | [] => some []
  | [_] => none
  | a :: b :: rest =>
    let word := if bigEndian then a.toNat * 256 + b.toNat else b.toNat * 256 + a.toNat
    (words? bigEndian rest).map (word :: ·)

/-- The characters that words of sixteen bits stand for. A character beyond the first plane takes two
of them, and half of such a pair stands for nothing. -/
def ofWords? : List Nat → Option (List Char)
  | [] => some []
  | word :: rest =>
    if 0xdc00 ≤ word ∧ word < 0xe000 then none
    else if 0xd800 ≤ word ∧ word < 0xdc00 then
      match rest with
      | second :: rest =>
        if 0xdc00 ≤ second ∧ second < 0xe000 then
          (ofWords? rest).map (Char.ofNat (0x10000 + (word - 0xd800) * 0x400 + (second - 0xdc00)) :: ·)
        else none
      | [] => none
    else (ofWords? rest).map (Char.ofNat word :: ·)

/-- A decoder for sets of characters of several bytes, which it knows by their names: the text of bytes, if all of them
stand for something. -/
abbrev Decoder := String → ByteArray → Option String

/-- The decoder that knows the bytes below 128 only, which are ASCII characters in each of the sets. -/
def asciiDecoder : Decoder := fun _ bytes =>
  (bytes.toList.mapM (byteChar? [])).map String.ofList

/-- The text of bytes in a character set, if all of them stand for something. -/
def text? (decoder : Decoder) : Charset → ByteArray → Option String
  | .utf8, bytes => String.fromUTF8? bytes
  | .utf16 bigEndian, bytes => ((words? bigEndian bytes.toList).bind ofWords?).map String.ofList
  | .singleByte _ upper, bytes => (bytes.toList.mapM (byteChar? upper)).map String.ofList
  | .multiByte name, bytes => decoder name bytes
  | .userDefined, bytes =>
    (bytes.toList.mapM (byteChar? ((List.range 128).map (0xf780 + ·)))).map String.ofList
  | .replacement, bytes => if bytes.isEmpty then some "" else none

/-- The character set that a mark at the start of the bytes tells, and the bytes behind the mark. -/
def marked? (bytes : ByteArray) : Option (Charset × ByteArray) :=
  if (bytes.extract 0 3).toList = [0xef, 0xbb, 0xbf] then some (.utf8, bytes.extract 3 bytes.size)
  else if (bytes.extract 0 2).toList = [0xff, 0xfe] then some (.utf16 false, bytes.extract 2 bytes.size)
  else if (bytes.extract 0 2).toList = [0xfe, 0xff] then some (.utf16 true, bytes.extract 2 bytes.size)
  else none

/-- The text of bytes in a character set; a mark at their start overrides the set. -/
def decode? (decoder : Decoder) (charset : Charset) (bytes : ByteArray) : Option String :=
  match marked? bytes with
  | some (told, rest) => told.text? decoder rest
  | none => charset.text? decoder bytes

end Phrasebook.Charset
