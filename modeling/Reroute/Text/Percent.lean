/-
  Percent-encoding of one url component and its inverse.
  Encoding works on UTF-8 bytes; decoding takes every percent sign before two hexadecimal
  digits and leaves all others as they are.
-/
import Reroute.Text.Bytes
import Reroute.Text.CharSet

namespace Reroute.Text

/-- Bytes that a component keeps: ASCII, no control and no delimiter. -/
def isKept (b : UInt8) : Bool :=
  0x20 < b.toNat && b.toNat < 0x7F &&
    !(['~', '\'', '"', '\x60', '#', '<', '>', '?', '^', '\x7b', '\x7d', '/', ':', ';', '=', '@',
      '[', ']', '$', '&', '+', ',']).contains (Char.ofNat b.toNat)

def upperHex (n : Nat) : Char :=
  if n < 10 then Char.ofNat ('0'.toNat + n) else Char.ofNat ('A'.toNat + (n - 10))

def encodeByte (b : UInt8) : List Char :=
  if isKept b then [Char.ofNat b.toNat]
  else ['%', upperHex (b.toNat / 16), upperHex (b.toNat % 16)]

def percentEncodeList (cs : List Char) : List Char := (bytesOf cs).flatMap encodeByte

def percentEncode (s : String) : String := String.ofList (percentEncodeList s.toList)

/-- The bytes that a percent-encoded text stands for. Those that satisfy `stays` are left
encoded. -/
def percentBytesExcept (stays : UInt8 → Bool) : List Char → List UInt8
  | [] => []
  | '%' :: a :: b :: rest =>
    match CharSet.hexDigit? a, CharSet.hexDigit? b with
    | some x, some y =>
      if stays (UInt8.ofNat (x * 16 + y)) then 0x25 :: percentBytesExcept stays (a :: b :: rest)
      else UInt8.ofNat (x * 16 + y) :: percentBytesExcept stays rest
    | _, _ => 0x25 :: percentBytesExcept stays (a :: b :: rest)
  | c :: rest => String.utf8EncodeChar c ++ percentBytesExcept stays rest

/-- Decodes all but the bytes that satisfy `stays`. -/
def percentDecodeExcept (stays : UInt8 → Bool) (cs : List Char) : List Char :=
  readBytes (percentBytesExcept stays cs)

def percentDecodeList (cs : List Char) : List Char := percentDecodeExcept (fun _ => false) cs

def percentDecode (s : String) : String := String.ofList (percentDecodeList s.toList)

example : percentEncode "a/b é" = "a%2Fb%20%C3%A9" := by cbv

end Reroute.Text
