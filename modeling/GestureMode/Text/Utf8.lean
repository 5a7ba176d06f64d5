/-!
# Texts as bytes

`encode` writes a text as its UTF-8 bytes.  `decode` reads any bytes at all:
each well-formed sequence is its character, and each longest piece that starts a
sequence but does not finish it becomes one replacement character.
-/

set_option autoImplicit false

namespace GestureMode.Text.Utf8

def encode (s : String) : List UInt8 :=
  s.toList.flatMap String.utf8EncodeChar

def replacement : Char := '\ufffd'

/-- How many bytes the sequence opened by a byte has; zero when the byte opens none. -/
def sequenceLength (lead : UInt8) : Nat :=
  if lead ≤ 0x7F then 1
  else if 0xC2 ≤ lead && lead ≤ 0xDF then 2
  else if 0xE0 ≤ lead && lead ≤ 0xEF then 3
  else if 0xF0 ≤ lead && lead ≤ 0xF4 then 4
  else 0

def isContinuation (b : UInt8) : Bool :=
  0x80 ≤ b && b ≤ 0xBF

/-- The second byte is narrower after four of the leads: that keeps out overlong
forms, surrogates and values past the last code point. -/
def allowsSecond (lead second : UInt8) : Bool :=
  if lead == 0xE0 then 0xA0 ≤ second && second ≤ 0xBF
  else if lead == 0xED then 0x80 ≤ second && second ≤ 0x9F
  else if lead == 0xF0 then 0x90 ≤ second && second ≤ 0xBF
  else if lead == 0xF4 then 0x80 ≤ second && second ≤ 0x8F
  else isContinuation second

def payload (b : UInt8) : Nat :=
  b.toNat % 64

def decodeChars : List UInt8 → List Char
  | [] => []
  | a :: as =>
    match sequenceLength a with
    | 0 => replacement :: decodeChars as
    | 1 => Char.ofNat a.toNat :: decodeChars as
    | n =>
      match as with
      | [] => [replacement]
      | b :: bs =>
        if allowsSecond a b then
          if n = 2 then
            Char.ofNat (a.toNat % 32 * 64 + payload b) :: decodeChars bs
          else
            match bs with
            | [] => [replacement]
            | c :: cs =>
              if isContinuation c then
                if n = 3 then
                  Char.ofNat (a.toNat % 16 * 4096 + payload b * 64 + payload c) :: decodeChars cs
                else
                  match cs with
                  | [] => [replacement]
                  | d :: ds =>
                    if isContinuation d then
                      Char.ofNat (a.toNat % 8 * 262144 + payload b * 4096 + payload c * 64 +
                        payload d) :: decodeChars ds
                    else replacement :: decodeChars (d :: ds)
              else replacement :: decodeChars (c :: cs)
        else replacement :: decodeChars (b :: bs)

def decode (bytes : List UInt8) : String :=
  String.ofList (decodeChars bytes)

end GestureMode.Text.Utf8
