import Conform.Text.Quoted

/-!
# UTF-8

Decoding of bytes into characters, refusing what no encoder writes: overlong forms, surrogates and
numbers beyond the last character. A refusal says which bytes are at fault and why.
-/

namespace Conform.Text.Utf8

inductive Reason where
  | startByte
  | continuation
  | endOfData
deriving DecidableEq

/-- The bytes at positions `first` to `last` cannot be decoded; `byte` is the one at `first`. -/
structure Error where
  reason : Reason
  first : Nat
  last : Nat
  byte : UInt8
deriving DecidableEq

def Reason.message : Reason → String
  | .startByte => "invalid start byte"
  | .continuation => "invalid continuation byte"
  | .endOfData => "unexpected end of data"

def Error.message (error : Error) : String :=
  let place :=
    if error.first = error.last then
      "byte 0x" ++ String.ofList (hex 2 error.byte.toNat) ++ " in position " ++
        toString error.first
    else "bytes in position " ++ toString error.first ++ "-" ++ toString error.last
  "'utf-8' codec can't decode " ++ place ++ ": " ++ error.reason.message

def isContinuation (b : UInt8) : Bool := 0x80 ≤ b && b ≤ 0xbf

/-- The second bytes that may follow a lead byte of three or four. -/
def secondRange (lead : UInt8) : UInt8 × UInt8 :=
  if lead = 0xe0 then (0xa0, 0xbf)
  else if lead = 0xed then (0x80, 0x9f)
  else if lead = 0xf0 then (0x90, 0xbf)
  else if lead = 0xf4 then (0x80, 0x8f)
  else (0x80, 0xbf)

def isSecond (lead b : UInt8) : Bool :=
  let (low, high) := secondRange lead
  low ≤ b && b ≤ high

def bits (b : UInt8) (modulus : Nat) : Nat := b.toNat % modulus

def decodeFrom (position : Nat) (done : List Char) : List UInt8 → Except Error (List Char)
  | [] => .ok done.reverse
  | a :: rest =>
    let fail (reason : Reason) (length : Nat) : Except Error (List Char) :=
      .error ⟨reason, position, position + length - 1, a⟩
    if a < 0x80 then decodeFrom (position + 1) (Char.ofNat a.toNat :: done) rest
    else if a < 0xc2 then fail .startByte 1
    else if a < 0xe0 then
      match rest with
      | b :: rest =>
        if isContinuation b then
          decodeFrom (position + 2) (Char.ofNat (bits a 32 * 64 + bits b 64) :: done) rest
        else fail .continuation 1
      | [] => fail .endOfData 1
    else if a < 0xf0 then
      match rest with
      | b :: rest =>
        if isSecond a b then
          match rest with
          | c :: rest =>
            if isContinuation c then
              let code := (bits a 16 * 64 + bits b 64) * 64 + bits c 64
              decodeFrom (position + 3) (Char.ofNat code :: done) rest
            else fail .continuation 2
          | [] => fail .endOfData 2
        else fail .continuation 1
      | [] => fail .endOfData 1
    else if a < 0xf5 then
      match rest with
      | b :: rest =>
        if isSecond a b then
          match rest with
          | c :: rest =>
            if isContinuation c then
              match rest with
              | d :: rest =>
                if isContinuation d then
                  let code := ((bits a 8 * 64 + bits b 64) * 64 + bits c 64) * 64 + bits d 64
                  decodeFrom (position + 4) (Char.ofNat code :: done) rest
                else fail .continuation 3
              | [] => fail .endOfData 3
            else fail .continuation 2
          | [] => fail .endOfData 2
        else fail .continuation 1
      | [] => fail .endOfData 1
    else fail .startByte 1

def decode (data : List UInt8) : Except Error (List Char) := decodeFrom 0 [] data

end Conform.Text.Utf8
