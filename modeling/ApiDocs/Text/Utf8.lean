import ApiDocs.Text.Basic
/-!
UTF-8, strict and lenient.

A strict decoder refuses surrogates; the lenient one reads the three octets that would encode a
surrogate as that surrogate, which is how a text that holds one travels.  A refusal names the octets
that are at fault: the longest beginning of a character that could still have been completed.
-/

namespace ApiDocs.Utf8

inductive Reason where
  | invalidStart
  | invalidContinuation
  | endOfData
  deriving DecidableEq, Repr

/-- The octets from `start` up to `stop` are at fault; `first` is the one at `start`. -/
structure DecodeError where
  start : Nat
  stop : Nat
  first : UInt8
  reason : Reason
  deriving DecidableEq, Repr

def Reason.message : Reason → Text
  | .invalidStart => "invalid start byte"
  | .invalidContinuation => "invalid continuation byte"
  | .endOfData => "unexpected end of data"

/-- One octet is named by its value, several by the range of their positions. -/
def DecodeError.message (e : DecodeError) : Text :=
  let place : Text :=
    if e.stop = e.start + 1 then
      ("byte 0x" : Text) ++ Text.hex false 2 e.first.toNat ++ (" in position " : Text) ++
        Text.ofNat e.start
    else
      ("bytes in position " : Text) ++ Text.ofNat e.start ++ ("-" : Text) ++ Text.ofNat (e.stop - 1)
  ("'utf-8' codec can't decode " : Text) ++ place ++ (": " : Text) ++ e.reason.message

def isTail (b : UInt8) : Bool := 0x80 ≤ b && b ≤ 0xBF

/-- The second octet of a character of three: long forms and, unless they are let through,
surrogates are refused here. -/
def isSecondOfThree (lenient : Bool) (a b : UInt8) : Bool :=
  isTail b && (a != 0xE0 || 0xA0 ≤ b) && (lenient || a != 0xED || b < 0xA0)

/-- The second octet of a character of four: long forms and values past the last code point are
refused here. -/
def isSecondOfFour (a b : UInt8) : Bool :=
  isTail b && (a != 0xF0 || 0x90 ≤ b) && (a != 0xF4 || b < 0x90)

/-- Octets from position `pos` on are appended to the code points read so far (reversed). -/
def decodeFrom (lenient : Bool) (pos : Nat) (read : Text) : Bytes → Except DecodeError Text
  | [] => .ok read.reverse
  | a :: rest =>
    let fault (n : Nat) (r : Reason) : Except DecodeError Text := .error ⟨pos,pos + n,a,r⟩
    if a < 0x80 then decodeFrom lenient (pos + 1) (a.toNat :: read) rest
    else if a < 0xC2 || 0xF4 < a then fault 1 .invalidStart
    else if a < 0xE0 then
      match rest with
      | [] => fault 1 .endOfData
      | b :: rest =>
        if isTail b then
          decodeFrom lenient (pos + 2) (((a.toNat % 0x20) * 0x40 + b.toNat % 0x40) :: read) rest
        else fault 1 .invalidContinuation
    else if a < 0xF0 then
      match rest with
      | [] => fault 1 .endOfData
      | b :: rest =>
        if !isSecondOfThree lenient a b then fault 1 .invalidContinuation
        else match rest with
          | [] => fault 2 .endOfData
          | c :: rest =>
            if isTail c then
              decodeFrom lenient (pos + 3)
                (((a.toNat % 0x10) * 0x1000 + (b.toNat % 0x40) * 0x40 + c.toNat % 0x40) :: read) rest
            else fault 2 .invalidContinuation
    else
      match rest with
      | [] => fault 1 .endOfData
      | b :: rest =>
        if !isSecondOfFour a b then fault 1 .invalidContinuation
        else match rest with
          | [] => fault 2 .endOfData
          | c :: rest =>
            if !isTail c then fault 2 .invalidContinuation
            else match rest with
              | [] => fault 3 .endOfData
              | d :: rest =>
                if isTail d then
                  decodeFrom lenient (pos + 4)
                    (((a.toNat % 8) * 0x40000 + (b.toNat % 0x40) * 0x1000 + (c.toNat % 0x40) * 0x40 +
                      d.toNat % 0x40) :: read) rest
                else fault 3 .invalidContinuation

/-- The text that the octets encode; surrogates are refused. -/
def decode (b : Bytes) : Except DecodeError Text := decodeFrom false 0 [] b

/-- The text that the octets encode; surrogates are let through. -/
def decodeLenient (b : Bytes) : Except DecodeError Text := decodeFrom true 0 [] b

def encodePoint (c : Nat) : Bytes :=
  if c < 0x80 then [c.toUInt8]
  else if c < 0x800 then [(0xC0 + c / 0x40).toUInt8,(0x80 + c % 0x40).toUInt8]
  else if c < 0x10000 then
    [(0xE0 + c / 0x1000).toUInt8,(0x80 + c / 0x40 % 0x40).toUInt8,(0x80 + c % 0x40).toUInt8]
  else
    [(0xF0 + c / 0x40000).toUInt8,(0x80 + c / 0x1000 % 0x40).toUInt8,
      (0x80 + c / 0x40 % 0x40).toUInt8,(0x80 + c % 0x40).toUInt8]

/-- A run of surrogates from `start` up to `stop` cannot be encoded; `first` is the one at `start`. -/
structure EncodeError where
  start : Nat
  stop : Nat
  first : Nat
  deriving DecidableEq, Repr

def EncodeError.message (e : EncodeError) : Text :=
  let place : Text :=
    if e.stop = e.start + 1 then
      ("character '\\u" : Text) ++ Text.hex false 4 e.first ++ ("' in position " : Text) ++
        Text.ofNat e.start
    else
      ("characters in position " : Text) ++ Text.ofNat e.start ++ ("-" : Text) ++
        Text.ofNat (e.stop - 1)
  ("'utf-8' codec can't encode " : Text) ++ place ++ (": surrogates not allowed" : Text)

/-- The first run of surrogates, if there is one. -/
def firstSurrogates? (t : Text) : Option EncodeError :=
  match t.dropWhile (!isSurrogate ·) with
  | [] => none
  | c :: rest =>
    let start := (t.takeWhile (!isSurrogate ·)).length
    some ⟨start,start + 1 + (rest.takeWhile isSurrogate).length,c⟩

/-- The octets of a text, unless it holds a surrogate. -/
def encode (t : Text) : Except EncodeError Bytes :=
  match firstSurrogates? t with
  | some e => .error e
  | none => .ok (t.flatMap encodePoint)

end ApiDocs.Utf8
