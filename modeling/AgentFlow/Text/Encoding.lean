import AgentFlow.Text.Quoted

/-!
# Text as bytes

Decodes bytes to text: UTF-8, and for documents that say so by a mark or by the place of their zero
bytes, UTF-16 and UTF-32.  A decoder may pass encoded surrogates on.  Bytes that are no text are
reported with their position.
-/

namespace AgentFlow

open CodePoint (ofNat)

abbrev Bytes := List UInt8

/-- Why bytes are not the encoding of a text: the codec, the first and the last offending position,
the byte at the first one, and the reason. -/
structure EncodingFault where
  codec : Text
  first : Nat
  last : Nat
  byte : UInt8
  reason : Text
deriving DecidableEq, Repr

def EncodingFault.message (fault : EncodingFault) : Text :=
  "'" ++ fault.codec ++ "' codec can't decode " ++
    (if fault.first = fault.last then
      "byte 0x" ++ Text.ofHex 2 fault.byte.toNat ++ " in position " ++ Text.ofNat fault.first
    else
      "bytes in position " ++ Text.ofNat fault.first ++ "-" ++ Text.ofNat fault.last) ++
    ": " ++ fault.reason

namespace Bytes

def isContinuation (b : UInt8) : Bool := 0x80 ≤ b && b ≤ 0xBF

def bits (b : UInt8) : Nat := b.toNat % 64

/-- Whether a byte can be the second one after the first byte of a longer encoding. -/
def isSecond (first second : UInt8) : Bool :=
  isContinuation second &&
    (first != 0xE0 || 0xA0 ≤ second) && (first != 0xED || second < 0xA0) &&
    (first != 0xF0 || 0x90 ≤ second) && (first != 0xF4 || second < 0x90)

def utf8Fault (first : Nat) (span : Nat) (byte : UInt8) (reason : Text) :
    Except EncodingFault Text :=
  .error { codec := "utf-8", first, last := first + span, byte, reason }

/-- Decodes UTF-8 from a position on; encoded surrogates are passed on or refused. -/
def utf8From (surrogates : Bool) (position : Nat) : Bytes → Except EncodingFault Text
  | [] => .ok []
  | a :: rest =>
    if a < 0x80 then do
      let text ← utf8From surrogates (position + 1) rest
      return ofNat a.toNat :: text
    else if a < 0xC2 || 0xF4 < a then utf8Fault position 0 a "invalid start byte"
    else
      match rest with
      | [] => utf8Fault position 0 a "unexpected end of data"
      | b :: rest =>
        if a < 0xE0 then
          if isContinuation b then do
            let text ← utf8From surrogates (position + 2) rest
            return ofNat (a.toNat % 32 * 64 + bits b) :: text
          else utf8Fault position 0 a "invalid continuation byte"
        else if !isSecond a b && !(surrogates && a = 0xED && isContinuation b) then
          utf8Fault position 0 a "invalid continuation byte"
        else
          match rest with
          | [] =>
            if isSecond a b then utf8Fault position 1 a "unexpected end of data"
            else utf8Fault position 0 a "invalid continuation byte"
          | c :: rest =>
            if !isContinuation c then
              utf8Fault position (if isSecond a b then 1 else 0) a "invalid continuation byte"
            else if a < 0xF0 then do
              let text ← utf8From surrogates (position + 3) rest
              return ofNat ((a.toNat % 16 * 64 + bits b) * 64 + bits c) :: text
            else
              match rest with
              | [] => utf8Fault position 2 a "unexpected end of data"
              | d :: rest =>
                if isContinuation d then do
                  let text ← utf8From surrogates (position + 4) rest
                  return ofNat
                    (((a.toNat % 8 * 64 + bits b) * 64 + bits c) * 64 + bits d) :: text
                else utf8Fault position 2 a "invalid continuation byte"

def utf8 (bytes : Bytes) : Except EncodingFault Text := utf8From false 0 bytes

inductive Order where
  | little
  | big
deriving DecidableEq, Repr

def Order.suffix : Order → Text
  | little => "le"
  | big => "be"

def units16 (order : Order) (position : Nat) : Bytes → Except EncodingFault (List Nat)
  | [] => .ok []
  | [a] =>
    .error { codec := "utf-16-" ++ order.suffix, first := position, last := position, byte := a,
             reason := "truncated data" }
  | a :: b :: rest => do
    let units ← units16 order (position + 2) rest
    return (match order with
      | .little => a.toNat + 256 * b.toNat
      | .big => 256 * a.toNat + b.toNat) :: units

/-- The code points of sixteen-bit units, pairs of surrogates being joined. -/
def joinUnits : List Nat → Text
  | [] => []
  | [a] => [ofNat a]
  | a :: b :: rest =>
    if 0xD800 ≤ a ∧ a < 0xDC00 ∧ 0xDC00 ≤ b ∧ b < 0xE000 then
      ofNat (0x10000 + (a - 0xD800) * 1024 + (b - 0xDC00)) :: joinUnits rest
    else ofNat a :: joinUnits (b :: rest)

def utf16From (order : Order) (position : Nat) (bytes : Bytes) : Except EncodingFault Text := do
  return joinUnits (← units16 order position bytes)

def utf32From (order : Order) (position : Nat) : Bytes → Except EncodingFault Text
  | [] => .ok []
  | a :: b :: c :: d :: rest =>
    let value := match order with
      | .little => a.toNat + 256 * (b.toNat + 256 * (c.toNat + 256 * d.toNat))
      | .big => d.toNat + 256 * (c.toNat + 256 * (b.toNat + 256 * a.toNat))
    if value < 0x110000 then do
      let text ← utf32From order (position + 4) rest
      return ofNat value :: text
    else
      .error { codec := "utf-32-" ++ order.suffix, first := position, last := position + 3,
               byte := a, reason := "code point not in range(0x110000)" }
  | a :: rest =>
    .error { codec := "utf-32-" ++ order.suffix, first := position,
             last := position + rest.length, byte := a, reason := "truncated data" }

/-- Decodes a document.  A mark at its start, or zero bytes among its first four, tell its encoding;
UTF-8 is assumed otherwise.  Encoded surrogates are passed on. -/
def document (bytes : Bytes) : Except EncodingFault Text :=
  match bytes with
  | 0x00 :: 0x00 :: 0xFE :: 0xFF :: rest => utf32From .big 4 rest
  | 0xFF :: 0xFE :: 0x00 :: 0x00 :: rest => utf32From .little 4 rest
  | 0xFE :: 0xFF :: rest => utf16From .big 2 rest
  | 0xFF :: 0xFE :: rest => utf16From .little 2 rest
  | 0xEF :: 0xBB :: 0xBF :: rest => utf8From true 0 rest
  | a :: b :: c :: d :: _ =>
    if a = 0 then if b = 0 then utf32From .big 0 bytes else utf16From .big 0 bytes
    else if b = 0 then
      if c = 0 ∧ d = 0 then utf32From .little 0 bytes else utf16From .little 0 bytes
    else utf8From true 0 bytes
  | [a, b] =>
    if a = 0 then utf16From .big 0 bytes
    else if b = 0 then utf16From .little 0 bytes
    else utf8From true 0 bytes
  | _ => utf8From true 0 bytes

def ofCodePoint (c : CodePoint) : Bytes :=
  let n := c.toNat
  if n < 0x80 then [n.toUInt8]
  else if n < 0x800 then [(0xC0 + n / 64).toUInt8, (0x80 + n % 64).toUInt8]
  else if n < 0x10000 then
    [(0xE0 + n / 4096).toUInt8, (0x80 + n / 64 % 64).toUInt8, (0x80 + n % 64).toUInt8]
  else
    [(0xF0 + n / 262144).toUInt8, (0x80 + n / 4096 % 64).toUInt8, (0x80 + n / 64 % 64).toUInt8,
      (0x80 + n % 64).toUInt8]

def ofText (t : Text) : Bytes := t.flatMap ofCodePoint

end Bytes

end AgentFlow
