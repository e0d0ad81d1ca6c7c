import SortableId.Error

/-!
# The text codec

Sixteen bytes are written as 26 symbols of five bits, so the first symbol carries three bits and
is at most 7. Encoder and decoder are bit slices over the bytes: each symbol is cut from one or
two neighbouring bytes, each byte is put together from two or three neighbouring symbols, and all
shifts drop what leaves the byte. A byte outside the alphabet has a sentinel in place of a value;
strict reading refuses it, lenient reading lets its bits fall into the neighbouring places.
-/

namespace SortableId.Base32

/-- The symbols in the order of their values: digits, then capitals without `I`, `L`, `O`, `U`. -/
def alphabet : Vector Char 32 :=
  #v['0', '1', '2', '3', '4', '5', '6', '7', '8', '9', 'A', 'B', 'C', 'D', 'E', 'F',
    'G', 'H', 'J', 'K', 'M', 'N', 'P', 'Q', 'R', 'S', 'T', 'V', 'W', 'X', 'Y', 'Z']

/-- What stands in place of a value for a byte outside the alphabet. -/
def sentinel : UInt8 := 0xFF

/-- The symbol of the low five bits, as a byte of text. -/
def symbol (value : UInt8) : UInt8 :=
  (alphabet.get ⟨value.toNat % 32, Nat.mod_lt _ (by decide)⟩).toUInt8

/-- The value of a byte of text, in either case, when it is in the alphabet. -/
def value? (byte : UInt8) : Option UInt8 :=
  (alphabet.toList.findIdx? fun char =>
    char.toUInt8 == byte || char.toLower.toUInt8 == byte).map UInt8.ofNat

/-- The value of a byte of text, or the sentinel. -/
def value (byte : UInt8) : UInt8 := (value? byte).getD sentinel

/-- Writes sixteen bytes as 26 symbols. -/
def encode (id : Vector UInt8 16) : Vector UInt8 26 :=
  #v[symbol (id[0] >>> 5),
    symbol id[0],
    symbol (id[1] >>> 3),
    symbol ((id[1] <<< 2) ||| (id[2] >>> 6)),
    symbol (id[2] >>> 1),
    symbol ((id[2] <<< 4) ||| (id[3] >>> 4)),
    symbol ((id[3] <<< 1) ||| (id[4] >>> 7)),
    symbol (id[4] >>> 2),
    symbol ((id[4] <<< 3) ||| (id[5] >>> 5)),
    symbol id[5],
    symbol (id[6] >>> 3),
    symbol ((id[6] <<< 2) ||| (id[7] >>> 6)),
    symbol (id[7] >>> 1),
    symbol ((id[7] <<< 4) ||| (id[8] >>> 4)),
    symbol ((id[8] <<< 1) ||| (id[9] >>> 7)),
    symbol (id[9] >>> 2),
    symbol ((id[9] <<< 3) ||| (id[10] >>> 5)),
    symbol id[10],
    symbol (id[11] >>> 3),
    symbol ((id[11] <<< 2) ||| (id[12] >>> 6)),
    symbol (id[12] >>> 1),
    symbol ((id[12] <<< 4) ||| (id[13] >>> 4)),
    symbol ((id[13] <<< 1) ||| (id[14] >>> 7)),
    symbol (id[14] >>> 2),
    symbol ((id[14] <<< 3) ||| (id[15] >>> 5)),
    symbol id[15]]

/-- Puts sixteen bytes together from 26 symbol values, sentinels included. -/
def assemble (d : Vector UInt8 26) : Vector UInt8 16 :=
  #v[(d[0] <<< 5) ||| d[1],
    (d[2] <<< 3) ||| (d[3] >>> 2),
    (d[3] <<< 6) ||| (d[4] <<< 1) ||| (d[5] >>> 4),
    (d[5] <<< 4) ||| (d[6] >>> 1),
    (d[6] <<< 7) ||| (d[7] <<< 2) ||| (d[8] >>> 3),
    (d[8] <<< 5) ||| d[9],
    (d[10] <<< 3) ||| (d[11] >>> 2),
    (d[11] <<< 6) ||| (d[12] <<< 1) ||| (d[13] >>> 4),
    (d[13] <<< 4) ||| (d[14] >>> 1),
    (d[14] <<< 7) ||| (d[15] <<< 2) ||| (d[16] >>> 3),
    (d[16] <<< 5) ||| d[17],
    (d[18] <<< 3) ||| (d[19] >>> 2),
    (d[19] <<< 6) ||| (d[20] <<< 1) ||| (d[21] >>> 4),
    (d[21] <<< 4) ||| (d[22] >>> 1),
    (d[22] <<< 7) ||| (d[23] <<< 2) ||| (d[24] >>> 3),
    (d[24] <<< 5) ||| d[25]]

/-- How a reader treats bytes outside the alphabet. -/
inductive Mode where
  /-- The first one is an error. -/
  | strict
  /-- They are read as the sentinel. -/
  | lenient
  deriving DecidableEq, Repr

/-- The first byte outside the alphabet, with its index. -/
def firstForeign (text : List UInt8) : Option (UInt8 × Nat) :=
  text.zipIdx.find? fun (byte, _) => value byte == sentinel

/-- Reads 26 bytes of text: a foreign byte comes before overflow, if the mode minds it. -/
def decodeSymbols (mode : Mode) (text : Vector UInt8 26) : Except Error (Vector UInt8 16) :=
  match mode, firstForeign text.toList with
  | .strict, some (byte, index) => .error (.invalidCharacter byte index)
  | _, _ =>
    let values := text.map value
    if values[0] > 7 then .error .overflow else .ok (assemble values)

/-- Reads a text form; its length is checked before anything else. -/
def decode (mode : Mode) (text : List UInt8) : Except Error (Vector UInt8 16) :=
  if h : text.length = 26 then
    decodeSymbols mode ⟨text.toArray, by simpa using h⟩
  else .error (.dataSize encodedLength text.length)

end SortableId.Base32
