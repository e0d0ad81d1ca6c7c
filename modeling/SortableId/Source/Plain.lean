import SortableId.Source.Basic
import SortableId.Bytes

/-!
# Plain sources

Sources without randomness: all zeros, one repeated byte, rising bytes, and a script that says for
each request what happens. Only the zero source and the script have a native bounded number.
-/

namespace SortableId

/-- Only zero bytes, and zero as every bounded number: placeholder identifiers. -/
structure Zeros where
  deriving DecidableEq, Repr

instance : ByteSource Zeros where
  fill size source := (.value (Vector.replicate size 0), source)
  below _ source := (some 0, source)

/-- The same byte again and again. -/
structure Repeated where
  /-- That byte. -/
  byte : UInt8
  deriving DecidableEq, Repr

instance : ByteSource Repeated where
  fill size source := (.value (Vector.replicate size source.byte), source)

/-- Bytes that rise by one across requests, from 255 to 0. -/
structure Rising where
  /-- The next byte. -/
  next : UInt8
  deriving DecidableEq, Repr

instance : ByteSource Rising where
  fill size source :=
    (.value (Vector.ofFn fun index => source.next + UInt8.ofNat index.val),
      ⟨source.next + UInt8.ofNat size⟩)

/-- What a script does at one read. -/
inductive Draw where
  /-- Repeat a pattern of bytes to the length asked for. -/
  | bytes (pattern : List UInt8)
  /-- Fail for a reason. -/
  | fail (reason : String)
  /-- Crash with a text. -/
  | crash (text : String)
  deriving DecidableEq, Repr

/-- The outcome of one scripted read. -/
def Draw.read (size : Nat) : Draw → Outcome (Vector UInt8 size)
  | bytes pattern => .value (Bytes.cycle size pattern)
  | fail reason => .error (.sourceFailed reason)
  | crash text => .crash text

/-- A list of reads, and a list of answers to bounded requests. -/
structure Script where
  /-- One for each read. -/
  draws : List Draw
  /-- One for each bounded request; a number is taken modulo the bound. -/
  answers : List (Option UInt64)
  deriving DecidableEq, Repr

instance : ByteSource Script where
  fill size source :=
    match source.draws with
    | [] => (.error (.sourceFailed "script exhausted"), source)
    | draw :: draws => (draw.read size, { source with draws })
  below bound source :=
    match source.answers with
    | [] => (none, source)
    | answer :: answers => (answer.map (· % bound), { source with answers })

end SortableId
