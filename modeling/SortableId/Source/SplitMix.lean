import SortableId.Source.Basic

/-!
# A seeded source

The SplitMix generator of 64-bit words. Bytes are its words in little-endian order, one word for
each eight bytes or less. A bounded number is the high half of a word times the bound; when the
low half is so large that one more word can carry into it, that word is drawn and its carry added.
-/

namespace SortableId

/-- The state of the SplitMix generator. -/
structure SplitMix where
  /-- The counter that each word advances. -/
  state : UInt64
  deriving DecidableEq, Repr

namespace SplitMix

/-- The next word. -/
def next (source : SplitMix) : UInt64 × SplitMix :=
  let state := source.state + 0x9E3779B97F4A7C15
  let z := (state ^^^ (state >>> 30)) * 0xBF58476D1CE4E5B9
  let z := (z ^^^ (z >>> 27)) * 0x94D049BB133111EB
  (z ^^^ (z >>> 31), ⟨state⟩)

/-- The next words. -/
def words : Nat → SplitMix → List UInt64 × SplitMix
  | 0, source => ([], source)
  | count + 1, source =>
    let (word, source) := source.next
    let (rest, source) := words count source
    (word :: rest, source)

/-- The bytes of a word, lowest first. -/
def littleEndian (word : UInt64) : List UInt8 :=
  (List.range 8).map fun index => (word >>> UInt64.ofNat (8 * index)).toUInt8

/-- Bytes from as many words as needed. -/
def fill (size : Nat) (source : SplitMix) : Vector UInt8 size × SplitMix :=
  let (words, source) := source.words ((size + 7) / 8)
  let bytes := (words.flatMap littleEndian).toArray
  (Vector.ofFn fun index => bytes[index.val]?.getD 0, source)

/-- A number below a bound, with at most one word to correct the bias of the first. -/
def below (bound : UInt64) (source : SplitMix) : UInt64 × SplitMix :=
  let (word, source) := source.next
  let product := word.toNat * bound.toNat
  let high := UInt64.ofNat (product / UInt64.size)
  let low := UInt64.ofNat product
  if low > 0 - bound then
    let (word, source) := source.next
    let carry := low.toNat + word.toNat * bound.toNat / UInt64.size
    (if UInt64.size ≤ carry then high + 1 else high, source)
  else (high, source)

end SplitMix

instance : ByteSource SplitMix where
  fill size source :=
    let (bytes, source) := source.fill size
    (.value bytes, source)
  below bound source :=
    let (answer, source) := source.below bound
    (some answer, source)

end SortableId
