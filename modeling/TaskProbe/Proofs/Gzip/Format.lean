import TaskProbe.Gzip.Member

/-!
# The compressed format

What compressed data is, as a grammar of bits. It mentions no reader and no way of compressing:
which strings are copied, which codes are used and where blocks end is up to whoever writes. The
main notion is `IsCompressed`; a `Compressor` is any function that keeps to it, and
`Compressor.gzip` is a member as written with one.

The tables of lengths and distances, the order of the lengths of words and the measure of a code are
those of the decoder.
-/

namespace TaskProbe.Gzip

/-! ## Bits and numbers -/

/-- The bits of a byte, the lowest first. -/
def bitsOfByte (b : UInt8) : List Bool := b.toNat.testBit 0 :: Bits.highBits b

/-- The bits of bytes, one byte after the other. -/
def bitsOf (bytes : List UInt8) : List Bool := bytes.flatMap bitsOfByte

/-- The number that bits stand for, the lowest first. -/
def lowFirst : List Bool → Nat
  | [] => 0
  | b :: bits => 2 * lowFirst bits + b.toNat

/-- The number that bits stand for behind those of `n`, the highest first; words are numbers of this
kind. -/
def highFirst (n : Nat) (bits : List Bool) : Nat := bits.foldl (fun n b => 2 * n + b.toNat) n

/-! ## Words -/

/-- The number just behind the words of the length `n`, which follow the shorter ones. -/
def pastWords (lengths : List Nat) : Nat → Nat
  | 0 => 0
  | n + 1 => 2 * pastWords lengths n + lengths.count (n + 1)

/-- The bits are the word of the symbol: those of one length are consecutive numbers in the order of
their symbols. -/
def IsWord (lengths : List Nat) (symbol : Nat) (word : List Bool) : Prop :=
  ∃ n < Code.maxLength, word.length = n + 1 ∧ lengths[symbol]? = some (n + 1) ∧
    highFirst 0 word = 2 * pastWords lengths n + (lengths.take symbol).count (n + 1)

instance (lengths : List Nat) (symbol : Nat) (word : List Bool) :
    Decidable (IsWord lengths symbol word) :=
  inferInstanceAs (Decidable (∃ n, n < Code.maxLength ∧ word.length = n + 1 ∧
    lengths[symbol]? = some (n + 1) ∧
    highFirst 0 word = 2 * pastWords lengths n + (lengths.take symbol).count (n + 1)))

/-- The lengths leave no sequence of bits without a word, unless there is at most one word. -/
def IsCode (lengths : List Nat) : Prop := Code.isComplete lengths = true ∨ Code.used lengths ≤ 1

/-! ## Literals and copies -/

/-- The number is given by a symbol and the bits behind its word. -/
def IsBased (bases : List (Nat × Nat)) (value symbol : Nat) (extra : List Bool) : Prop :=
  ∃ base, bases[symbol]? = some (base, extra.length) ∧ value = base + lowFirst extra

/-- Each byte that is added is the one `distance` bytes before it. -/
structure IsCopy (out : List UInt8) (distance : Nat) (added : List UInt8) : Prop where
  pos : 0 < distance
  reach : distance ≤ out.length
  each : ∀ i < added.length,
    (out ++ added)[out.length + i]? = (out ++ added)[out.length + i - distance]?

/-- The bits say what follows `out`, by literals and copies up to the end of the block; `data` is
all output then. -/
inductive IsSymbols (literals distances : List Nat) : List UInt8 → List Bool → List UInt8 → Prop
  | done {out word} (hword : IsWord literals endOfBlock word) :
      IsSymbols literals distances out word out
  | literal {out b word bits data} (hword : IsWord literals b.toNat word)
      (hrest : IsSymbols literals distances (out ++ [b]) bits data) :
      IsSymbols literals distances out (word ++ bits) data
  | copy {out added i word extra distance j word' extra' bits data}
      (hword : IsWord literals (endOfBlock + 1 + i) word)
      (hlength : IsBased lengthBases added.length i extra) (hword' : IsWord distances j word')
      (hdistance : IsBased distanceBases distance j extra') (hcopy : IsCopy out distance added)
      (hrest : IsSymbols literals distances (out ++ added) bits data) :
      IsSymbols literals distances out (word ++ (extra ++ (word' ++ (extra' ++ bits)))) data

/-! ## Described codes -/

/-- What a symbol repeats behind the lengths in `found`, how often at least, and how many bits say
how often more. -/
inductive IsRun (found : List Nat) : Nat → Nat → Nat → Nat → Prop
  | again {last} (hlast : found.getLast? = some last) : IsRun found 16 last 3 2
  | zeros : IsRun found 17 0 3 3
  | manyZeros : IsRun found 18 0 11 7

/-- The bits say which lengths follow the ones in `found`, one by one or in runs; `all` is the whole
list then. -/
inductive IsLengths (code : List Nat) : List Nat → List Bool → List Nat → Prop
  | done {all} : IsLengths code all [] all
  | length {found n word bits all} (hn : n < 16) (hword : IsWord code n word)
      (hrest : IsLengths code (found ++ [n]) bits all) : IsLengths code found (word ++ bits) all
  | run {found symbol n least word extra bits all} (hrun : IsRun found symbol n least extra.length)
      (hword : IsWord code symbol word)
      (hrest : IsLengths code (found ++ List.replicate (least + lowFirst extra) n) bits all) :
      IsLengths code found (word ++ (extra ++ bits)) all

/-- The lengths of the words for lengths: the given ones are in an order of their own, the others
are zero. -/
structure IsOrdered (given code : List Nat) : Prop where
  length : code.length = lengthOrder.length
  each : ∀ i symbol, lengthOrder[i]? = some symbol → code[symbol]? = some (given.getD i 0)

/-- The bits describe two codes: how many lengths there are of each kind, the words for lengths, and
the lengths. -/
inductive IsDescription (literals distances : List Nat) : List Bool → Prop
  | intro {a b c bits : List Bool} {given : List (List Bool)} {code : List Nat}
      (ha : a.length = 5) (hliterals : literals.length = 257 + lowFirst a)
      (hmaxLiterals : literals.length ≤ 286)
      (hb : b.length = 5) (hdistances : distances.length = 1 + lowFirst b)
      (hmaxDistances : distances.length ≤ 30)
      (hc : c.length = 4) (hgiven : given.length = 4 + lowFirst c)
      (htriples : ∀ x ∈ given, x.length = 3)
      (hcode : IsOrdered (given.map lowFirst) code) (hcomplete : Code.isComplete code = true)
      (hbits : IsLengths code [] bits (literals ++ distances))
      (hcodes : IsCode literals ∧ IsCode distances) :
      IsDescription literals distances (a ++ (b ++ (c ++ (given.flatten ++ bits))))

/-! ## Blocks -/

/-- The lengths of the words for literals and lengths in blocks with fixed codes. -/
def fixedLiteralLengths : List Nat :=
  List.replicate 144 8 ++ List.replicate 112 9 ++ List.replicate 24 7 ++ List.replicate 8 8

/-- The lengths of the words for distances in blocks with fixed codes. -/
def fixedDistanceLengths : List Nat := List.replicate 30 5

/-- The bits, `pos` bits behind the start, are the kind and the content of a block that follows
`out`; `data` is all output then. What is stored starts at a whole byte. -/
inductive IsBlock (pos : Nat) (out : List UInt8) : List Bool → List UInt8 → Prop
  | stored {gap : List Bool} {data : List UInt8} (hdata : data.length ≤ maxStored)
      (hgap : gap.length < 8) (hpos : (pos + 2 + gap.length) % 8 = 0) :
      IsBlock pos out ([false, false] ++ (gap ++ bitsOf (littleEndian 2 data.length
        ++ littleEndian 2 (maxStored - data.length) ++ data))) (out ++ data)
  | fixed {bits data} (hbits : IsSymbols fixedLiteralLengths fixedDistanceLengths out bits data) :
      IsBlock pos out ([true, false] ++ bits) data
  | described {literals distances description bits data}
      (hcodes : IsDescription literals distances description)
      (hbits : IsSymbols literals distances out bits data) :
      IsBlock pos out ([false, true] ++ (description ++ bits)) data

/-- The bits are blocks up to the one marked as the last. -/
inductive IsBlocks : Nat → List UInt8 → List Bool → List UInt8 → Prop
  | last {pos out bits data} (hblock : IsBlock (pos + 1) out bits data) :
      IsBlocks pos out (true :: bits) data
  | more {pos out bits out' bits' data} (hblock : IsBlock (pos + 1) out bits out')
      (hrest : IsBlocks (pos + 1 + bits.length) out' bits' data) :
      IsBlocks pos out (false :: (bits ++ bits')) data

/-- The bytes stand for the data: they are blocks, and the last byte is filled up. -/
def IsCompressed (bytes data : List UInt8) : Prop :=
  ∃ bits fill, IsBlocks 0 [] bits data ∧ fill.length < 8 ∧ bitsOf bytes = bits ++ fill

/-! ## Compressors -/

/-- A way of compressing whose result is in the format and stands for the data. -/
class Compressor extends Deflater where
  isCompressed : ∀ data, IsCompressed (deflate data) data

/-- A member that holds the data. -/
def Compressor.gzip (c : Compressor) (data : List UInt8) : List UInt8 :=
  member (c.deflate data) data

end TaskProbe.Gzip
