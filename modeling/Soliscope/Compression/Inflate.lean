import Soliscope.Compression.PrefixCode

/-! # Inflating

Deflated data comes in blocks.  A block holds bytes as they are, or symbols in two prefix codes: a
byte, the end of the block, or a piece of what was put out before, told by its length and how far
back it starts.  The codes are fixed or told by the block.

Data that ends before its last block does is not refused: what came out until then is the result.
-/

namespace Soliscope.Compression

/-- A symbol of a block. -/
inductive Symbol where
  | byte (value : UInt8)
  | endOfBlock
  /-- So many bytes from so far back. -/
  | piece (length distance : Nat)
  deriving DecidableEq, Repr

/-- The codes of a block: for bytes, the end and lengths, and for distances. -/
structure BlockCodes where
  literals : CodeTree
  distances : CodeTree

/-- For each symbol of a length the least length, and how many bits tell how much more it is. -/
def lengthClasses : List (Nat × Nat) :=
  [(3, 0), (4, 0), (5, 0), (6, 0), (7, 0), (8, 0), (9, 0), (10, 0), (11, 1), (13, 1), (15, 1),
    (17, 1), (19, 2), (23, 2), (27, 2), (31, 2), (35, 3), (43, 3), (51, 3), (59, 3), (67, 4),
    (83, 4), (99, 4), (115, 4), (131, 5), (163, 5), (195, 5), (227, 5), (258, 0)]

/-- For each symbol of a distance the least distance, and how many bits tell how much more it is. -/
def distanceClasses : List (Nat × Nat) :=
  [(1, 0), (2, 0), (3, 0), (4, 0), (5, 1), (7, 1), (9, 2), (13, 2), (17, 3), (25, 3), (33, 4),
    (49, 4), (65, 5), (97, 5), (129, 6), (193, 6), (257, 7), (385, 7), (513, 8), (769, 8),
    (1025, 9), (1537, 9), (2049, 10), (3073, 10), (4097, 11), (6145, 11), (8193, 12), (12289, 12),
    (16385, 13), (24577, 13)]

/-- Read the rest of a number of a class. -/
def readInClass (classes : List (Nat × Nat)) (symbol : Nat) (invalid : Flaw) : BitReader Nat :=
  match classes[symbol]? with
  | some (least, extra) => do
    let more ← readBits extra
    pure (least + more)
  | none => refuse invalid

/-- Read a symbol of a block. -/
def readSymbol (codes : BlockCodes) : BitReader Symbol := do
  let symbol ← codes.literals.read .literalSymbol
  if symbol < 256 then pure (.byte (UInt8.ofNat symbol))
  else if symbol == 256 then pure .endOfBlock
  else do
    let length ← readInClass lengthClasses (symbol - 257) .literalSymbol
    let place ← codes.distances.read .distanceSymbol
    let distance ← readInClass distanceClasses place .distanceSymbol
    pure (.piece length distance)

/-- How a part of the data ends: with its end and what follows it, with the end of the data, or with
a flaw. -/
inductive Outcome where
  | complete (output : Array UInt8) (rest : List Bool)
  | ended (output : Array UInt8)
  | flawed (flaw : Flaw)

/-- The outcome of a reader that stops. -/
def Outcome.ofStop (output : Array UInt8) : Stop → Outcome
  | .ended => .ended output
  | .flawed flaw => .flawed flaw

/-- Put out a piece of the output once more.  It may reach into itself. -/
def putPiece (distance : Nat) : Nat → Array UInt8 → Array UInt8
  | 0, output => output
  | length + 1, output =>
    putPiece distance length (output.push (output.getD (output.size - distance) 0))

/-- Read the symbols of a block, of which every one takes at least one of the bits that `steps`
counts. -/
def inflateSymbols (codes : BlockCodes) : Nat → Array UInt8 → List Bool → Outcome
  | 0, output, _ => .ended output
  | steps + 1, output, bits =>
    match readSymbol codes bits with
    | .error stop => .ofStop output stop
    | .ok (.byte value, rest) => inflateSymbols codes steps (output.push value) rest
    | .ok (.endOfBlock, rest) => .complete output rest
    | .ok (.piece length distance, rest) =>
      if output.size < distance then .flawed .distanceTooFar
      else inflateSymbols codes steps (putPiece distance length output) rest

/-- Read the bytes of a block that holds them as they are. -/
def inflateBytes : Nat → Array UInt8 → List Bool → Outcome
  | 0, output, bits => .complete output bits
  | count + 1, output, bits =>
    match readBits 8 bits with
    | .error stop => .ofStop output stop
    | .ok (value, rest) => inflateBytes count (output.push (UInt8.ofNat value)) rest

/-- Read the size of a block that holds bytes as they are: a number, and its complement. -/
def readStoredSize : BitReader Nat := do
  skipToByte
  let both ← readBits 32
  if both % 65536 + both / 65536 == 65535 then pure (both % 65536) else refuse .storedLengths

/-- The codes of a block that does not tell its own. -/
def fixedCodes : BlockCodes where
  literals := (CodeTree.ofLengths? (List.replicate 144 8 ++ List.replicate 112 9 ++
    List.replicate 24 7 ++ List.replicate 8 8)).getD .unused
  distances := (CodeTree.ofLengths? (List.replicate 32 5)).getD .unused

/-- The order in which the lengths of the words for lengths are told. -/
def lengthOrder : List Nat :=
  [16, 17, 18, 0, 8, 7, 9, 6, 10, 5, 11, 4, 12, 3, 13, 2, 14, 1, 15]

/-- Read the lengths of the words for lengths. -/
def readLengthLengths (count : Nat) : BitReader (List Nat) := do
  let told ← (List.replicate count ()).mapM fun _ => readBits 3
  pure ((List.range lengthOrder.length).map fun symbol =>
    ((lengthOrder.zip told).lookup symbol).getD 0)

/-- Read a length of words and how often it counts, after the lengths already read, the last one
first: a length, the last length again, or zeros. -/
def readRepeated (tree : CodeTree) (read : List Nat) : BitReader (Nat × Nat) := do
  let symbol ← tree.read .codeLengthCode
  if symbol < 16 then pure (symbol, 1)
  else if symbol == 16 then do
    let more ← readBits 2
    match read with
    | last :: _ => pure (last, 3 + more)
    | [] => refuse .lengthRepeat
  else if symbol == 17 then do
    let more ← readBits 3
    pure (0, 3 + more)
  else do
    let more ← readBits 7
    pure (0, 11 + more)

/-- Read so many lengths of words, in at most `steps` steps.  The lengths are given the last one
first. -/
def readLengths (tree : CodeTree) (count : Nat) : Nat → List Nat → BitReader (List Nat)
  | 0, read => pure read
  | steps + 1, read =>
    if read.length == count then pure read
    else do
      let (length, times) ← readRepeated tree read
      if count < read.length + times then refuse .lengthRepeat
      else readLengths tree count steps (List.replicate times length ++ read)

/-- A code that is there, or a flaw. -/
def needCode (code : Option CodeTree) (flaw : Flaw) : BitReader CodeTree :=
  match code with
  | some tree => pure tree
  | none => refuse flaw

/-- Read the codes that a block tells. -/
def readCodes : BitReader BlockCodes := do
  let literalCount := 257 + (← readBits 5)
  let distanceCount := 1 + (← readBits 5)
  let lengthCount := 4 + (← readBits 4)
  if 286 < literalCount || 30 < distanceCount then refuse .tooManySymbols
  else do
    let lengthLengths ← readLengthLengths lengthCount
    let tree ← needCode (CodeTree.ofLengthLengths? lengthLengths) .codeLengthCode
    let total := literalCount + distanceCount
    let read ← readLengths tree total total []
    let lengths := read.reverse
    if lengths.getD 256 0 == 0 then refuse .noEndOfBlock
    else do
      let literals ← needCode (CodeTree.ofLengths? (lengths.take literalCount)) .literalCode
      let distances ← needCode (CodeTree.ofLengths? (lengths.drop literalCount)) .distanceCode
      pure ⟨literals, distances⟩

/-- What the head of a block tells. -/
inductive BlockHead where
  | stored (size : Nat)
  | coded (codes : BlockCodes)

/-- Read the head of a block: whether it is the last one, and what it holds. -/
def readHead : BitReader (Bool × BlockHead) := do
  let last ← readBits 1
  let type ← readBits 2
  match type with
  | 0 => do
    let size ← readStoredSize
    pure (last == 1, .stored size)
  | 1 => pure (last == 1, .coded fixedCodes)
  | 2 => do
    let codes ← readCodes
    pure (last == 1, .coded codes)
  | _ => refuse .blockType

/-- Read the content of a block. -/
def inflateContent (output : Array UInt8) (bits : List Bool) : BlockHead → Outcome
  | .stored size => inflateBytes size output bits
  | .coded codes => inflateSymbols codes bits.length output bits

/-- Read blocks up to the last one, of which every one takes at least one of the bits that `steps`
counts. -/
def inflateBlocks : Nat → Array UInt8 → List Bool → Outcome
  | 0, output, _ => .ended output
  | steps + 1, output, bits =>
    match readHead bits with
    | .error stop => .ofStop output stop
    | .ok ((last, head), rest) =>
      match inflateContent output rest head with
      | .complete output rest =>
        if last then .complete output rest else inflateBlocks steps output rest
      | outcome => outcome

/-- Inflate deflated data.  What follows it starts with a whole byte. -/
def inflate (bits : List Bool) : Outcome :=
  match inflateBlocks bits.length #[] bits with
  | .complete output rest => .complete output (rest.drop (rest.length % 8))
  | outcome => outcome

end Soliscope.Compression
