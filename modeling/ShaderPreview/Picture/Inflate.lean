import ShaderPreview.Picture.Fault
import ShaderPreview.Number.Single

/-!
# Inflating

Decoder for zlib streams. Bits are consumed least significant first. Every symbol takes at least one
bit, so the number of bits bounds the recursion.
-/

namespace ShaderPreview.Inflate

/-- Input, number of bits consumed of its first byte, and output. -/
structure Stream where
  source : List UInt8
  used : Nat
  output : Array UInt8

/-- Decoder step; the output is kept on failure. -/
abbrev Step (α : Type) : Type := ExceptT DecodeFault (StateM Stream) α

def bit : Step Nat := do
  let stream ← get
  match stream.source with
  | [] => throw .cutShort
  | byte :: rest =>
    set (if stream.used = 7 then { stream with source := rest, used := 0 }
      else { stream with used := stream.used + 1 })
    return byte.toNat / twoTo stream.used % 2

/-- Reads an integer of some bits, least significant first. -/
def number : Nat → Step Nat
  | 0 => pure 0
  | count + 1 => do
    let low ← bit
    let high ← number count
    pure (low + 2 * high)

def refuse {α : Type} : Step α := throw .malformed

def emit (byte : UInt8) : Step Unit :=
  modify fun stream => { stream with output := stream.output.push byte }

/-! ### Prefix codes -/

def maxCodeLength : Nat := 15

/-- Canonical prefix code: number of codes of each length from 1, and symbols in code order. -/
structure PrefixCode where
  counts : List Nat
  symbols : Array Nat

/-- The code with given lengths; length 0 marks an unused symbol. -/
def PrefixCode.ofLengths (lengths : List Nat) : PrefixCode :=
  let sizes := (List.range maxCodeLength).map (· + 1)
  let symbolsOf (size : Nat) : List Nat :=
    (lengths.zipIdx.filter fun entry => entry.1 == size).map (·.2)
  ⟨sizes.map (lengths.count ·), (sizes.flatMap symbolsOf).toArray⟩

/-- Remaining code space, doubled at each length; `none` if the code is oversubscribed. -/
def PrefixCode.slack? (code : PrefixCode) : Option Nat :=
  code.counts.foldl
    (fun left count =>
      left.bind fun left => if count ≤ 2 * left then some (2 * left - count) else none)
    (some 1)

def PrefixCode.isComplete (code : PrefixCode) : Bool := code.slack? == some 0

/-- Complete, empty, or a single code of one bit, as allowed for distances. -/
def PrefixCode.isUsable (code : PrefixCode) : Bool :=
  code.isComplete || code.symbols.isEmpty || (code.symbols.size = 1 && code.counts.head? = some 1)

/-- Reads a code of the lengths that remain. `first` is the first code of the length at hand,
`index` its place among the symbols, and `code` what has been read, shifted by one. -/
def symbolFrom (symbols : Array Nat) : List Nat → Nat → Nat → Nat → Step Nat
  | [], _, _, _ => refuse
  | count :: counts, code, first, index => do
    let code := code + (← bit)
    if code < first + count then
      match symbols[index + (code - first)]? with
      | some symbol => pure symbol
      | none => refuse
    else symbolFrom symbols counts (2 * code) (2 * (first + count)) (index + count)

def symbol (code : PrefixCode) : Step Nat := symbolFrom code.symbols code.counts 0 0 0

/-! ### Blocks -/

/-- Base and extra bits of the length symbols from 257. -/
def lengthTable : Array (Nat × Nat) :=
  #[(3, 0), (4, 0), (5, 0), (6, 0), (7, 0), (8, 0), (9, 0), (10, 0), (11, 1), (13, 1), (15, 1),
    (17, 1), (19, 2), (23, 2), (27, 2), (31, 2), (35, 3), (43, 3), (51, 3), (59, 3), (67, 4),
    (83, 4), (99, 4), (115, 4), (131, 5), (163, 5), (195, 5), (227, 5), (258, 0)]

/-- Base and extra bits of the distance symbols. -/
def distanceTable : Array (Nat × Nat) :=
  #[(1, 0), (2, 0), (3, 0), (4, 0), (5, 1), (7, 1), (9, 2), (13, 2), (17, 3), (25, 3), (33, 4),
    (49, 4), (65, 5), (97, 5), (129, 6), (193, 6), (257, 7), (385, 7), (513, 8), (769, 8),
    (1025, 9), (1537, 9), (2049, 10), (3073, 10), (4097, 11), (6145, 11), (8193, 12), (12289, 12),
    (16385, 13), (24577, 13)]

/-- Base value plus extra bits of a table symbol. -/
def extended (table : Array (Nat × Nat)) (index : Nat) : Step Nat :=
  match table[index]? with
  | some (least, extra) => return least + (← number extra)
  | none => refuse

/-- Copies bytes from a distance back. -/
def copy (distance : Nat) : Nat → Step Unit
  | 0 => pure ()
  | count + 1 => do
    let output := (← get).output
    match if distance ≤ output.size then output[output.size - distance]? else none with
    | some byte =>
      emit byte
      copy distance count
    | none => refuse

/-- Symbols up to the end-of-block symbol. -/
def codedBlock (literals distances : PrefixCode) : Nat → Step Unit
  | 0 => refuse
  | fuel + 1 => do
    let value ← symbol literals
    if value < 256 then
      emit value.toUInt8
      codedBlock literals distances fuel
    else if value = 256 then pure ()
    else
      let length ← extended lengthTable (value - 257)
      let distance ← extended distanceTable (← symbol distances)
      copy distance length
      codedBlock literals distances fuel

def skipToByte : Step Unit :=
  modify fun stream =>
    if stream.used = 0 then stream else { stream with source := stream.source.tail, used := 0 }

def storedBlock : Step Unit := do
  skipToByte
  let length ← number 16
  let check ← number 16
  if length + check ≠ 65535 then refuse
  let stream ← get
  set { stream with
    source := stream.source.drop length
    output := stream.output ++ (stream.source.take length).toArray }
  if stream.source.length < length then throw .cutShort

def lengthOrder : List Nat := [16, 17, 18, 0, 8, 7, 9, 6, 10, 5, 11, 4, 12, 3, 13, 2, 14, 1, 15]

def codeLengths (code : PrefixCode) (wanted : Nat) : Nat → List Nat → Step (List Nat)
  | 0, _ => refuse
  | fuel + 1, lengths =>
    if lengths.length = wanted then pure lengths
    else if wanted < lengths.length then refuse
    else do
      let value ← symbol code
      if value < 16 then codeLengths code wanted fuel (lengths ++ [value])
      else if value = 16 then
        match lengths.getLast? with
        | some last =>
          let count ← number 2
          codeLengths code wanted fuel (lengths ++ List.replicate (count + 3) last)
        | none => refuse
      else if value = 17 then
        let count ← number 3
        codeLengths code wanted fuel (lengths ++ List.replicate (count + 3) 0)
      else
        let count ← number 7
        codeLengths code wanted fuel (lengths ++ List.replicate (count + 11) 0)

def blockCodes : Step (PrefixCode × PrefixCode) := do
  let literals := (← number 5) + 257
  let distances := (← number 5) + 1
  let count := (← number 4) + 4
  if 286 < literals ∨ 30 < distances then refuse
  let lengths ← (List.range count).mapM fun _ => number 3
  let lengthOf (symbol : Nat) : Nat :=
    ((lengthOrder.zip lengths).lookup symbol).getD 0
  let code := PrefixCode.ofLengths ((List.range 19).map lengthOf)
  if !code.isComplete then refuse
  let all ← codeLengths code (literals + distances) (literals + distances + 1) []
  let literalCode := PrefixCode.ofLengths (all.take literals)
  let distanceCode := PrefixCode.ofLengths (all.drop literals)
  if all[256]? ≠ some 0 && literalCode.isComplete && distanceCode.isUsable then
    pure (literalCode, distanceCode)
  else refuse

def fixedLiterals : PrefixCode :=
  .ofLengths (List.replicate 144 8 ++ List.replicate 112 9 ++ List.replicate 24 7 ++
    List.replicate 8 8)

def fixedDistances : PrefixCode := .ofLengths (List.replicate 30 5)

def blocks : Nat → Step Unit
  | 0 => refuse
  | fuel + 1 => do
    let isLast ← bit
    match ← number 2 with
    | 0 => storedBlock
    | 1 => codedBlock fixedLiterals fixedDistances (fuel + 1)
    | 2 =>
      let (literals, distances) ← blockCodes
      codedBlock literals distances (fuel + 1)
    | _ => refuse
    if isLast = 1 then pure () else blocks fuel

/-- The two-byte stream header: method, window and check. -/
def header : Step Unit := do
  let method ← number 8
  let flags ← number 8
  if method % 16 = 8 ∧ method / 16 ≤ 7 ∧ (256 * method + flags) % 31 = 0 ∧ flags / 32 % 2 = 0 then
    pure ()
  else refuse

/-- Output of a stream, and the error that ended it, if any. -/
def inflate (source : List UInt8) : Array UInt8 × Option DecodeFault :=
  match StateT.run (ExceptT.run (do header; blocks (8 * source.length))) ⟨source, 0, #[]⟩ with
  | (.ok (), stream) => (stream.output, none)
  | (.error fault, stream) => (stream.output, some fault)

end ShaderPreview.Inflate
