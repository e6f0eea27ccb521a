import ShaderPreview.Picture.Fault

/-!
# Run-length encoding

Compressed bitmaps: repeated indices, literal indices, ends of rows, and moves. Skipped pixels have
no index; no run extends past the end of its row.
-/

namespace ShaderPreview.Bitmap

/-- Run-length code. -/
inductive Run where
  | endOfPicture
  | endOfRow
  /-- Moves right and down; the column is counted from the last end-of-row code. -/
  | step (columns rows : Nat)
  | indices (indices : List Nat)
  deriving DecidableEq, Repr

def indicesOfRun (bits : Nat) (byte : UInt8) : List Nat :=
  if bits = 4 then [byte.toNat / 16, byte.toNat % 16] else [byte.toNat]

/-- One code; literal runs are padded to an even length. -/
def readRun (bits : Nat) (source : List UInt8) : Decoding (Run × List UInt8) := do
  match ← takeBytes 2 source with
  | ([0, 0], source) => return (.endOfRow, source)
  | ([0, 1], source) => return (.endOfPicture, source)
  | ([0, 2], source) => match ← takeBytes 2 source with
    | ([columns, rows], source) => return (.step columns.toNat rows.toNat, source)
    | _ => throw .cutShort
  | ([0, count], source) =>
    let length := if bits = 4 then (count.toNat + 1) / 2 else count.toNat
    let (bytes, source) ← takeBytes (length + length % 2) source
    return (.indices ((bytes.flatMap (indicesOfRun bits)).take count.toNat), source)
  | ([count, byte], source) =>
    let all := (List.replicate count.toNat (indicesOfRun bits byte)).flatten
    return (.indices (all.take count.toNat), source)
  | _ => throw .cutShort

/-- Completed rows and pixels of the current row, both in reverse. -/
structure RunCanvas where
  width : Nat
  height : Nat
  rows : List (List (Option Nat))
  row : List (Option Nat)

namespace RunCanvas

def isFull (canvas : RunCanvas) : Bool := canvas.rows.length = canvas.height

def put (pixels : List (Option Nat)) (canvas : RunCanvas) : Decoding RunCanvas :=
  if canvas.width < canvas.row.length + pixels.length then .error .malformed
  else .ok { canvas with row := pixels.reverse ++ canvas.row }

def endRow (canvas : RunCanvas) : RunCanvas :=
  let rest := List.replicate (canvas.width - canvas.row.length) none
  { canvas with rows := (canvas.row.reverse ++ rest) :: canvas.rows, row := [] }

def endRows : Nat → RunCanvas → Decoding RunCanvas
  | 0, canvas => .ok canvas
  | count + 1, canvas =>
    let canvas := canvas.endRow
    if canvas.isFull then .error .malformed else endRows count canvas

/-- All rows in order; rows that were not reached are empty. -/
def finish (canvas : RunCanvas) : List (List (Option Nat)) :=
  let canvas := if canvas.isFull then canvas else canvas.endRow
  canvas.rows.reverse ++
    List.replicate (canvas.height - canvas.rows.length) (List.replicate canvas.width none)

/-- Steps over pixels and rows. The column stays the same, counted by the pixels since the last end
of a row. -/
def step (column columns rows : Nat) (canvas : RunCanvas) : Decoding RunCanvas := do
  let canvas ← canvas.endRows rows
  canvas.put (List.replicate (if rows = 0 then columns else column + columns) none)

end RunCanvas

/-- Codes up to the end of the picture. Every code takes two bytes, so `fuel` is the number of
bytes. -/
def readRuns (bits : Nat) : Nat → Nat → RunCanvas → List UInt8 →
    Decoding (List (List (Option Nat)))
  | 0, _, _, _ => .error .cutShort
  | fuel + 1, column, canvas, source => do
    let (run, source) ← readRun bits source
    match run with
    | .endOfPicture => return canvas.finish
    | .endOfRow =>
      let canvas := canvas.endRow
      if canvas.isFull then return canvas.finish else readRuns bits fuel 0 canvas source
    | .step columns rows =>
      readRuns bits fuel (column + columns) (← canvas.step column columns rows) source
    | .indices indices =>
      readRuns bits fuel (column + indices.length) (← canvas.put (indices.map some)) source

def indexRows (bits width height : Nat) (source : List UInt8) :
    Decoding (List (List (Option Nat))) :=
  readRuns bits (source.length + 1) 0 ⟨width, height, [], []⟩ source

end ShaderPreview.Bitmap
