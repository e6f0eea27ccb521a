import ShaderPreview.Proofs.Diagnostic.Harmless

/-!
# Header offset

Neither the choice of the dialect nor that of its matches depends on a line number, so the header
offset can be applied to each match or to the result alike.
-/

namespace ShaderPreview.Diagnostic

open Text

/-! ### Taking off the header at once -/

def recordBelow? (header : Nat) (declines : List Char → Bool) (found : Excerpt × List Char) :
    Option Diagnostic :=
  let message := trim found.1.message
  if message.isEmpty || declines message then none
  else match position? found.1.line with
    | none => none
    | some line =>
      let cleaned := cleanText message
      if cleaned.isEmpty then none
      else
        let line := if countsHeader found.2 then line - header else line
        some { onLine (String.ofList cleaned) line with
          column := position? found.1.column
          severity := found.1.severity }

def wholeBelow (header : Nat) (text : List Char) : Diagnostic :=
  match mentionedLine? text with
  | some line => onLine (String.ofList text) (line - header)
  | none =>
    let cleaned := cleanText text
    onLine (String.ofList (if cleaned.isEmpty then text else cleaned)) 1

def recordsBelow (header : Nat) (text : List Char) :
    List (Dialect × (List Char → Bool)) → List Diagnostic
  | [] => [wholeBelow header text]
  | dialect :: others =>
    match (findAll dialect.1 text).filterMap (recordBelow? header dialect.2) with
    | [] => recordsBelow header text others
    | found => found

/-- Alternative definition that applies the header offset to every reading. -/
def readBelow (raw : String) (header : Nat) : List Diagnostic :=
  let text := trim raw.toList
  if text.isEmpty || isStatusLine text then [] else recordsBelow header text dialects

theorem below_onLine (message : String) (line header : Nat) (column : Option Nat)
    (severity : Severity) (counted : Bool) :
    (⟨message, line, column, severity, counted⟩ : Placed).below header =
      { onLine message (if counted then line - header else line) with
        column := column
        severity := severity } := by
  simp only [Placed.below, onLine, Nat.max_comm]

theorem recordBelow_eq (header : Nat) (declines : List Char → Bool)
    (found : Excerpt × List Char) :
    recordBelow? header declines found = (place? declines found).map (·.below header) := by
  simp only [recordBelow?, place?]
  split
  · rfl
  · cases position? found.1.line with
    | none => rfl
    | some line =>
      dsimp only
      split
      · rfl
      · rw [Option.map_some, below_onLine]

theorem wholeBelow_eq (header : Nat) (text : List Char) :
    wholeBelow header text = (wholeText text).below header := by
  unfold wholeBelow wholeText
  cases mentionedLine? text with
  | none =>
    rw [below_onLine]
    rfl
  | some line =>
    rw [below_onLine]
    rfl

theorem recordsBelow_eq (header : Nat) (text : List Char)
    (dialects : List (Dialect × (List Char → Bool))) :
    recordsBelow header text dialects =
      (match firstReadings text dialects with
        | [] => [wholeText text]
        | found => found).map fun placed : Placed => placed.below header := by
  induction dialects with
  | nil => exact congrArg (fun record => [record]) (wholeBelow_eq header text)
  | cons dialect others ih =>
    have hrecord : recordBelow? header dialect.2 = fun found =>
        (place? dialect.2 found).map (·.below header) := funext (recordBelow_eq header dialect.2)
    have hreadings : (findAll dialect.1 text).filterMap (recordBelow? header dialect.2) =
        (readings dialect text).map (·.below header) := by
      rw [hrecord, readings, List.map_filterMap]
    -- whether there are readings does not depend on what the header makes of them
    rw [recordsBelow, hreadings, firstReadings]
    cases readings dialect text with
    | nil => exact ih
    | cons placed more => rfl

theorem readBelow_eq (raw : String) (header : Nat) :
    readBelow raw header = normalize raw header := by
  simp only [readBelow, normalize, locateAll]
  split
  · rfl
  · exact recordsBelow_eq header _ dialects

/-! ### Lines that move -/

/-- Record below a header, from the record without a header and the flag for its line. -/
def shift (header : Nat) (counted : Diagnostic × Bool) : Diagnostic :=
  if counted.2 then { counted.1 with line := max 1 (counted.1.line - header) } else counted.1

theorem shift_below (header : Nat) (placed : Placed) :
    shift header (placed.below 0, placed.counted) = placed.below header := by
  unfold shift Placed.below
  cases placed.counted with
  | false => rfl
  | true =>
    have hline : max 1 (max 1 placed.line - header) = max 1 (placed.line - header) := by omega
    simp only [if_true, Nat.sub_zero, hline]

/-- The header offset affects only lines: with flags that do not depend on the header, the line of
each flagged record is reduced by the header and clamped to 1. Applying the offset per reading gives
the same result. -/
theorem normalize_shifted (raw : String) : ∃ counted : List (Diagnostic × Bool),
    counted.map (·.1) = normalize raw 0 ∧
    ∀ header, normalize raw header = counted.map (shift header) ∧
      readBelow raw header = normalize raw header := by
  refine ⟨(locateAll raw.toList).map fun placed => (placed.below 0, placed.counted), ?_, ?_⟩
  · rw [List.map_map]
    rfl
  · intro header
    refine ⟨?_, readBelow_eq raw header⟩
    rw [normalize, List.map_map]
    exact List.map_congr_left fun placed _ => (shift_below header placed).symm

end ShaderPreview.Diagnostic
