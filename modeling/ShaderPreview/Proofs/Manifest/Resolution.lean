import ShaderPreview.Manifest.Basic

/-!
# Resolving manifests

Joining paths is associative: an empty base and a base with a trailing slash add no separator, and
an absolute path drops its base. Hence resolutions compose.
-/

namespace ShaderPreview

namespace Path

variable {base path : Path}

/-- Separator inserted after a base. -/
def separator (text : List Char) : List Char :=
  if text.getLast?.any (· != '/') then ['/'] else []

/-- Text in front of a relative path joined to a base. -/
def opening (base : Path) : List Char := base.text.toList ++ separator base.text.toList

theorem separator_append (before : List Char) {text : List Char} (h : text ≠ []) :
    separator (before ++ text) = separator text := by
  unfold separator
  rw [List.getLast?_append, List.getLast?_eq_some_getLast h, Option.some_or]

theorem separator_again (text : List Char) : separator (text ++ separator text) = [] := by
  cases hneeded : text.getLast?.any (· != '/') with
  | true =>
    rw [show separator text = ['/'] from if_pos hneeded, separator_append text (by simp)]
    rfl
  | false =>
    have hnone : separator text = [] := if_neg (Bool.eq_false_iff.1 hneeded)
    rw [hnone, List.append_nil, hnone]

theorem needsSlash_eq (base : Path) :
    base.needsSlash = base.text.toList.getLast?.any (· != '/') := by
  unfold needsSlash
  cases base.text.toList.getLast? <;> rfl

theorem toList_join (h : path.isAbsolute = false) :
    (base.join path).text.toList = base.opening ++ path.text.toList := by
  unfold join opening separator
  rw [if_neg (Bool.eq_false_iff.1 h), needsSlash_eq]
  split <;> simp

theorem isAbsolute_join (base path : Path) :
    (base.join path).isAbsolute = (path.isAbsolute || base.isAbsolute) := by
  cases hpath : path.isAbsolute with
  | true => rw [join_absolute hpath, hpath, Bool.true_or]
  | false =>
    rw [isAbsolute, toList_join hpath, opening, Bool.false_or]
    cases hbase : base.text.toList with
    | nil => simpa [isAbsolute, separator, hbase] using hpath
    | cons first rest => simp [isAbsolute, hbase]

theorem opening_join (h : path.isAbsolute = false) :
    (base.join path).opening = base.opening ++ path.opening := by
  unfold opening
  rw [toList_join h, opening]
  by_cases hpath : path.text.toList = []
  · rw [hpath, List.append_nil, separator_again]
    rfl
  · rw [separator_append _ hpath, List.append_assoc]

theorem join_assoc (base between path : Path) :
    (base.join between).join path = base.join (between.join path) := by
  cases hpath : path.isAbsolute with
  | true => rw [join_absolute hpath, join_absolute hpath, join_absolute hpath]
  | false =>
    cases hbetween : between.isAbsolute with
    | true =>
      have hjoined : (between.join path).isAbsolute = true := by
        rw [isAbsolute_join, hbetween, Bool.or_true]
      rw [join_absolute hbetween, join_absolute hjoined]
    | false =>
      have hjoined : (between.join path).isAbsolute = false := by
        rw [isAbsolute_join, hpath, hbetween, Bool.or_false]
      have htext : ((base.join between).join path).text.toList =
          (base.join (between.join path)).text.toList := by
        rw [toList_join hpath, toList_join hjoined, toList_join hpath, opening_join hbetween,
          List.append_assoc]
      exact congrArg Path.mk (String.toList_inj.1 htext)

end Path

/-- The path fields of a manifest. -/
inductive PathPlace where
  | shader
  | channel (channel : Fin channelCount)
  | mesh
  deriving DecidableEq, Repr

namespace Manifest

variable {manifest : Manifest}

def pathAt? (manifest : Manifest) : PathPlace → Option Path
  | .shader => some manifest.shader
  | .channel channel => manifest.channels channel
  | .mesh => manifest.mesh

theorem pathAt?_resolve (base : Path) (manifest : Manifest) (place : PathPlace) :
    (manifest.resolve base).pathAt? place = (manifest.pathAt? place).map base.join := by
  cases place <;> rfl

theorem resolve_resolve (first second : Path) (manifest : Manifest) :
    (manifest.resolve first).resolve second = manifest.resolve (second.join first) := by
  have hjoin (given : Option Path) :
      (given.map first.join).map second.join = given.map (second.join first).join := by
    have hcomposed : second.join ∘ first.join = (second.join first).join :=
      funext fun path => (Path.join_assoc second first path).symm
    rw [Option.map_map, hcomposed]
  unfold resolve
  simp only [hjoin, Path.join_assoc]

end Manifest

/-- Text of a joined path: an absolute path replaces the base; a relative one follows it, with a
slash in between unless the base is empty or ends with one. -/
def joinedText (base path : List Char) : List Char :=
  if path.head? = some '/' then path
  else if base = [] ∨ base.getLast? = some '/' then base ++ path
  else base ++ '/' :: path

theorem Path.isAbsolute_iff {path : Path} :
    path.isAbsolute = true ↔ path.text.toList.head? = some '/' := by
  rw [isAbsolute, beq_iff_eq]

theorem Path.toList_join_eq (base path : Path) :
    (base.join path).text.toList = joinedText base.text.toList path.text.toList := by
  unfold joinedText
  cases habsolute : path.isAbsolute with
  | true => rw [join_absolute habsolute, if_pos (isAbsolute_iff.1 habsolute)]
  | false =>
    have hrelative : path.text.toList.head? ≠ some '/' := fun hslash =>
      Bool.false_ne_true (habsolute.symm.trans (isAbsolute_iff.2 hslash))
    rw [toList_join habsolute, if_neg hrelative, opening, separator]
    cases hbase : base.text.toList.getLast? with
    | none => simp [List.getLast?_eq_none_iff.1 hbase]
    | some last =>
      have hne : base.text.toList ≠ [] := by
        rintro hnil
        simp [hnil] at hbase
      by_cases hslash : last = '/' <;> simp [hne, hslash]

/-- Resolving against two bases is resolving against the joined base, and resolving against an
absolute base is idempotent. Absolute paths are unchanged, relative ones are joined to the base, no
path is added or dropped, and window and watch flag are unchanged. -/
theorem resolve_composes (manifest : Manifest) (first second : Path) :
    (∀ base path : Path,
      (base.join path).text.toList = joinedText base.text.toList path.text.toList) ∧
    (manifest.resolve first).resolve second = manifest.resolve (second.join first) ∧
    (first.text.toList.head? = some '/' →
      (manifest.resolve first).resolve first = manifest.resolve first) ∧
    (∀ place, (manifest.resolve first).pathAt? place = (manifest.pathAt? place).map fun path =>
      if path.text.toList.head? = some '/' then path else first.join path) ∧
    (manifest.resolve first).window = manifest.window ∧
    (manifest.resolve first).watch = manifest.watch := by
  refine ⟨Path.toList_join_eq, manifest.resolve_resolve first second, fun habsolute => ?_,
    fun place => ?_, manifest.resolve_window first, manifest.resolve_watch first⟩
  · rw [Manifest.resolve_resolve, Path.join_absolute (Path.isAbsolute_iff.2 habsolute)]
  · rw [Manifest.pathAt?_resolve]
    refine congrArg (Option.map · (manifest.pathAt? place)) (funext fun path => ?_)
    split
    · next habsolute => exact Path.join_absolute (Path.isAbsolute_iff.2 habsolute)
    · rfl

/-- A base with a trailing slash, then an absolute one, used twice; an empty mesh path and an
absolute channel path. -/
theorem resolve_composes_corners :
    let manifest : Manifest :=
      { shader := ⟨"s.wgsl"⟩, mesh := some ⟨""⟩, window := .unset, watch := true
        channels := fun channel => if channel.val = 0 then some ⟨"/lib/a.png"⟩ else none }
    let resolved := (manifest.resolve ⟨"scenes/"⟩).resolve ⟨"/srv"⟩
    resolved.resolve ⟨"/srv"⟩ = resolved ∧
      resolved.shader = ⟨"/srv/scenes/s.wgsl"⟩ ∧ resolved.mesh = some ⟨"/srv/scenes/"⟩ ∧
      resolved.channels ⟨0, by decide⟩ = some ⟨"/lib/a.png"⟩ ∧
      (manifest.resolve ⟨""⟩).shader = ⟨"s.wgsl"⟩ := by
  intro manifest resolved
  obtain ⟨_, _, hidempotent, _⟩ := resolve_composes (manifest.resolve ⟨"scenes/"⟩) ⟨"/srv"⟩ ⟨"/srv"⟩
  obtain ⟨_, hcomposed, _⟩ := resolve_composes manifest ⟨"scenes/"⟩ ⟨"/srv"⟩
  refine ⟨hidempotent (by decide), ?_, ?_, ?_, by decide⟩
  all_goals
    rw [show resolved = _ from hcomposed]
    decide

end ShaderPreview
