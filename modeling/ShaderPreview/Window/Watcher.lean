import ShaderPreview.Files.Tree

/-!
# Shader watcher

Hot reload by polling the modification time of the shader file (SPEC_FULL.md, section 12). The time
is remembered even if the contents cannot be read as text. Times are in nanoseconds.
-/

namespace ShaderPreview

/-- Poll interval: 500 ms. -/
def watchInterval : Nat := 500000000

/-- File, last seen modification time, and time of the next poll. -/
structure Watcher where
  path : Path
  modified : Option Nat
  deadline : Nat
  deriving DecidableEq, Repr

namespace Watcher

def start (files : FileTree) (path : Path) (now : Nat) : Watcher :=
  ⟨path, files.modified? path, now + watchInterval⟩

/-- Contents of the file if it is due for a poll and its modification time has changed. -/
def poll (files : FileTree) (now : Nat) (watcher : Watcher) : Option String × Watcher :=
  if now < watcher.deadline then (none, watcher)
  else
    let watcher := { watcher with deadline := now + watchInterval }
    match files.modified? watcher.path with
    | none => (none, watcher)
    | some modified =>
      if watcher.modified = some modified then (none, watcher)
      else (files.text? watcher.path, { watcher with modified := some modified })

theorem poll_early {files : FileTree} {now : Nat} {watcher : Watcher}
    (h : now < watcher.deadline) : watcher.poll files now = (none, watcher) := by
  simp [poll, h]

theorem poll_deadline {files : FileTree} {now : Nat} {watcher : Watcher}
    (h : watcher.deadline ≤ now) : (watcher.poll files now).2.deadline = now + watchInterval := by
  simp only [poll, Nat.not_lt.2 h, if_false]
  split
  · rfl
  · split <;> rfl

end Watcher

end ShaderPreview
