import ShaderPreview.Window.Watcher

/-!
# Properties of the watcher

The watcher compares modification times, so the guarantees assume that every write has a new
modification time. Then no write is missed, nothing is returned twice, and early polls, removals and
contents that are not text do no harm.
-/

namespace ShaderPreview

inductive WatchEvent where
  | written (entry : FileEntry)
  | removed
  /-- A poll, with the deadline before it and its result. -/
  | polled (now deadline : Nat) (answer : Option String)
  deriving DecidableEq, Repr

namespace WatchEvent

def time? : WatchEvent → Option Nat
  | .written entry => some entry.modified
  | _ => none

def answer? : WatchEvent → Option String
  | .polled _ _ answer => answer
  | _ => none

/-- A poll before its deadline. -/
def isEarly : WatchEvent → Bool
  | .polled now deadline _ => now < deadline
  | _ => false

end WatchEvent

def fileTimes (first : Option Nat) (history : List WatchEvent) : List Nat :=
  history.filterMap WatchEvent.time? ++ first.toList

/-- Latest text returned. Histories have the latest event first. -/
def lastAnswer? (history : List WatchEvent) : Option String := history.findSome? WatchEvent.answer?

def FileTree.entry? (files : FileTree) (path : Path) : Option FileEntry :=
  (files.locate path).toOption

/-- Histories of a watched file with the resulting file system and watcher. Every write has a new
modification time; other files may change at any time. -/
inductive Watched (path : Path) (initial : FileTree) (begun : Nat) :
    List WatchEvent → FileTree → Watcher → Prop
  | begun : Watched path initial begun [] initial (.start initial path begun)
  | written {history : List WatchEvent} {files later : FileTree} {watcher : Watcher}
      {entry : FileEntry} (watched : Watched path initial begun history files watcher)
      (leads : later.entry? path = some entry)
      (fresh : entry.modified ∉ fileTimes (initial.modified? path) history) :
      Watched path initial begun (.written entry :: history) later watcher
  | removed {history : List WatchEvent} {files later : FileTree} {watcher : Watcher}
      (watched : Watched path initial begun history files watcher)
      (gone : later.entry? path = none) :
      Watched path initial begun (.removed :: history) later watcher
  | elsewhere {history : List WatchEvent} {files later : FileTree} {watcher : Watcher}
      (watched : Watched path initial begun history files watcher)
      (same : later.entry? path = files.entry? path) :
      Watched path initial begun history later watcher
  | polled {history : List WatchEvent} {files : FileTree} {watcher : Watcher} (now : Nat)
      (watched : Watched path initial begun history files watcher) :
      Watched path initial begun
        (.polled now watcher.deadline (watcher.poll files now).1 :: history) files
        (watcher.poll files now).2

/-- The latest write since the last poll on time. -/
def unmet? : List WatchEvent → Option FileEntry
  | [] => none
  | .written entry :: _ => some entry
  | .removed :: _ => none
  | .polled now deadline _ :: history => if now < deadline then unmet? history else none

/-! ### One look -/

def FileEntry.text? : FileEntry → Option String
  | .file contents _ => textOf? contents
  | .folder _ => none

namespace FileTree

theorem modified?_eq (files : FileTree) (path : Path) :
    files.modified? path = (files.entry? path).map FileEntry.modified := by
  unfold modified? entry?
  cases files.locate path <;> rfl

theorem text?_eq (files : FileTree) (path : Path) :
    files.text? path = (files.entry? path).bind FileEntry.text? := by
  unfold text? read entry?
  cases files.locate path with
  | error fault => rfl
  | ok entry => cases entry <;> rfl

end FileTree

namespace Watcher

variable {files : FileTree} {now : Nat} {watcher : Watcher} {entry : FileEntry}

theorem poll_path (files : FileTree) (now : Nat) (watcher : Watcher) :
    (watcher.poll files now).2.path = watcher.path := by
  simp only [poll]
  split
  · rfl
  · split
    · rfl
    · split <;> rfl

theorem poll_missing (hdue : watcher.deadline ≤ now) (h : files.entry? watcher.path = none) :
    watcher.poll files now = (none, { watcher with deadline := now + watchInterval }) := by
  have hmodified : files.modified? watcher.path = none := by
    rw [FileTree.modified?_eq, h]
    rfl
  simp only [poll, Nat.not_lt.2 hdue, if_false, hmodified]

theorem poll_seen (hdue : watcher.deadline ≤ now) (h : files.entry? watcher.path = some entry)
    (hseen : watcher.modified = some entry.modified) :
    watcher.poll files now = (none, { watcher with deadline := now + watchInterval }) := by
  have hmodified : files.modified? watcher.path = some entry.modified := by
    rw [FileTree.modified?_eq, h]
    rfl
  simp only [poll, Nat.not_lt.2 hdue, if_false, hmodified, hseen, if_true]

theorem poll_unseen (hdue : watcher.deadline ≤ now) (h : files.entry? watcher.path = some entry)
    (hunseen : watcher.modified ≠ some entry.modified) :
    watcher.poll files now = (entry.text?,
      { watcher with deadline := now + watchInterval, modified := some entry.modified }) := by
  have hmodified : files.modified? watcher.path = some entry.modified := by
    rw [FileTree.modified?_eq, h]
    rfl
  have htext : files.text? watcher.path = entry.text? := by
    rw [FileTree.text?_eq, h]
    rfl
  simp only [poll, Nat.not_lt.2 hdue, if_false, hmodified, hunseen, htext]

end Watcher

/-! ### What the watcher knows -/

/-- Invariant: the remembered modification time is one the file has had. Without an unmet write it
is the current one, and the current text was returned last or was there initially. -/
structure Tracks (path : Path) (initial : FileTree) (history : List WatchEvent)
    (files : FileTree) (watcher : Watcher) : Prop where
  follows : watcher.path = path
  present {entry : FileEntry} : files.entry? path = some entry →
    entry.modified ∈ fileTimes (initial.modified? path) history
  remembered {time : Nat} : watcher.modified = some time →
    time ∈ fileTimes (initial.modified? path) history
  unmet {entry : FileEntry} : unmet? history = some entry →
    files.entry? path = some entry ∧ watcher.modified ≠ some entry.modified
  met {entry : FileEntry} : unmet? history = none → files.entry? path = some entry →
    watcher.modified = some entry.modified
  known {text : String} : unmet? history = none → files.text? path = some text →
    (lastAnswer? history).or (initial.text? path) = some text

section

variable {path : Path} {initial files later : FileTree} {begun now : Nat}
  {history : List WatchEvent} {watcher : Watcher}

theorem tracks_start (path : Path) (initial : FileTree) (begun : Nat) :
    Tracks path initial [] initial (.start initial path begun) := by
  have hfirst {time : Nat} (h : initial.modified? path = some time) :
      time ∈ fileTimes (initial.modified? path) [] := by
    simp [fileTimes, h]
  have hmodified {entry : FileEntry} (h : initial.entry? path = some entry) :
      initial.modified? path = some entry.modified := by
    rw [FileTree.modified?_eq, h]
    rfl
  exact ⟨rfl, fun h => hfirst (hmodified h), hfirst, nofun, fun _ h => hmodified h, fun _ h => h⟩

theorem Tracks.written (h : Tracks path initial history files watcher) {entry : FileEntry}
    (hleads : later.entry? path = some entry)
    (hfresh : entry.modified ∉ fileTimes (initial.modified? path) history) :
    Tracks path initial (.written entry :: history) later watcher where
  follows := h.follows
  present hother := by
    obtain rfl := Option.some.inj (hleads.symm.trans hother)
    exact List.mem_cons_self
  remembered htime := List.mem_cons_of_mem _ (h.remembered htime)
  unmet hentry := by
    obtain rfl := Option.some.inj hentry
    exact ⟨hleads, fun hsame => hfresh (h.remembered hsame)⟩
  met := nofun
  known := nofun

theorem Tracks.removed (h : Tracks path initial history files watcher)
    (hgone : later.entry? path = none) :
    Tracks path initial (.removed :: history) later watcher := by
  have hsilent : later.text? path = none := by
    rw [FileTree.text?_eq, hgone]
    rfl
  have habsent {entry : FileEntry} : later.entry? path ≠ some entry := by
    rw [hgone]
    exact nofun
  refine ⟨h.follows, fun hentry => absurd hentry habsent, h.remembered, nofun,
    fun _ hentry => absurd hentry habsent, fun _ htext => ?_⟩
  cases hsilent.symm.trans htext

theorem Tracks.elsewhere (h : Tracks path initial history files watcher)
    (hsame : later.entry? path = files.entry? path) :
    Tracks path initial history later watcher := by
  have htext : later.text? path = files.text? path := by
    rw [FileTree.text?_eq, FileTree.text?_eq, hsame]
  refine ⟨h.follows, ?_, h.remembered, ?_, ?_, ?_⟩
  · rw [hsame]
    exact h.present
  · rw [hsame]
    exact h.unmet
  · rw [hsame]
    exact h.met
  · rw [htext]
    exact h.known

theorem Tracks.early (h : Tracks path initial history files watcher)
    (hearly : now < watcher.deadline) :
    Tracks path initial (.polled now watcher.deadline none :: history) files watcher := by
  have hunmet : unmet? (.polled now watcher.deadline none :: history) = unmet? history :=
    if_pos hearly
  refine ⟨h.follows, h.present, h.remembered, ?_, ?_, ?_⟩
  · rw [hunmet]
    exact h.unmet
  · rw [hunmet]
    exact h.met
  · rw [hunmet]
    exact h.known

theorem Tracks.answer (h : Tracks path initial history files watcher)
    (hdue : watcher.deadline ≤ now) :
    (watcher.poll files now).1 = (unmet? history).bind FileEntry.text? := by
  obtain rfl := h.follows
  cases hunmet : unmet? history with
  | some entry =>
    obtain ⟨hleads, hunseen⟩ := h.unmet hunmet
    rw [Watcher.poll_unseen hdue hleads hunseen]
    rfl
  | none =>
    cases hentry : files.entry? watcher.path with
    | some entry =>
      rw [Watcher.poll_seen hdue hentry (h.met hunmet hentry)]
      rfl
    | none =>
      rw [Watcher.poll_missing hdue hentry]
      rfl

theorem Tracks.seen (h : Tracks path initial history files watcher)
    (hdue : watcher.deadline ≤ now) {entry : FileEntry} (hleads : files.entry? path = some entry) :
    (watcher.poll files now).2.modified = some entry.modified := by
  obtain rfl := h.follows
  by_cases hseen : watcher.modified = some entry.modified
  · rw [Watcher.poll_seen hdue hleads hseen]
    exact hseen
  · rw [Watcher.poll_unseen hdue hleads hseen]

theorem Tracks.due (h : Tracks path initial history files watcher)
    (hdue : watcher.deadline ≤ now) :
    Tracks path initial (.polled now watcher.deadline (watcher.poll files now).1 :: history) files
      (watcher.poll files now).2 where
  follows := (watcher.poll_path files now).trans h.follows
  present := h.present
  remembered {time} htime := by
    cases hentry : files.entry? path with
    | some entry =>
      have hseen := h.seen hdue hentry
      obtain rfl := Option.some.inj (hseen.symm.trans htime)
      exact h.present hentry
    | none =>
      obtain rfl := h.follows
      rw [Watcher.poll_missing hdue hentry] at htime
      exact h.remembered htime
  unmet hentry := by
    rw [unmet?, if_neg (Nat.not_lt.2 hdue)] at hentry
    cases hentry
  met _ hentry := h.seen hdue hentry
  known {text} _ htext := by
    have hanswer := h.answer hdue
    -- a write that was not met is the answer now; else the text was known before
    cases hunmet : unmet? history with
    | some entry =>
      have hleads := (h.unmet hunmet).1
      rw [FileTree.text?_eq, hleads] at htext
      rw [hanswer, hunmet, htext]
      rfl
    | none =>
      rw [hanswer, hunmet]
      exact h.known hunmet htext

theorem Watched.tracks (h : Watched path initial begun history files watcher) :
    Tracks path initial history files watcher := by
  -- a look is early or due by the deadline that the watcher had then
  induction h with
  | begun => exact tracks_start path initial begun
  | written _ leads fresh ih => exact ih.written leads fresh
  | removed _ gone ih => exact ih.removed gone
  | elsewhere _ same ih => exact ih.elsewhere same
  | @polled history files watcher now _ ih =>
    obtain hearly | hdue := Nat.lt_or_ge now watcher.deadline
    · rw [Watcher.poll_early hearly]
      exact ih.early hearly
    · exact ih.due hdue

/-! ### Writes in a history -/

theorem unmet?_split {entry : FileEntry} (h : unmet? history = some entry) :
    ∃ later earlier, history = later ++ .written entry :: earlier ∧
      ∀ event ∈ later, event.isEarly = true := by
  induction history with
  | nil => cases h
  | cons event history ih =>
    cases event with
    | written other =>
      obtain rfl := Option.some.inj h
      exact ⟨[], history, rfl, nofun⟩
    | removed => cases h
    | polled now deadline answer =>
      by_cases hearly : now < deadline
      · rw [unmet?, if_pos hearly] at h
        obtain ⟨later, earlier, rfl, hlater⟩ := ih h
        refine ⟨.polled now deadline answer :: later, earlier, rfl, ?_⟩
        exact List.forall_mem_cons.2 ⟨decide_eq_true hearly, hlater⟩
      · rw [unmet?, if_neg hearly] at h
        cases h

theorem unmet?_behind {later : List WatchEvent} (entry : FileEntry) (earlier : List WatchEvent)
    (h : ∀ event ∈ later, event.isEarly = true) :
    unmet? (later ++ .written entry :: earlier) = some entry := by
  induction later with
  | nil => rfl
  | cons event later ih =>
    obtain ⟨hevent, hlater⟩ := List.forall_mem_cons.1 h
    cases event with
    | polled now deadline answer =>
      have hearly : now < deadline := of_decide_eq_true hevent
      rw [List.cons_append, unmet?, if_pos hearly]
      exact ih hlater
    | written | removed => cases hevent

theorem Watched.early_silent (h : Watched path initial begun history files watcher)
    {event : WatchEvent} (he : event ∈ history) (hearly : event.isEarly = true) :
    event.answer? = none := by
  induction h with
  | begun => cases he
  | written _ _ _ ih | removed _ _ ih =>
    obtain rfl | he := List.mem_cons.1 he
    · rfl
    · exact ih he
  | elsewhere _ _ ih => exact ih he
  | polled now _ ih =>
    obtain rfl | he := List.mem_cons.1 he
    · have hbefore := of_decide_eq_true hearly
      rw [WatchEvent.answer?, Watcher.poll_early hbefore]
    · exact ih he

end

/-- For every history of a watched file: an early poll changes nothing and returns nothing, and a
poll on time sets the next deadline half a second later. If the file holds text at a poll on time,
that is the text returned last, this poll included, or initially there if none was returned. A
returned text is the current contents and stems from the latest write, which no earlier poll
returned. A poll on time returns the contents written since the last one, if they are text. -/
theorem poll_watched {path : Path} {initial files : FileTree} {begun : Nat}
    {history : List WatchEvent} {watcher : Watcher}
    (h : Watched path initial begun history files watcher) (now : Nat) :
    let answer := (watcher.poll files now).1
    let after := (watcher.poll files now).2
    (now < watcher.deadline → answer = none ∧ after = watcher) ∧
    (watcher.deadline ≤ now → after.deadline = now + 500000000) ∧
    (∀ text, watcher.deadline ≤ now → files.text? path = some text →
      (lastAnswer? (.polled now watcher.deadline answer :: history)).or (initial.text? path) =
        some text) ∧
    (∀ text, answer = some text → files.text? path = some text ∧
      ∃ later entry earlier, history = later ++ .written entry :: earlier ∧
        files.entry? path = some entry ∧ ∀ event ∈ later, event.answer? = none) ∧
    ∀ text later entry earlier, watcher.deadline ≤ now →
      history = later ++ .written entry :: earlier → (∀ event ∈ later, event.isEarly = true) →
      files.text? path = some text → answer = some text := by
  intro answer after
  have htracks := h.tracks
  have hdueAnswer (hdue : watcher.deadline ≤ now) :
      answer = (unmet? history).bind FileEntry.text? := htracks.answer hdue
  have hthere {entry : FileEntry} (hunmet : unmet? history = some entry) :
      files.text? path = entry.text? := by
    rw [FileTree.text?_eq, (htracks.unmet hunmet).1]
    rfl
  refine ⟨fun hearly => ?_, Watcher.poll_deadline, fun text hdue htext => ?_,
    fun text htold => ?_, fun text later entry earlier hdue hhistory hlater htext => ?_⟩
  · have hpoll : watcher.poll files now = (none, watcher) := Watcher.poll_early hearly
    exact ⟨congrArg Prod.fst hpoll, congrArg Prod.snd hpoll⟩
  · have hunmet : unmet? (.polled now watcher.deadline answer :: history) = none :=
      if_neg (Nat.not_lt.2 hdue)
    exact (htracks.due hdue).known hunmet htext
  · obtain hearly | hdue := Nat.lt_or_ge now watcher.deadline
    · have hnone : answer = none := congrArg Prod.fst (Watcher.poll_early hearly)
      cases hnone.symm.trans htold
    · rw [hdueAnswer hdue] at htold
      obtain ⟨entry, hunmet, htext⟩ := Option.bind_eq_some_iff.1 htold
      obtain ⟨later, earlier, hhistory, hearly⟩ := unmet?_split hunmet
      refine ⟨(hthere hunmet).trans htext, later, entry, earlier, hhistory,
        (htracks.unmet hunmet).1, fun event he => ?_⟩
      refine h.early_silent ?_ (hearly event he)
      rw [hhistory]
      exact List.mem_append_left _ he
  · have hunmet : unmet? history = some entry := by
      rw [hhistory]
      exact unmet?_behind entry earlier hlater
    rw [hdueAnswer hdue, hunmet]
    exact (hthere hunmet).symm.trans htext

/-- A file that is missing, then not text, then missing again is returned once it is text, despite
an early poll in between. -/
theorem poll_watched_rewritten :
    let path : Path := ⟨"live.wgsl"⟩
    let unreadable := FileTree.empty.put path (.file [255] 1)
    let rewritten := FileTree.empty.put path (.file [47, 47, 32, 118, 50] 2)
    let looked := ((Watcher.start .empty path 0).poll unreadable 500000000).2
    let waiting := (looked.poll rewritten 600000000).2
    waiting.deadline = 1000000000 ∧ (waiting.poll rewritten 1000000000).1 = some "// v2" := by
  intro path unreadable rewritten looked waiting
  have hunreadable : unreadable.entry? path = some (.file [255] 1) := by decide +kernel
  have hrewritten : rewritten.entry? path = some (.file [47, 47, 32, 118, 50] 2) := by
    decide +kernel
  have hlooked : Watched path .empty 0 _ unreadable looked :=
    .polled 500000000 (.written .begun hunreadable (by decide))
  have hgone : FileTree.empty.entry? path = none := by decide +kernel
  have hremoved : Watched path .empty 0 _ .empty looked := .removed hlooked hgone
  have hwaiting : Watched path .empty 0 _ rewritten waiting :=
    .polled 600000000 (.written hremoved hrewritten (by decide +kernel))
  obtain ⟨_, _, _, _, hunmet⟩ := poll_watched hwaiting 1000000000
  refine ⟨by decide +kernel, hunmet "// v2" [_] _ _ (by decide +kernel) rfl ?_ ?_⟩
  · exact List.forall_mem_singleton.2 (by decide +kernel)
  · decide +kernel

end ShaderPreview
