import ShaderPreview.Proofs.Window.Slots

/-!
# Frame slots in terms of their history

A specification of the slots by the history of operations alone: which frame is due, and whether an
observer is connected. The counters make ids unique, so operations with ids that are gone or not yet
issued have no effect.
-/

namespace ShaderPreview

/-- Operations on the slots of a window and on the tokens of its frames. -/
inductive SlotOperation where
  | request (token : Token)
  | cancel (frame : FrameId)
  | observe
  | disconnect (observer : ObserverId)
  | takeDue
  | cancelToken (token : Token)

/-- Operations with the ids they returned. -/
inductive SlotEvent where
  | requested (token : Token) (frame : FrameId)
  | cancelled (frame : FrameId)
  | observed (observer : ObserverId)
  | disconnected (observer : ObserverId)
  | taken (due : Option FrameId)
  | tokenCancelled (token : Token)

/-- Slots, tokens and history, the latest event first. -/
structure SlotStage where
  slots : FrameSlots
  tokens : Tokens
  history : List SlotEvent

namespace SlotStage

def start : SlotStage := ⟨.empty, .none, []⟩

def perform (stage : SlotStage) : SlotOperation → SlotStage
  | .request token =>
    let (frame, slots) := stage.slots.request token
    ⟨slots, stage.tokens, .requested token frame :: stage.history⟩
  | .cancel frame =>
    ⟨stage.slots.cancel frame, stage.tokens, .cancelled frame :: stage.history⟩
  | .observe =>
    let (observer, slots) := stage.slots.observe
    ⟨slots, stage.tokens, .observed observer :: stage.history⟩
  | .disconnect observer =>
    ⟨stage.slots.disconnect observer, stage.tokens, .disconnected observer :: stage.history⟩
  | .takeDue =>
    let (due, slots) := stage.slots.takeDue stage.tokens
    ⟨slots, stage.tokens, .taken due :: stage.history⟩
  | .cancelToken token =>
    ⟨stage.slots, stage.tokens.cancel token, .tokenCancelled token :: stage.history⟩

def run (operations : List SlotOperation) : SlotStage := operations.foldl perform start

end SlotStage

/-! ### Histories -/

namespace SlotEvent

def number? : SlotEvent → Option Nat
  | .requested _ frame => some frame.number
  | .observed observer => some observer.number
  | _ => none

def AsksNothing : SlotEvent → Prop
  | .requested _ _ => False
  | _ => True

/-- The event does not clear the pending frame. -/
def SparesFrame (frame : FrameId) : SlotEvent → Prop
  | .requested _ _ | .taken _ => False
  | .cancelled other => other ≠ frame
  | _ => True

/-- The event does not disconnect the observer. -/
def SparesObserver (observer : ObserverId) : SlotEvent → Prop
  | .observed _ => False
  | .disconnected other => other ≠ observer
  | _ => True

theorem SparesFrame.asksNothing {frame : FrameId} {event : SlotEvent}
    (h : event.SparesFrame frame) : event.AsksNothing := by
  cases event with
  | requested => exact h
  | _ => trivial

end SlotEvent

/-- The event occurred, and every later one satisfies a condition. -/
def Since (begun : SlotEvent) (Keeps : SlotEvent → Prop) (history : List SlotEvent) : Prop :=
  ∃ later earlier, history = later ++ begun :: earlier ∧ ∀ event ∈ later, Keeps event

/-- The next delivery returns this frame, by the history. -/
def Due (history : List SlotEvent) (frame : FrameId) : Prop :=
  ∃ token, Since (.requested token frame) (SlotEvent.SparesFrame frame) history ∧
    .tokenCancelled token ∉ history

/-- Numbers of the issued ids, the latest first. -/
def numbers (history : List SlotEvent) : List Nat := history.filterMap SlotEvent.number?

section

variable {begun event : SlotEvent} {Keeps Holds : SlotEvent → Prop} {history : List SlotEvent}

theorem not_since_nil : ¬ Since begun Keeps [] := by
  rintro ⟨later, earlier, h, _⟩
  cases later <;> cases h

theorem since_cons :
    Since begun Keeps (event :: history) ↔
      event = begun ∨ Keeps event ∧ Since begun Keeps history := by
  constructor
  · rintro ⟨later, earlier, h, hlater⟩
    cases later with
    | nil => exact .inl (List.cons.inj h).1
    | cons first later =>
      obtain ⟨rfl, rfl⟩ := List.cons.inj h
      obtain ⟨hfirst, hlater⟩ := List.forall_mem_cons.1 hlater
      exact .inr ⟨hfirst, later, earlier, rfl, hlater⟩
  · rintro (rfl | ⟨hevent, later, earlier, rfl, hlater⟩)
    · exact ⟨[], history, rfl, nofun⟩
    · exact ⟨event :: later, earlier, rfl, List.forall_mem_cons.2 ⟨hevent, hlater⟩⟩

theorem since_append {later earlier : List SlotEvent} :
    Since begun Keeps (later ++ earlier) ↔
      Since begun Keeps later ∨ (∀ event ∈ later, Keeps event) ∧ Since begun Keeps earlier := by
  induction later with
  | nil => simp [not_since_nil]
  | cons event later ih =>
    rw [List.cons_append, since_cons, since_cons, ih, List.forall_mem_cons, and_or_left, or_assoc,
      and_assoc]

theorem Since.mem (h : Since begun Keeps history) : begun ∈ history := by
  obtain ⟨later, earlier, rfl, _⟩ := h
  exact List.mem_append_right _ List.mem_cons_self

theorem Since.imp (h : Since begun Keeps history) (himp : ∀ event, Keeps event → Holds event) :
    Since begun Holds history := by
  obtain ⟨later, earlier, rfl, hlater⟩ := h
  exact ⟨later, earlier, rfl, fun event he => himp event (hlater event he)⟩

end

/-! ### One operation -/

namespace FrameSlots

variable {slots : FrameSlots}

theorem pending_cancel_eq_some {frame : FrameId} {entry : FrameId × Token} :
    (slots.cancel frame).pending = some entry ↔
      frame ≠ entry.1 ∧ slots.pending = some entry := by
  rw [← Option.mem_toList, pending_cancel, List.mem_filter, Option.mem_toList, and_comm,
    decide_eq_true_eq, ne_comm]

theorem observer_disconnect_eq_some {observer other : ObserverId} :
    (slots.disconnect other).observer = some observer ↔
      other ≠ observer ∧ slots.observer = some observer := by
  rw [← Option.mem_toList, observer_disconnect, List.mem_filter, Option.mem_toList, and_comm,
    decide_eq_true_eq, ne_comm]

theorem takeDue_eq_some {tokens : Tokens} {frame : FrameId} :
    (slots.takeDue tokens).1 = some frame ↔
      ∃ token, slots.pending = some (frame, token) ∧ tokens.isCancelled token = false := by
  unfold takeDue
  cases slots.pending with
  | none => simp
  | some entry =>
    cases hcancelled : tokens.isCancelled entry.2 with
    | false =>
      simp only [hcancelled, Bool.false_eq_true, if_false, Option.some.injEq]
      exact ⟨fun hframe => ⟨entry.2, Prod.ext hframe rfl, hcancelled⟩,
        fun ⟨token, hentry, _⟩ => congrArg Prod.fst hentry⟩
    | true =>
      simp only [hcancelled, if_true, Option.some.injEq]
      constructor
      · nofun
      · rintro ⟨token, rfl, hwanted⟩
        cases hcancelled.symm.trans hwanted

end FrameSlots

namespace SlotStage

variable {stage : SlotStage}

/-- The issued numbers are strictly decreasing from the counter. -/
def Numbered (stage : SlotStage) : Prop :=
  (∀ number ∈ numbers stage.history, number ≤ stage.slots.lastId) ∧
    (numbers stage.history).Pairwise (· > ·)

/-- The frame slot agrees with the history. -/
def Waits (stage : SlotStage) : Prop :=
  ∀ frame token, stage.slots.pending = some (frame, token) ↔
    Since (.requested token frame) (SlotEvent.SparesFrame frame) stage.history

/-- The observer slot agrees with the history. -/
def Observes (stage : SlotStage) : Prop :=
  ∀ observer, stage.slots.observer = some observer ↔
    Since (.observed observer) (SlotEvent.SparesObserver observer) stage.history

/-- The cancelled tokens are those cancelled in the history. -/
def Tracks (stage : SlotStage) : Prop :=
  ∀ token, stage.tokens.isCancelled token = true ↔ .tokenCancelled token ∈ stage.history

/-- Every delivery in the history returned what was due. -/
def Answers (stage : SlotStage) : Prop :=
  ∀ later due earlier, stage.history = later ++ .taken due :: earlier →
    ∀ frame, due = some frame ↔ Due earlier frame

theorem Numbered.next {number : Nat} (h : stage.Numbered)
    (hnumber : number = stage.slots.lastId + 1) :
    (∀ other ∈ number :: numbers stage.history, other ≤ number) ∧
      (number :: numbers stage.history).Pairwise (· > ·) := by
  obtain ⟨hissued, hdescending⟩ := h
  refine ⟨List.forall_mem_cons.2 ⟨Nat.le_refl _, fun other hother => ?_⟩,
    List.pairwise_cons.2 ⟨fun other hother => ?_, hdescending⟩⟩
  · have := hissued other hother
    omega
  · have := hissued other hother
    omega

theorem Numbered.perform (h : stage.Numbered) (operation : SlotOperation) :
    (stage.perform operation).Numbered := by
  cases operation with
  | request token => exact h.next rfl
  | observe => exact h.next rfl
  | cancel frame =>
    obtain ⟨hissued, hdescending⟩ := h
    refine ⟨fun number hnumber => ?_, hdescending⟩
    rw [SlotStage.perform, FrameSlots.lastId_cancel]
    exact hissued number hnumber
  | disconnect observer =>
    obtain ⟨hissued, hdescending⟩ := h
    refine ⟨fun number hnumber => ?_, hdescending⟩
    rw [SlotStage.perform, FrameSlots.lastId_disconnect]
    exact hissued number hnumber
  | takeDue => exact h
  | cancelToken token => exact h

theorem Waits.perform (h : stage.Waits) (operation : SlotOperation) :
    (stage.perform operation).Waits := by
  intro frame token
  cases operation with
  | request other =>
    simp [SlotStage.perform, since_cons, SlotEvent.SparesFrame, eq_comm, and_comm]
  | cancel other =>
    simp only [SlotStage.perform, FrameSlots.pending_cancel_eq_some, since_cons, h frame token,
      SlotEvent.SparesFrame, reduceCtorEq, false_or]
  | observe =>
    simp only [SlotStage.perform, since_cons, SlotEvent.SparesFrame, reduceCtorEq, false_or,
      true_and]
    exact h frame token
  | disconnect observer =>
    simp only [SlotStage.perform, FrameSlots.pending_disconnect, since_cons, h frame token,
      SlotEvent.SparesFrame, reduceCtorEq, false_or, true_and]
  | takeDue =>
    simp only [SlotStage.perform, FrameSlots.takeDue_pending, since_cons, SlotEvent.SparesFrame,
      reduceCtorEq, false_or, false_and]
  | cancelToken other =>
    simp only [SlotStage.perform, since_cons, h frame token, SlotEvent.SparesFrame, reduceCtorEq,
      false_or, true_and]

theorem Observes.perform (h : stage.Observes) (operation : SlotOperation) :
    (stage.perform operation).Observes := by
  intro observer
  cases operation with
  | observe =>
    simp [SlotStage.perform, since_cons, SlotEvent.SparesObserver]
  | disconnect other =>
    simp only [SlotStage.perform, FrameSlots.observer_disconnect_eq_some, since_cons, h observer,
      SlotEvent.SparesObserver, reduceCtorEq, false_or]
  | cancel frame =>
    simp only [SlotStage.perform, FrameSlots.observer_cancel, since_cons, h observer,
      SlotEvent.SparesObserver, reduceCtorEq, false_or, true_and]
  | request | takeDue | cancelToken =>
    simp only [SlotStage.perform, since_cons, SlotEvent.SparesObserver, reduceCtorEq, false_or,
      true_and]
    exact h observer

theorem Tracks.perform (h : stage.Tracks) (operation : SlotOperation) :
    (stage.perform operation).Tracks := by
  intro token
  cases operation with
  | cancelToken other =>
    simp [SlotStage.perform, Tokens.isCancelled_cancel, h token]
  | request | cancel | observe | disconnect | takeDue =>
    simp [SlotStage.perform, h token]

theorem takeDue_iff_due (hwaits : stage.Waits) (htracks : stage.Tracks) (frame : FrameId) :
    (stage.slots.takeDue stage.tokens).1 = some frame ↔ Due stage.history frame := by
  rw [FrameSlots.takeDue_eq_some]
  refine exists_congr fun token => and_congr (hwaits frame token) ?_
  rw [← Bool.not_eq_true]
  exact not_congr (htracks token)

theorem Answers.perform (h : stage.Answers) (hwaits : stage.Waits) (htracks : stage.Tracks)
    (operation : SlotOperation) : (stage.perform operation).Answers := by
  -- only taking a frame adds an answer; every other answer is one of before
  have hother {event : SlotEvent} (hevent : ∀ due, event ≠ .taken due) (later : List SlotEvent)
      (due : Option FrameId) (earlier : List SlotEvent)
      (heq : event :: stage.history = later ++ .taken due :: earlier) (frame : FrameId) :
      due = some frame ↔ Due earlier frame := by
    cases later with
    | nil => exact absurd (List.cons.inj heq).1 (hevent due)
    | cons first later => exact h later due earlier (List.cons.inj heq).2 frame
  cases operation with
  | takeDue =>
    intro later due earlier heq frame
    cases later with
    | nil =>
      obtain ⟨htaken, rfl⟩ := List.cons.inj heq
      cases htaken
      exact takeDue_iff_due hwaits htracks frame
    | cons first later => exact h later due earlier (List.cons.inj heq).2 frame
  | request | cancel | observe | disconnect | cancelToken => exact hother nofun

/-- Invariant of slots, tokens and history. -/
structure Faithful (stage : SlotStage) : Prop where
  numbered : stage.Numbered
  waits : stage.Waits
  observes : stage.Observes
  tracks : stage.Tracks
  answers : stage.Answers

theorem faithful_start : start.Faithful where
  numbered := ⟨nofun, .nil⟩
  waits _ _ := ⟨nofun, fun h => absurd h not_since_nil⟩
  observes _ := ⟨nofun, fun h => absurd h not_since_nil⟩
  tracks _ := ⟨nofun, nofun⟩
  answers later _ _ h := by cases later <;> cases h

theorem Faithful.perform (h : stage.Faithful) (operation : SlotOperation) :
    (stage.perform operation).Faithful where
  numbered := h.numbered.perform operation
  waits := h.waits.perform operation
  observes := h.observes.perform operation
  tracks := h.tracks.perform operation
  answers := h.answers.perform h.waits h.tracks operation

theorem faithful_run (operations : List SlotOperation) : (run operations).Faithful :=
  List.foldlRecOn operations perform faithful_start fun _ h operation _ => h.perform operation

/-! ### Frames in a history -/

variable {later earlier : List SlotEvent} {frame : FrameId}

theorem mem_numbers {history : List SlotEvent} {token : Token} {frame : FrameId}
    (h : .requested token frame ∈ history) : frame.number ∈ numbers history :=
  List.mem_filterMap.2 ⟨_, h, rfl⟩

theorem Numbered.apart (h : stage.Numbered) (hhistory : stage.history = later ++ earlier)
    {number : Nat} (hlater : number ∈ numbers later) : number ∉ numbers earlier := by
  intro hearlier
  obtain ⟨_, hdescending⟩ := h
  rw [hhistory, numbers, List.filterMap_append] at hdescending
  exact Nat.lt_irrefl _ ((List.pairwise_append.1 hdescending).2.2 number hlater number hearlier)

theorem Numbered.token_unique (h : stage.Numbered) {token other : Token}
    (htoken : .requested token frame ∈ stage.history)
    (hother : .requested other frame ∈ stage.history) : token = other := by
  obtain ⟨later, earlier, hhistory⟩ := List.append_of_mem htoken
  rw [hhistory] at hother
  obtain hlater | hhere := List.mem_append.1 hother
  · exact absurd (mem_numbers List.mem_cons_self) (h.apart hhistory (mem_numbers hlater))
  · obtain heq | hearlier := List.mem_cons.1 hhere
    · cases heq
      rfl
    · rw [List.append_cons] at hhistory
      have hlate : .requested token frame ∈ later ++ [.requested token frame] :=
        List.mem_append_right later List.mem_cons_self
      exact absurd (mem_numbers hearlier) (h.apart hhistory (mem_numbers hlate))

theorem Answers.due (h : stage.Answers)
    (hhistory : stage.history = later ++ .taken (some frame) :: earlier) : Due earlier frame :=
  (h later (some frame) earlier hhistory frame).1 rfl

namespace Faithful

theorem not_due (h : stage.Faithful) {between : List SlotEvent} {ended : SlotEvent}
    (hhistory : stage.history = later ++ (between ++ ended :: earlier))
    (hended : ended = .taken (some frame) ∨ ended = .cancelled frame)
    (hrequested : frame.number ∈ numbers earlier) : ¬ Due (between ++ ended :: earlier) frame := by
  rintro ⟨token, hsince, _⟩
  have hbehind : frame.number ∈ numbers (ended :: earlier) := by
    obtain rfl | rfl := hended <;> exact hrequested
  rw [← List.append_assoc] at hhistory
  obtain hbetween | ⟨_, hsince⟩ := since_append.1 hsince
  · have hlate := mem_numbers (List.mem_append_right later hbetween.mem)
    exact h.numbered.apart hhistory hlate hbehind
  · obtain heq | ⟨hnone, _⟩ := since_cons.1 hsince
    · obtain rfl | rfl := hended <;> cases heq
    · obtain rfl | rfl := hended
      · exact hnone
      · exact hnone rfl

theorem requested_of_taken (h : stage.Faithful)
    (hhistory : stage.history = later ++ .taken (some frame) :: earlier) :
    frame.number ∈ numbers earlier := by
  obtain ⟨token, hsince, _⟩ := h.answers.due hhistory
  exact mem_numbers hsince.mem

theorem taken_once (h : stage.Faithful)
    (hhistory : stage.history = later ++ .taken (some frame) :: earlier) :
    .taken (some frame) ∉ earlier := by
  intro htaken
  have hdue := h.answers.due hhistory
  obtain ⟨between, before, rfl⟩ := List.append_of_mem htaken
  rw [List.append_cons] at hhistory
  have hrequested : frame.number ∈ numbers before := by
    rw [← List.append_assoc] at hhistory
    exact h.requested_of_taken hhistory
  exact h.not_due hhistory (.inl rfl) hrequested hdue

theorem not_taken_cancelled (h : stage.Faithful)
    (hhistory : stage.history = later ++ .cancelled frame :: earlier)
    (hrequested : frame.number ∈ numbers earlier) : .taken (some frame) ∉ later := by
  intro htaken
  obtain ⟨last, between, rfl⟩ := List.append_of_mem htaken
  rw [List.append_assoc, List.cons_append] at hhistory
  have hdue := h.answers.due hhistory
  rw [List.append_cons] at hhistory
  exact h.not_due hhistory (.inr rfl) hrequested hdue

theorem not_taken_revoked (h : stage.Faithful) {token : Token}
    (hhistory : stage.history = later ++ .tokenCancelled token :: earlier)
    (hrequested : .requested token frame ∈ stage.history) : .taken (some frame) ∉ later := by
  intro htaken
  obtain ⟨last, between, rfl⟩ := List.append_of_mem htaken
  rw [List.append_assoc, List.cons_append] at hhistory
  obtain ⟨other, hsince, huncancelled⟩ := h.answers.due hhistory
  have hother : .requested other frame ∈ stage.history := by
    rw [hhistory]
    exact List.mem_append_right last (List.mem_cons_of_mem _ hsince.mem)
  obtain rfl := h.numbered.token_unique hrequested hother
  exact huncancelled (List.mem_append_right between List.mem_cons_self)

/-- Cancelling any id but that of the latest request has no effect. -/
theorem cancel_stale (h : stage.Faithful)
    (hstale : ∀ token, ¬ Since (.requested token frame) SlotEvent.AsksNothing stage.history) :
    stage.slots.cancel frame = stage.slots := by
  refine if_neg fun hheld => ?_
  obtain ⟨⟨_, token⟩, hpending, rfl⟩ := Option.map_eq_some_iff.1 hheld
  exact hstale token (((h.waits _ _).1 hpending).imp fun _ => SlotEvent.SparesFrame.asksNothing)

theorem isObserved_iff (h : stage.Faithful) :
    stage.slots.isObserved = true ↔ ∃ observer,
      Since (.observed observer) (SlotEvent.SparesObserver observer) stage.history :=
  Option.isSome_iff_exists.trans (exists_congr h.observes)

end Faithful

end SlotStage

/-- For any sequence of operations, the issued ids increase. A delivery returns a frame exactly if
it is the latest one requested, no frame was taken and it was not cancelled by its id since then,
and its token was never cancelled. Hence no frame is delivered twice, or after its id or its token
was cancelled, and cancelling any other id has no effect. The size is observed exactly if the latest
observer was not disconnected. -/
theorem slots_due (operations : List SlotOperation) :
    let stage := SlotStage.run operations
    (numbers stage.history).Pairwise (· > ·) ∧
    (∀ frame, (stage.slots.takeDue stage.tokens).1 = some frame ↔ Due stage.history frame) ∧
    (∀ frame later earlier, stage.history = later ++ .taken (some frame) :: earlier →
      .taken (some frame) ∉ earlier) ∧
    (∀ frame later earlier, stage.history = later ++ .cancelled frame :: earlier →
      frame.number ∈ numbers earlier → .taken (some frame) ∉ later) ∧
    (∀ token frame later earlier, stage.history = later ++ .tokenCancelled token :: earlier →
      .requested token frame ∈ stage.history → .taken (some frame) ∉ later) ∧
    (∀ frame, (∀ token, ¬ Since (.requested token frame) SlotEvent.AsksNothing stage.history) →
      stage.slots.cancel frame = stage.slots) ∧
    (stage.slots.isObserved = true ↔ ∃ observer,
      Since (.observed observer) (SlotEvent.SparesObserver observer) stage.history) := by
  intro stage
  have h : stage.Faithful := SlotStage.faithful_run operations
  refine ⟨h.numbered.2, SlotStage.takeDue_iff_due h.waits h.tracks, fun frame later earlier => ?_,
    fun frame later earlier => ?_, fun token frame later earlier => ?_, fun frame => ?_, ?_⟩
  · exact h.taken_once
  · exact h.not_taken_cancelled
  · exact h.not_taken_revoked
  · exact h.cancel_stale
  · exact h.isObserved_iff

/-- Cancelling an id before it is issued has no effect on its frame. -/
example :
    let stage := SlotStage.run [.cancel ⟨2⟩, .request ⟨0⟩, .request ⟨0⟩, .cancel ⟨1⟩]
    (stage.slots.takeDue stage.tokens).1 = some ⟨2⟩ := by decide

end ShaderPreview
