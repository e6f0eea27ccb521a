import Mathlib.Data.List.DropRight
import ShaderPreview.Proofs.Session.Draws
import ShaderPreview.Proofs.Session.Readiness

/-!
# Backend histories

The log entries in a trace form an execution of the backend. Invariants of the backend calls hold
along this execution, and every call in the trace was made in one of its states.
-/

namespace ShaderPreview

variable {B : Backend} {H : FrameHost}

def Event.note? : Event B → Option B.Note
  | .note entry => some entry
  | _ => none

def notes (trace : List (Event B)) : List B.Note := trace.filterMap Event.note?

theorem notes_append (trace events : List (Event B)) :
    notes (trace ++ events) = notes trace ++ notes events := List.filterMap_append

theorem notes_call {event : Event B} (h : event.note? = none) (entries : List B.Note) :
    notes (event :: entries.map .note) = entries := by
  have hentries : (entries.map (Event.note (B := B))).filterMap Event.note? = entries := by
    rw [List.filterMap_map]
    exact List.filterMap_some
  rw [notes, List.filterMap_cons_none h, hentries]

theorem notes_aside (trace : List (Event B)) {event : Event B} (h : event.isBackend = false) :
    notes (trace ++ [event]) = notes trace := by
  have hnone : event.note? = none := by
    cases event <;> first | rfl | cases h
  rw [notes_append, notes, notes, List.filterMap_cons_none hnone, List.filterMap_nil,
    List.append_nil]

section

variable {Ready : B.State → Prop} {Holds : Event B → List B.Note → Prop}
  {before after : B.State} {events : List (Event B)}

theorem Consults.note? {event : Event B} {entries : List B.Note}
    (h : Consults before event entries after) : event.note? = none := by
  cases h <;> rfl

theorem Consults.isAcquire {event : Event B} {entries : List B.Note}
    (h : Consults before event entries after) : event.isAcquire = false := by
  cases h <;> rfl

/-- Invariant rule: preserved by every event, so it holds along the history. The step may depend on
the position. -/
theorem Replays.along (Inv : List (Event B) → B.State → Prop)
    (h : Replays Ready Holds before events after)
    (hacquire : ∀ {past canvas before answer}, B.acquire canvas before = answer → Inv past before →
      Inv (past ++ answer.events (.acquire canvas)) answer.state)
    (hconsult : ∀ {past before event entries after later},
      events = past ++ (event :: entries.map .note ++ later) → Consults before event entries after →
      Ready before → Holds event entries → Inv past before →
      Inv (past ++ event :: entries.map .note) after)
    (haside : ∀ {past event state}, event.isBackend = false → Inv past state →
      Inv (past ++ [event]) state)
    (hbefore : Inv [] before) : Inv events after := by
  -- the events already seen are carried along while the others are taken from the front
  suffices hpast : ∀ past later, events = past ++ later → ∀ {state}, Inv past state →
      Replays Ready Holds state later after → Inv events after from hpast [] events rfl hbefore h
  intro past later hevents state hinv hlater
  clear h hbefore
  induction hlater generalizing past with
  | done =>
    rw [hevents, List.append_nil]
    exact hinv
  | acquire asked _ ih => exact ih _ (by rw [hevents, List.append_assoc]) (hacquire asked hinv)
  | consult consults ready holds _ ih =>
    refine ih _ ?_ (hconsult hevents consults ready holds hinv)
    rw [hevents, List.append_assoc]
  | aside aside _ ih => exact ih _ (by rw [hevents, List.append_assoc]; rfl) (haside aside hinv)

theorem Replays.keeps (Inv : List B.Note → B.State → Prop)
    (h : Replays Ready Holds before events after)
    (hacquire : ∀ {past canvas before answer}, B.acquire canvas before = answer → Inv past before →
      Inv (past ++ answer.notes) answer.state)
    (hconsult : ∀ {past before event entries after}, Consults before event entries after →
      Ready before → Holds event entries → Inv past before → Inv (past ++ entries) after)
    (hbefore : Inv [] before) : Inv (notes events) after := by
  refine h.along (fun past => Inv (notes past)) ?_ ?_ ?_ hbefore
  · intro past canvas before answer asked hinv
    rw [notes_append, Answer.events, notes_call rfl]
    exact hacquire asked hinv
  · intro past before event entries after later _ consults ready holds hinv
    rw [notes_append, notes_call consults.note?]
    exact hconsult consults ready holds hinv
  · intro past event state haside hinv
    rwa [notes_aside past haside]

theorem Replays.imp {Ready' : B.State → Prop} {Holds' : Event B → List B.Note → Prop}
    (h : Replays Ready Holds before events after) (hready : ∀ state, Ready state → Ready' state)
    (hholds : ∀ event ∈ events, ∀ entries, Holds event entries → Holds' event entries) :
    Replays Ready' Holds' before events after := by
  induction h with
  | done => exact .done _
  | acquire asked _ ih =>
    exact .acquire asked (ih fun event he => hholds event (List.mem_append_right _ he))
  | consult consults ready holds _ ih =>
    refine .consult consults (hready _ ready) (hholds _ List.mem_cons_self _ holds) ?_
    exact ih fun event he => hholds event (List.mem_append_right _ he)
  | aside aside _ ih =>
    exact .aside aside (ih fun event he => hholds event (List.mem_cons_of_mem _ he))

def Consulted (Ready : B.State → Prop) (event : Event B) (events : List (Event B)) : Prop :=
  ∃ state entries next, Consults state event entries next ∧ Ready state ∧
    ∀ entry ∈ entries, .note entry ∈ events

theorem Consulted.among {event : Event B} {later : List (Event B)}
    (h : Consulted Ready event events) (hlater : ∀ other ∈ events, other ∈ later) :
    Consulted Ready event later := by
  obtain ⟨state, entries, next, hmade, hready, hnotes⟩ := h
  exact ⟨state, entries, next, hmade, hready, fun entry he => hlater _ (hnotes entry he)⟩

end

/-! ### Since the device was last asked for -/

/-- Events after the last acquisition. -/
def sinceAcquire (events : List (Event B)) : List (Event B) :=
  events.rtakeWhile fun event => !event.isAcquire

section

variable {later : List (Event B)}

theorem sinceAcquire_append (events : List (Event B))
    (h : ∀ event ∈ later, event.isAcquire = false) :
    sinceAcquire (events ++ later) = sinceAcquire events ++ later := by
  have hpasses : ∀ event ∈ later.reverse, (!event.isAcquire) = true := by
    intro event he
    rw [h event (List.mem_reverse.1 he)]
    rfl
  rw [sinceAcquire, List.rtakeWhile, List.reverse_append, List.takeWhile_append_of_pos hpasses,
    List.reverse_append, List.reverse_reverse]
  rfl

theorem sinceAcquire_acquire (events : List (Event B)) {call : Event B}
    (hcall : call.isAcquire = true) (h : ∀ event ∈ later, event.isAcquire = false) :
    sinceAcquire (events ++ call :: later) = later := by
  rw [List.append_cons, sinceAcquire_append _ h, sinceAcquire,
    List.rtakeWhile_concat_neg _ _ _ (by simp [hcall]), List.nil_append]

end

def Builds (events : List (Event B)) (pipeline : B.Pipeline) : Prop :=
  ∃ stages resources, .buildPipeline stages resources (.ok pipeline) ∈ events

theorem Builds.append {events : List (Event B)} {pipeline : B.Pipeline}
    (h : Builds events pipeline) (later : List (Event B)) : Builds (events ++ later) pipeline := by
  obtain ⟨stages, resources, he⟩ := h
  exact ⟨stages, resources, List.mem_append_left later he⟩

namespace RenderLoop

/-- The pipeline of the session, and the pipeline of every draw at the time of the draw, were built
after the last acquisition. -/
structure BuiltSinceAcquire (loop : RenderLoop B H) : Prop where
  session {session : Session B} : loop.session = some session →
    Builds (sinceAcquire loop.trace) session.pipeline
  drawn {earlier later : List (Event B)} {pipeline : B.Pipeline} {resources : B.Resources}
    {vertices : Option B.Vertices} {frame : FrameInput} {result : Except Failure Unit} :
    loop.trace = earlier ++ .draw pipeline resources vertices frame result :: later →
    Builds (sinceAcquire earlier) pipeline

theorem start_builds {frontEnd : FrontEnd} {request : RenderRequest} {now : Nat}
    {loop : RenderLoop B H} {session : Session B}
    (h : (loop.start frontEnd request now).session = some session) :
    Builds (sinceAcquire (loop.start frontEnd request now).trace) session.pipeline := by
  obtain ⟨attempt, htrace, _, hprovides⟩ := start_attemptProvides h
  obtain ⟨stages, hbuild⟩ := hprovides.made.built
  obtain ⟨later, hacquire, hunacquired⟩ := loop.acquire_start frontEnd request now
  obtain ⟨turn, hturn, hpoised, _⟩ := loop.atAcquire_turns request
  rw [hacquire, sinceAcquire_acquire _ rfl hunacquired]
  have hattempt : attempt = turn ++ .acquire request.canvas
      (B.acquire request.canvas (loop.atAcquire request).backend).value :: later := by
    refine List.append_cancel_left (htrace.symm.trans (hacquire.trans ?_))
    rw [hpoised, List.append_assoc]
  rw [hattempt] at hbuild
  obtain hbuild | hbuild := List.mem_append.1 hbuild
  · obtain ⟨_, hevent⟩ := hturn _ hbuild
    cases hevent
  · exact ⟨stages, _, (List.mem_cons.1 hbuild).resolve_left nofun⟩

theorem BuiltSinceAcquire.perform {loop : RenderLoop B H} (h : loop.BuiltSinceAcquire)
    (hsettled : loop.Settled) (frontEnd : FrontEnd) (ledger : Ledger H) (operation : Operation) :
    (loop.perform frontEnd ledger operation).BuiltSinceAcquire := by
  refine ⟨fun {session} hsession => ?_,
    fun {earlier later pipeline resources vertices frame result} hsplit => ?_⟩
  · cases hattempt : loop.attempt? operation with
    | some request =>
      obtain ⟨now, _, hstart⟩ := perform_attempt_at frontEnd ledger hattempt
      rw [hstart] at hsession ⊢
      exact start_builds hsession
    | none =>
      obtain ⟨before, hbefore, frame, failures, rfl⟩ :=
        session_unasked frontEnd ledger hattempt hsession
      obtain ⟨events, htrace, hevents⟩ := unacquired_perform frontEnd ledger hsettled hattempt
      rw [htrace, sinceAcquire_append _ hevents]
      exact (h.session hbefore).append events
  · obtain ⟨events, htrace, hdraws⟩ := draws_perform frontEnd ledger operation hsettled
    rw [htrace] at hsplit
    obtain ⟨between, rfl, hbetween⟩ | ⟨between, hbefore, hbetween⟩ :=
      List.append_eq_append_iff.1 hsplit
    · -- the draw is new, and no call for the device is made in the operation of a frame
      have hdraw : .draw pipeline resources vertices frame result ∈ events := by
        rw [hbetween]
        exact List.mem_append_right _ List.mem_cons_self
      obtain ⟨requested, now, session, _, rfl, hsession, hevent⟩ := hdraws _ hdraw rfl
      cases hevent
      have hnone : loop.attempt? (.frame requested now) = none := rfl
      obtain ⟨others, hothers, hunacquired⟩ := unacquired_perform frontEnd ledger hsettled hnone
      obtain rfl := List.append_cancel_left (htrace.symm.trans hothers)
      rw [hbetween] at hunacquired
      rw [sinceAcquire_append _ (List.forall_mem_append.1 hunacquired).1]
      exact (h.session hsession).append between
    · cases between with
      | nil =>
        rw [List.append_nil] at hbefore
        rw [List.nil_append] at hbetween
        obtain ⟨_, now, session, _, _, hsession, hevent⟩ :=
          hdraws _ (hbetween ▸ List.mem_cons_self) rfl
        cases hevent
        exact hbefore ▸ h.session hsession
      | cons first between =>
        obtain ⟨rfl, _⟩ := List.cons.inj hbetween
        exact h.drawn hbefore

theorem builtSinceAcquire_run (frontEnd : FrontEnd) (ledger : Ledger H) (backend : B.State)
    (operations : List Operation) :
    ((idle backend ledger.initial).run frontEnd ledger operations).BuiltSinceAcquire := by
  refine run_induction frontEnd ledger backend (fun _ loop => loop.BuiltSinceAcquire)
    ⟨nofun, fun hsplit => ?_⟩ ?_ operations
  · cases (List.append_eq_nil_iff.1 hsplit.symm).2
  · intro _ operation loop _ hsettled hbuilt
    exact hbuilt.perform hsettled frontEnd ledger operation

end RenderLoop

end ShaderPreview
